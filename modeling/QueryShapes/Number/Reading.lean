import QueryShapes.Number.Int64
import QueryShapes.Number.Shortest

/-!
# Reading numbers

Integers of a bounded range and doubles, each from a whole text without blanks.

- `int64?` and `naturalUpTo?` refuse what is out of range.
- `Double.ofText?`: an optional sign, then digits with at most one point and an optional exponent,
  or one of the names of the infinities and of the non-number.
-/

namespace QueryShapes

/-- The value of a character as a decimal digit of ASCII. -/
def asciiDigit? (c : Char) : Option Nat :=
  if c.isDigit then some (c.toNat - '0'.toNat) else none

/-- The value of a text of digits, most significant first, after digits worth `high`. -/
def digitsAfter? (high : Nat) : List Char → Option Nat
  | [] => some high
  | c :: rest => (asciiDigit? c).bind fun d => digitsAfter? (10 * high + d) rest

/-- The value of a text that consists of one or more digits. -/
def natural? (text : List Char) : Option Nat :=
  if text.isEmpty then none else digitsAfter? 0 text

/-- A sign and what follows it; a text without a sign is not negative. -/
def splitSign : List Char → Bool × List Char
  | '-' :: rest => (true, rest)
  | '+' :: rest => (false, rest)
  | text => (false, text)

/-- An integer of 64 bits, with an optional sign. -/
def int64? (text : String) : Option Int64 :=
  let (negative, rest) := splitSign text.toList
  (natural? rest).bind fun n => int64OfInt? (if negative then -n else n)

/-- A natural number up to `bound`; a plus sign may precede it. -/
def naturalUpTo? (bound : Nat) (text : String) : Option Nat :=
  let digits := match text.toList with
    | '+' :: rest => rest
    | rest => rest
  (natural? digits).filter (· ≤ bound)

/-! ## Doubles -/

/-- An integer with an optional sign, of any size. -/
def integer? (text : List Char) : Option Int :=
  let (negative, rest) := splitSign text
  (natural? rest).map fun n => if negative then -n else n

/-- The double nearest to `digits · 10 ^ exponent`. Exponents far outside the range of doubles are
not worked out. -/
def Double.ofDecimal (negative : Bool) (digits : Nat) (exponent : Int) : Double :=
  let point := ((Nat.toDigits 10 digits).length : Int) + exponent
  if digits = 0 || point < -400 then ⟨negative, 0⟩
  else if 400 < point then infinity negative
  else (ShortDecimal.mk digits exponent).toDouble negative

/-- Digits with at most one point and at least one digit, and an optional exponent. -/
def unsignedDouble? (negative : Bool) (text : List Char) : Option Double :=
  let mantissa := text.takeWhile fun c => c != 'e' && c != 'E'
  let whole := mantissa.takeWhile (· != '.')
  let fraction := (mantissa.dropWhile (· != '.')).drop 1
  let exponent? := match text.dropWhile fun c => c != 'e' && c != 'E' with
    | [] => some 0
    | _ :: digits => integer? digits
  (natural? (whole ++ fraction)).bind fun digits =>
    exponent?.map fun exponent =>
      .ofDecimal negative digits (exponent - fraction.length)

/-- A double of any spelling; names of special values are read in any case. -/
def Double.ofText? (text : String) : Option Double :=
  let (negative, rest) := splitSign text.toList
  let name := String.ofList (rest.map Char.toLower)
  if name = "inf" ∨ name = "infinity" then some (infinity negative)
  else if name = "nan" then some { notANumber with negative := negative }
  else unsignedDouble? negative rest

end QueryShapes
