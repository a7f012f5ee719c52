import QueryShapes.Number.Reading
import QueryShapes.Text.Blank
import QueryShapes.Toml.Text

/-!
# Numbers, dates and times in TOML

- `integer?`: decimal without leading zeros, or hexadecimal, octal or binary; 64 bits.
- `float?`: with a fraction, an exponent or both, or one of the special values.
- `isMoment`: dates and times that exist.
-/

namespace QueryShapes.Toml

open Reading

/-! ## Numbers -/

/-- Digits with single underscores between them, without the underscores. -/
def digits? (isDigit : Char → Bool) (text : List Char) : Option (List Char) :=
  let groups := Text.splitOn (· = '_') text
  if groups.all fun group => !group.isEmpty && group.all isDigit then some groups.flatten else none

/-- A whole number in decimal without needless zeros. -/
def whole? (text : List Char) : Option (List Char) :=
  (digits? Char.isDigit text).filter fun ds => ds.length = 1 || ds.head? != some '0'

def sign? : List Char → Option Char × List Char
  | '+' :: rest => (some '+', rest)
  | '-' :: rest => (some '-', rest)
  | rest => (none, rest)

def digitValue (c : Char) : Nat := (hexDigit? c).getD 0

/-- A number in a base other than ten. -/
def based? (base : Nat) (text : List Char) : Option Int64 := do
  let ds ← digits? (fun c => (hexDigit? c).any (· < base)) text
  int64OfInt? (ds.foldl (fun n c => base * n + digitValue c) 0 : Nat)

def integer? (text : List Char) : Option Int64 :=
  match text with
  | '0' :: 'x' :: rest => based? 16 rest
  | '0' :: 'o' :: rest => based? 8 rest
  | '0' :: 'b' :: rest => based? 2 rest
  | _ => do
    let (sign, rest) := sign? text
    int64? (String.ofList (sign.toList ++ (← whole? rest)))

def isExponentMark (c : Char) : Bool := c == 'e' || c == 'E'

/-- An exponent after its mark. -/
def exponent? (text : List Char) : Option (List Char) := do
  let (sign, rest) := sign? text
  return sign.toList ++ (← digits? Char.isDigit rest)

/-- A number with a fraction or an exponent, in the spelling without underscores. -/
def decimal? (text : List Char) : Option (List Char) := do
  let mantissa := text.takeWhile (!isExponentMark ·)
  let whole ← whole? (mantissa.takeWhile (· ≠ '.'))
  let fraction ← match mantissa.dropWhile (· ≠ '.') with
    | _ :: rest => (digits? Char.isDigit rest).map ('.' :: ·)
    | [] => some []
  let exponent ← match text.dropWhile (!isExponentMark ·) with
    | _ :: rest => (exponent? rest).map ('e' :: ·)
    | [] => some []
  if fraction.isEmpty && exponent.isEmpty then none else return whole ++ fraction ++ exponent

/-- A float. A positive one out of range is none. -/
def float? (text : List Char) : Option Double :=
  let (sign, rest) := sign? text
  if rest = "inf".toList ∨ rest = "nan".toList then
    Double.ofText? (String.ofList (sign.toList ++ rest))
  else do
    let x ← Double.ofText? (String.ofList (sign.toList ++ (← decimal? rest)))
    if !x.isFinite && !x.negative then none else return x

/-! ## Dates and times -/

/-- A number of exactly so many digits. -/
def fixed? (length : Nat) (text : List Char) : Option Nat :=
  if text.length = length then natural? text else none

def isLeapYear (year : Nat) : Bool := year % 4 = 0 && (year % 100 ≠ 0 || year % 400 = 0)

def daysIn (year month : Nat) : Nat :=
  if month = 2 then if isLeapYear year then 29 else 28
  else if month = 4 ∨ month = 6 ∨ month = 9 ∨ month = 11 then 30 else 31

def isDate (text : List Char) : Bool :=
  match Text.splitOn (· = '-') text with
  | [y, m, d] => match fixed? 4 y, fixed? 2 m, fixed? 2 d with
    | some year, some month, some day =>
      1 ≤ month && month ≤ 12 && 1 ≤ day && day ≤ daysIn year month
    | _, _, _ => false
  | _ => false

/-- A time of day; a minute may have a leap second. -/
def isTime (text : List Char) : Bool :=
  let fraction := text.dropWhile (· ≠ '.')
  let fractionOk := match fraction with
    | [] => true
    | _ :: rest => !rest.isEmpty && rest.all Char.isDigit
  match Text.splitOn (· = ':') (text.takeWhile (· ≠ '.')) with
  | [h, m, s] => match fixed? 2 h, fixed? 2 m, fixed? 2 s with
    | some hour, some minute, some second =>
      fractionOk && hour ≤ 23 && minute ≤ 59 && second ≤ 60
    | _, _, _ => false
  | _ => false

/-- The distance from universal time, after its sign. -/
def isDistance (text : List Char) : Bool :=
  match Text.splitOn (· = ':') text with
  | [h, m] => match fixed? 2 h, fixed? 2 m with
    | some hour, some minute => hour ≤ 23 && minute ≤ 59
    | _, _ => false
  | _ => false

def isZoneMark (c : Char) : Bool := c == 'Z' || c == 'z' || c == '+' || c == '-'

/-- A time of day with an optional zone. -/
def isZonedTime (text : List Char) : Bool :=
  isTime (text.takeWhile (!isZoneMark ·)) &&
    match text.dropWhile (!isZoneMark ·) with
    | [] => true
    | [mark] => mark == 'Z' || mark == 'z'
    | mark :: rest => (mark == '+' || mark == '-') && isDistance rest

/-- A date, a time, or a date and a time with a `T` or blank between them. -/
def isMoment (text : List Char) : Bool :=
  isTime text || isDate text || (isDate (text.take 10) &&
    match text.drop 10 with
    | mark :: time => (mark == 'T' || mark == 't' || mark == ' ') && isZonedTime time
    | [] => false)

/-! ## Reading them -/

def isNumberChar (c : Char) : Bool :=
  c.isAlphanum || c == '_' || c == '-' || c == '+' || c == '.' || c == ':'

/-- The characters of a number, date or time. A date goes on after a blank where a digit does. -/
def numberText : Rule (List Char) := do
  let first ← takeWhile isNumberChar
  if isDate first && (← peek?) == some ' ' && ((← ahead? 1).any Char.isDigit) then
    let blank ← next
    return first ++ blank :: (← takeWhile isNumberChar)
  else return first

end QueryShapes.Toml
