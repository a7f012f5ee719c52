import QueryShapes.Text.Cut

/-!
# Texts with numeric escapes

The texts that an `E` introduces. A backslash in them may be followed by the code of a character.

- `escape?`: the character that stands after a backslash.
- `takeEscaped?`: the content of such a text up to its closing quote.
-/

namespace QueryShapes.Sql

def isOctalDigit (c : Char) : Bool := '0' ≤ c && c ≤ '7'

def isHexDigit (c : Char) : Bool :=
  c.isDigit || ('a' ≤ c && c ≤ 'f') || ('A' ≤ c && c ≤ 'F')

def hexValue (c : Char) : Nat :=
  if c.isDigit then c.toNat - '0'.toNat else c.toLower.toNat - 'a'.toNat + 10

/-- The number that digits stand for, most significant first. -/
def numeral (base : Nat) (digits : List Char) : Nat :=
  digits.foldl (fun high d => high * base + hexValue d) 0

/-- The character of a byte, of which only the lower half has any. -/
def byteChar? (n : Nat) : Option Char :=
  if n % 256 < 128 then some (Char.ofNat (n % 256)) else none

/-- The character of a code point in a given number of characters, which have to be hexadecimal
digits; the first may be a plus sign. -/
def codePoint? (width : Nat) (text : List Char) : Option (Char × List Char) :=
  let code := text.take width
  let digits := (Text.after? ['+'] code).getD code
  let n := numeral 16 digits
  if code.length = width ∧ digits.all isHexDigit ∧ n.isValidChar then
    some (Char.ofNat n, text.drop width)
  else none

/-- The digits at the head of a text, at most so many of them, and the rest. -/
def takeDigits (isDigit : Char → Bool) (most : Nat) (text : List Char) : List Char × List Char :=
  let digits := (text.take most).takeWhile isDigit
  (digits, text.drop digits.length)

/-- The character that the text after a backslash begins with, and the rest. -/
def escape? : List Char → Option (Char × List Char)
  | [] => none
  | c :: rest => match c with
    | 'b' => some ('\x08', rest)
    | 'f' => some ('\x0c', rest)
    | 'n' => some ('\n', rest)
    | 'r' => some ('\r', rest)
    | 't' => some ('\t', rest)
    | 'u' => codePoint? 4 rest
    | 'U' => codePoint? 8 rest
    | 'x' =>
      let (digits, rest) := takeDigits isHexDigit 2 rest
      if digits.isEmpty then some ('x', rest)
      else (byteChar? (numeral 16 digits)).map fun d => (d, rest)
    | _ =>
      if isOctalDigit c then
        let (digits, rest) := takeDigits isOctalDigit 2 rest
        (byteChar? (numeral 8 (c :: digits))).map fun d => (d, rest)
      else some (c, rest)

/-- The content of a text up to its closing quote, and the rest. A doubled quote stands for itself;
no escape stands for the character with the code zero. -/
def takeEscapedWithin? : Nat → List Char → Option (List Char × List Char)
  | 0, _ | _, [] => none
  | fuel + 1, c :: rest =>
    if c = '\'' then
      match Text.after? ['\''] rest with
      | some rest => (takeEscapedWithin? fuel rest).map fun (s, r) => ('\'' :: s, r)
      | none => some ([], rest)
    else if c = '\\' then do
      let (d, rest) ← escape? rest
      if d = '\x00' then none
      let (s, r) ← takeEscapedWithin? fuel rest
      return (d :: s, r)
    else (takeEscapedWithin? fuel rest).map fun (s, r) => (c :: s, r)

def takeEscaped? (text : List Char) : Option (List Char × List Char) :=
  takeEscapedWithin? (text.length + 1) text

/-- A character of such a text as it is written. -/
def writeEscape : Char → List Char
  | '\'' => ['\\', '\'']
  | '\\' => ['\\', '\\']
  | '\n' => ['\\', 'n']
  | '\t' => ['\\', 't']
  | '\r' => ['\\', 'r']
  | c => [c]

end QueryShapes.Sql
