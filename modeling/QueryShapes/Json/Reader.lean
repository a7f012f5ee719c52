import QueryShapes.Json.Basic

/-!
# Reading JSON

- `Json.ofText?`: the value that a whole text is written for.
- `stringBody?`: the characters and escaped units of a string up to its closing quote.
-/

namespace QueryShapes.Json

/-! ## Blanks and numbers -/

def isBlank (c : Char) : Bool := c == ' ' || c == '\n' || c == '\t' || c == '\r'

def skipBlanks (text : List Char) : List Char := text.dropWhile isBlank

/-- One or more digits and the rest. -/
def digits? (text : List Char) : Option (List Char × List Char) :=
  if text.head?.any Char.isDigit then
    some (text.takeWhile Char.isDigit, text.dropWhile Char.isDigit)
  else none

/-- A whole number without needless zeros. -/
def whole? (text : List Char) : Option (List Char × List Char) :=
  match text with
  | '0' :: rest => some (['0'], rest)
  | _ => digits? text

/-- A part of a number that may be missing: a mark and digits after it. -/
def fraction? (text : List Char) : Option (List Char × List Char) :=
  match text with
  | '.' :: rest => (digits? rest).map fun (ds, r) => ('.' :: ds, r)
  | _ => some ([], text)

def exponent? (text : List Char) : Option (List Char × List Char) :=
  match text with
  | e :: rest =>
    if e = 'e' ∨ e = 'E' then
      match rest with
      | s :: rest' =>
        if s = '+' ∨ s = '-' then (digits? rest').map fun (ds, r) => (e :: s :: ds, r)
        else (digits? rest).map fun (ds, r) => (e :: ds, r)
      | [] => none
    else some ([], text)
  | [] => some ([], [])

/-- A number as it is written, and the rest. -/
def number? (text : List Char) : Option (Json × List Char) := do
  let (sign, rest) := match text with
    | '-' :: rest => (['-'], rest)
    | _ => ([], text)
  let (whole, rest) ← whole? rest
  let (fraction, rest) ← fraction? rest
  let (exponent, rest) ← exponent? rest
  return (.number (String.ofList (sign ++ whole ++ fraction ++ exponent)), rest)

/-! ## Strings -/

def hexValue? (c : Char) : Option Nat :=
  if c.isDigit then some (c.toNat - '0'.toNat)
  else if 'a' ≤ c ∧ c ≤ 'f' then some (c.toNat - 'a'.toNat + 10)
  else if 'A' ≤ c ∧ c ≤ 'F' then some (c.toNat - 'A'.toNat + 10)
  else none

/-- The value of hexadecimal digits, most significant first. -/
def hexNumber? (digits : List Char) : Option Nat :=
  digits.foldlM (fun n c => (hexValue? c).map (16 * n + ·)) 0

/-- The character that a letter after a backslash stands for. -/
def escaped? : Char → Option Char
  | '"' => some '"'
  | '\\' => some '\\'
  | '/' => some '/'
  | 'b' => some '\x08'
  | 'f' => some '\x0c'
  | 'n' => some '\n'
  | 'r' => some '\r'
  | 't' => some '\t'
  | _ => none

/-- The units of a string up to its closing quote: code points, some of which may be halves of
surrogate pairs. -/
def stringBody? : List Char → Option (List Nat × List Char)
  | [] => none
  | '"' :: rest => some ([], rest)
  | '\\' :: 'u' :: a :: b :: c :: d :: rest => do
    let unit ← hexNumber? [a, b, c, d]
    let (units, rest) ← stringBody? rest
    return (unit :: units, rest)
  | '\\' :: c :: rest => do
    let c ← escaped? c
    let (units, rest) ← stringBody? rest
    return (c.toNat :: units, rest)
  | c :: rest =>
    if c.toNat < 0x20 then none
    else (stringBody? rest).map fun (units, rest) => (c.toNat :: units, rest)

def isHighSurrogate (unit : Nat) : Bool := 0xD800 ≤ unit && unit < 0xDC00

def isLowSurrogate (unit : Nat) : Bool := 0xDC00 ≤ unit && unit < 0xE000

/-- The characters of a list of units, in which surrogates come in pairs. -/
def charsOfUnits? : List Nat → Option (List Char)
  | [] => some []
  | [unit] => if isHighSurrogate unit || isLowSurrogate unit then none else some [Char.ofNat unit]
  | unit :: second :: rest =>
    if isHighSurrogate unit then
      if isLowSurrogate second then
        (charsOfUnits? rest).map
          (Char.ofNat (0x10000 + (unit - 0xD800) * 0x400 + (second - 0xDC00)) :: ·)
      else none
    else if isLowSurrogate unit then none
    else (charsOfUnits? (second :: rest)).map (Char.ofNat unit :: ·)

/-- A string up to its closing quote; its text is missing where it is garbled. -/
def quotedText? (text : List Char) : Option (Option String × List Char) :=
  (stringBody? text).map fun (units, rest) => ((charsOfUnits? units).map String.ofList, rest)

/-! ## Values -/

/-- The object of some members, garbled if a name is. -/
def ofMembers (members : List (Option String × Json)) : Json :=
  match members.mapM fun (name, value) => name.map (·, value) with
  | some named => .object named
  | none => .garbled

/-- A word at the head of a text. -/
def word? (word : String) (value : Json) (text : List Char) : Option (Json × List Char) :=
  if word.toList.isPrefixOf text then some (value, text.drop word.length) else none

mutual

/-- A value at the head of a text, and the rest. -/
def valueWithin? : Nat → List Char → Option (Json × List Char)
  | 0, _ => none
  | fuel + 1, text =>
    match skipBlanks text with
    | '"' :: rest => (quotedText? rest).map fun (s, rest) => ((s.map string).getD garbled, rest)
    | '[' :: rest => match skipBlanks rest with
      | ']' :: rest => some (array [], rest)
      | rest => (elementsWithin? fuel rest).map fun (elements, rest) => (array elements, rest)
    | '{' :: rest => match skipBlanks rest with
      | '}' :: rest => some (object [], rest)
      | rest => (membersWithin? fuel rest).map fun (members, rest) => (ofMembers members, rest)
    | 't' :: rest => word? "true" (boolean true) ('t' :: rest)
    | 'f' :: rest => word? "false" (boolean false) ('f' :: rest)
    | 'n' :: rest => word? "null" null ('n' :: rest)
    | rest => number? rest

/-- The elements of an array up to its closing bracket. -/
def elementsWithin? : Nat → List Char → Option (List Json × List Char)
  | 0, _ => none
  | fuel + 1, text => do
    let (first, rest) ← valueWithin? fuel text
    match skipBlanks rest with
    | ']' :: rest => return ([first], rest)
    | ',' :: rest =>
      let (others, rest) ← elementsWithin? fuel rest
      return (first :: others, rest)
    | _ => none

/-- The members of an object up to its closing brace. -/
def membersWithin? : Nat → List Char → Option (List (Option String × Json) × List Char)
  | 0, _ => none
  | fuel + 1, text => do
    let afterQuote ← match skipBlanks text with
      | '"' :: rest => some rest
      | _ => none
    let (name, rest) ← quotedText? afterQuote
    let afterColon ← match skipBlanks rest with
      | ':' :: rest => some rest
      | _ => none
    let (value, rest) ← valueWithin? fuel afterColon
    match skipBlanks rest with
    | '}' :: rest => return ([(name, value)], rest)
    | ',' :: rest =>
      let (others, rest) ← membersWithin? fuel rest
      return ((name, value) :: others, rest)
    | _ => none

end

/-- The value that a text is written for, with nothing but blanks around it. -/
def ofText? (text : String) : Option Json :=
  match valueWithin? (text.toList.length + 1) text.toList with
  | some (value, rest) => if (skipBlanks rest).isEmpty then some value else none
  | none => none

end QueryShapes.Json
