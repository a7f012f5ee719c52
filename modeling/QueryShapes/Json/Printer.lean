import QueryShapes.Json.Basic

/-!
# Writing JSON

- `Json.compact`: all on one line, without blanks.
- `Json.pretty`: one element or member a line, indented by two blanks a level.
- `escape_append`: texts are escaped character by character.
-/

namespace QueryShapes.Json

/-! ## Strings -/

def hexDigit (n : Nat) : Char := Nat.digitChar n

/-- How a character is written inside quotes. -/
def escapeChar (c : Char) : List Char :=
  match c with
  | '"' => ['\\', '"']
  | '\\' => ['\\', '\\']
  | '\n' => ['\\', 'n']
  | '\r' => ['\\', 'r']
  | '\t' => ['\\', 't']
  | '\x08' => ['\\', 'b']
  | '\x0c' => ['\\', 'f']
  | c =>
    if c.toNat < 0x20 then ['\\', 'u', '0', '0', hexDigit (c.toNat / 16), hexDigit (c.toNat % 16)]
    else [c]

def escape (text : List Char) : List Char := text.flatMap escapeChar

theorem escape_append (a b : List Char) : escape (a ++ b) = escape a ++ escape b := by
  simp [escape]

/-- A text in quotes. -/
def quote (text : String) : List Char := '"' :: (escape text.toList ++ ['"'])

/-! ## Compact form -/

mutual

def compactChars : Json → List Char
  | null => "null".toList
  | boolean b => (if b then "true" else "false").toList
  | number text => text.toList
  | string s => quote s
  | array elements => '[' :: (elementChars elements ++ [']'])
  | object members => '{' :: (memberChars members ++ ['}'])
  | garbled => quote "\uFFFD"

/-- Elements with commas between them. -/
def elementChars : List Json → List Char
  | [] => []
  | [last] => last.compactChars
  | first :: rest => first.compactChars ++ ',' :: elementChars rest

def memberChars : List (String × Json) → List Char
  | [] => []
  | [(name, value)] => quote name ++ ':' :: value.compactChars
  | (name, value) :: rest => quote name ++ ':' :: (value.compactChars ++ ',' :: memberChars rest)

end

def compact (value : Json) : String := String.ofList value.compactChars

/-! ## Pretty form -/

/-- A new line with its indentation. -/
def newLine (depth : Nat) : List Char := '\n' :: List.replicate (2 * depth) ' '

mutual

def prettyChars (depth : Nat) : Json → List Char
  | array [] => ['[', ']']
  | array elements =>
    '[' :: (prettyElements (depth + 1) elements ++ newLine depth ++ [']'])
  | object [] => ['{', '}']
  | object members =>
    '{' :: (prettyMembers (depth + 1) members ++ newLine depth ++ ['}'])
  | value => value.compactChars

def prettyElements (depth : Nat) : List Json → List Char
  | [] => []
  | [last] => newLine depth ++ last.prettyChars depth
  | first :: rest =>
    newLine depth ++ first.prettyChars depth ++ ',' :: prettyElements depth rest

def prettyMembers (depth : Nat) : List (String × Json) → List Char
  | [] => []
  | [(name, value)] => newLine depth ++ quote name ++ ':' :: ' ' :: value.prettyChars depth
  | (name, value) :: rest =>
    newLine depth ++ quote name ++ ':' :: ' ' ::
      (value.prettyChars depth ++ ',' :: prettyMembers depth rest)

end

def pretty (value : Json) : String := String.ofList (value.prettyChars 0)

end QueryShapes.Json
