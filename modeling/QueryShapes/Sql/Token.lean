import QueryShapes.Text.Letter

/-!
# Tokens of SQL text

Names, literals and symbols. A name keeps its quote, because only bare names can be keywords.

- `upper_ascii`: keywords are recognized in any mixture of ASCII case.
-/

namespace QueryShapes.Sql

/-- A name as written, with the quote around it if there was one. -/
structure Name where
  text : String
  quote : Option Char := none
deriving DecidableEq

inductive Token
  | word (name : Name)
  | number (text : String) (long : Bool)
  /-- A string literal in single or double quotes. -/
  | string (quote : Char) (text : String)
  /-- A literal introduced by a letter, such as `X'1F'`. -/
  | tagged (tag : Char) (text : String)
  | placeholder (text : String)
  | symbol (text : String)
deriving DecidableEq

/-- Upper case as far as it can produce ASCII letters. -/
def upperChar (c : Char) : List Char :=
  if c.toNat < 0x80 then [c.toUpper]
  else match c with
    | 'ſ' => ['S']
    | 'ı' => ['I']
    | 'ß' => ['S', 'S']
    | 'ﬀ' => ['F', 'F']
    | 'ﬁ' => ['F', 'I']
    | 'ﬂ' => ['F', 'L']
    | 'ﬃ' => ['F', 'F', 'I']
    | 'ﬄ' => ['F', 'F', 'L']
    | 'ﬅ' | 'ﬆ' => ['S', 'T']
    | _ => [c]

def upper (text : String) : String := String.ofList (text.toList.flatMap upperChar)

theorem upper_ascii (text : String) (h : ∀ c ∈ text.toList, c.toNat < 0x80) :
    upper text = String.ofList (text.toList.map Char.toUpper) := by
  unfold upper
  congr 1
  generalize text.toList = cs at h
  induction cs with
  | nil => rfl
  | cons c rest ih =>
    have hc := h c (by simp)
    simp [List.flatMap_cons, upperChar, hc, ih fun d hd => h d (by simp [hd])]

/-- The keyword that a name spells, in capitals; quoted names spell none. -/
def Name.keyword (name : Name) : String := if name.quote.isSome then "" else upper name.text

def Token.keyword : Token → String
  | .word name => name.keyword
  | _ => ""

/-- The text with each quote doubled, except after a backslash. -/
def doubleQuotes (quote : Char) : Char → List Char → List Char
  | _, [] => []
  | previous, c :: rest =>
    if c = quote then
      if previous = '\\' then c :: doubleQuotes quote previous rest
      else match rest with
        | d :: rest => if d = quote then c :: c :: doubleQuotes quote c rest
          else c :: c :: doubleQuotes quote c (d :: rest)
        | [] => [c, c]
    else c :: doubleQuotes quote c rest
termination_by _ text => text.length

/-- A text between quotes. -/
def quoted (quote : Char) (text : String) : String :=
  String.ofList (quote :: (doubleQuotes quote '\x00' text.toList ++ [quote]))

/-- A name as it is written in SQL. -/
def Name.render (name : Name) : String :=
  match name.quote with
  | some quote => quoted quote name.text
  | none => name.text

/-- A name of several parts as it is written in SQL. -/
def renderPath (parts : List Name) : String := ".".intercalate (parts.map Name.render)

end QueryShapes.Sql
