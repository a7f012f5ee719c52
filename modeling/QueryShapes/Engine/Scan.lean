import QueryShapes.Store.Basic
import QueryShapes.Text.Letter
import QueryShapes.Text.Blank

/-!
# Scanning a relation named in a text

A read that nothing else answers gives all rows of the relation that its text names first after the
word `FROM`. Comments and literals count as text here.

- `Scan.relation?`: the name, if there is one.
- `Scan.rows`: the rows of that relation; none where the store has no such relation.
-/

namespace QueryShapes.Scan

/-! ## Finding the name -/

/-- Equality up to case of a character with a letter of ASCII; the long s and the Kelvin sign are
letters in that sense. -/
def startsName (c : Char) : Bool := c.isAlpha || c == '_' || c == 'ſ' || c == '\u212A'

def continuesName (c : Char) : Bool := startsName c || c.isDigit

/-- A name at the head of a text. -/
def name? (text : List Char) : Option (List Char) :=
  if text.head?.any startsName then some (text.takeWhile continuesName) else none

/-- A name after blanks and possibly a quote. -/
def nameAfterBlanks? (text : List Char) : Option (List Char) :=
  if text.head?.any Text.isBlank then
    match text.dropWhile Text.isBlank with
    | '\x60' :: rest | '"' :: rest => name? rest
    | rest => name? rest
  else none

/-- The text after the word `from` at its head, in any case. -/
def afterFrom? : List Char → Option (List Char)
  | f :: r :: o :: m :: rest =>
    if [f, r, o, m].map Char.toLower = "from".toList then some rest else none
  | _ => none

/-- The first name after the word `from`, given whether a word goes on at the head of the text. -/
def nameWithin? (insideWord : Bool) : List Char → Option (List Char)
  | [] => none
  | c :: rest =>
    let here := if insideWord then none else (afterFrom? (c :: rest)).bind nameAfterBlanks?
    match here with
    | some name => some name
    | none => nameWithin? (Text.isWordChar c) rest

/-- The relation named first after the word `FROM`, in lower case as far as it is ASCII. -/
def relation? (text : String) : Option String :=
  (nameWithin? false text.toList).map fun name => String.ofList (name.map Char.toLower)

/-! ## The answer -/

def rows (store : Store) (text : String) : List Row :=
  ((relation? text).bind store.rows?).getD []

end QueryShapes.Scan
