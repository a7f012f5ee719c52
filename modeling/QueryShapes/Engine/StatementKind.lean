import QueryShapes.Text.Blank
import QueryShapes.Text.Cut
import QueryShapes.Text.Lowercase

/-!
# Kinds of statements

What a statement asks for, as far as its normal form shows: lower case, single blanks, no semicolons
at the end. Whatever does not start like a read or an inspection counts as a mutation.

- `StatementKind.normalText`: the normal form.
- `StatementKind.ofText`: the kind of a text.
-/

namespace QueryShapes

inductive StatementKind
  | liveness
  | listing
  | description (relation : String)
  | read
  | mutation
deriving DecidableEq

namespace StatementKind

/-! ## Normal forms -/

/-- Without blanks around it and the semicolons that end it. -/
def stripped (text : List Char) : List Char :=
  Text.trimEnd Text.isBlank (Text.trimEnd (· = ';') (Text.trim text))

/-- Stripped, in lower case, with one blank between words. -/
def normal (text : List Char) : List Char :=
  Text.lower (Text.unwords (Text.words (stripped text)))

def normalText (text : String) : String := String.ofList (normal text.toList)

/-! ## Recognition -/

def startsName (c : Char) : Bool := c.isLower || c == '_'

def continuesName (c : Char) : Bool := startsName c || c.isDigit

/-- A name of lower-case letters, digits and underscores that does not start with a digit. -/
def isName : List Char → Bool
  | [] => false
  | c :: rest => startsName c && rest.all continuesName

def isLiveness (text : List Char) : Bool :=
  text == "select 1".toList || (Text.after? "select 1 as ".toList text).any isName

def isListing (text : List Char) : Bool :=
  text == "show tables".toList || text == "show full tables".toList

def isQuote (c : Char) : Bool := c == '\x60' || c == '"'

/-- A name with at most one quote on either side. -/
def unquoted? (text : List Char) : Option (List Char) :=
  let opened := match text with
    | c :: rest => if isQuote c then rest else text
    | [] => []
  let closed := match opened.getLast? with
    | some c => if isQuote c then opened.dropLast else opened
    | none => []
  if isName closed then some closed else none

def descriptionWords : List String :=
  ["describe ", "desc ", "show columns from ", "show fields from "]

/-- The relation that a structure inspection asks about. -/
def described? (text : List Char) : Option String :=
  descriptionWords.findSome? fun word =>
    ((Text.after? word.toList text).bind unquoted?).map String.ofList

def isRead (text : List Char) : Bool :=
  text == "select".toList || (Text.after? "select ".toList text).isSome ||
    (Text.after? "select(".toList text).isSome

/-- The kind of a statement in normal form. -/
def ofNormal (text : List Char) : StatementKind :=
  if isLiveness text then liveness
  else if isListing text then listing
  else match described? text with
    | some relation => description relation
    | none => if isRead text then read else mutation

def ofText (text : String) : StatementKind := ofNormal (normal text.toList)

/-- The kind as it is shown. -/
def text : StatementKind → String
  | liveness => "liveness"
  | listing => "list_tables"
  | description relation => "describe(" ++ relation ++ ")"
  | read => "read"
  | mutation => "mutation"

end StatementKind

end QueryShapes
