import QueryShapes.Number.Reading
import QueryShapes.Reading
import QueryShapes.Sql.Keyword
import QueryShapes.Sql.Select

/-!
# Grammar rules

A rule takes tokens off the front of a list, or refuses them. Keywords are given in capitals.

- `Rule.keyword` and `Rule.symbol`: take a token if it is there.
- `Rule.label?`: an alias, which some words cannot be without `AS`.
-/

namespace QueryShapes.Sql

abbrev Rule := Reading Token

namespace Rule

open Reading

/-! ## Keywords and symbols -/

/-- The keyword at a distance; empty where there is none. -/
def keywordAhead (distance : Nat) : Rule String := do
  return ((← ahead? distance).map Token.keyword).getD ""

def keyword (word : String) : Rule Bool := takeIf (·.keyword == word)

def symbol (text : String) : Rule Bool := takeIf (· == .symbol text)

def requireKeyword (word : String) : Rule Unit := require (keyword word)

def requireSymbol (text : String) : Rule Unit := require (symbol text)

def requireKeywords (words : List String) : Rule Unit := words.forM requireKeyword

/-- Takes all the keywords, or none of them. -/
def keywords (words : List String) : Rule Bool := do
  return (← attempt (requireKeywords words)).isSome

/-- Takes one of the keywords. -/
def keywordOf? : List String → Rule (Option String)
  | [] => return none
  | word :: words => do
    if ← keyword word then return some word else keywordOf? words

/-- One token of any kind, if there is one. -/
def anyToken : Rule Unit := discard (takeIf fun _ => true)

/-- One or more items with commas between them. -/
def commas {α : Type} (item : Rule α) : Rule (List α) := separated (symbol ",") item

/-- An item in parentheses. -/
def parenthesized {α : Type} (item : Rule α) : Rule α := do
  requireSymbol "("
  let a ← item
  requireSymbol ")"
  return a

/-! ## Names -/

/-- A name; keywords and string literals will do. -/
def name : Rule Name := do
  match ← next with
  | .word n => return n
  | .string quote text => return ⟨text, some quote⟩
  | _ => refuse

/-- A name of one or more parts. -/
def path : Rule (List Name) := separated (symbol ".") name

/-- A list of names in parentheses, as text. -/
def columnList : Rule String := do
  return commaSeparated ((← parenthesized (commas name)).map Name.render)

/-- Names in parentheses, which may be left out, and of which there may be none. -/
def columns : Rule (List Name) := do
  if !(← symbol "(") then return []
  if ← symbol ")" then return []
  let names ← commas name
  requireSymbol ")"
  return names

/-- As `columnList`, which may be left out. -/
def columnList? : Rule (Option String) := do
  if (← peek?) == some (.symbol "(") then return some (← columnList) else return none

/-! ## Literals -/

/-- A whole number of at most so much, without a sign. -/
def wholeNumberUpTo (most : Nat) : Rule String := do
  match ← next with
  | .number text _ => match naturalUpTo? most text with
    | some n => return toString n
    | none => refuse
  | _ => refuse

/-- A whole number of at most 64 bits. -/
def wholeNumber : Rule String := wholeNumberUpTo (UInt64.size - 1)

/-- A text in quotes, or a name that is no keyword in place of one. -/
def literalText : Rule String := do
  match ← next with
  | .string _ text => return text
  | .word n => if n.isKeyword then refuse else return n.text
  | _ => refuse

/-- What a colon or an `@` with a space behind it makes a placeholder: a word or a number. -/
def placeholderName : Rule String := do
  match ← next with
  | .word n => return n.text
  | .number text false => return text
  | _ => refuse

def literal : Rule Literal := do
  match ← next with
  | .number text long => return .number text long
  | .string quote text => return .string quote text
  | .tagged tag text => return .tagged tag text
  | .placeholder text => return .placeholder text
  | .symbol text =>
    if text == ":" || text == "@" then return .placeholder (text ++ (← placeholderName)) else refuse
  | .word n => match n.keyword with
    | "TRUE" => return .boolean true
    | "FALSE" => return .boolean false
    | "NULL" => return .null
    | _ => refuse

/-! ## Aliases -/

/-- An alias, with or without `AS`. Without it the words that may follow are not taken. -/
def label? (reserved : List String) : Rule (Option Name) := do
  let after ← keyword "AS"
  match ← peek? with
  | some (.word n) =>
    if after || !reserved.contains n.keyword then
      let _ ← next
      return some n
    else return none
  | some (.string quote text) =>
    let _ ← next
    return some ⟨text, some quote⟩
  | _ => if after then refuse else return none

end Rule

end QueryShapes.Sql
