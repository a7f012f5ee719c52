import QueryShapes.Toml.Number
import QueryShapes.Toml.Value

/-!
# TOML documents

- `value`: a value, down to a given depth of arrays and inline tables.
- `ofText?`: the entries of a document; `none` where the text is not TOML.
-/

namespace QueryShapes.Toml

open Reading

/-! ## Blanks and comments -/

/-- A comment, if one stands ahead. -/
def comment : Rule Unit := do
  if ← char '#' then
    let _ ← takeWhile isPlain

/-- Blanks, comments and the ends of lines. -/
def gaps : Rule Unit := do
  let _ ← repeated do
    spaces
    comment
    if ← newline then return some () else return none

/-- Blanks and a comment up to the end of the line or of the text. -/
def lineEnd : Rule Unit := do
  spaces
  comment
  match ← peek? with
  | none => return ()
  | some _ => require newline

/-! ## Values -/

/-- The value of a number, date or time. -/
def numberValue? (written : List Char) : Option Value :=
  match integer? written with
  | some n => some (.integer n)
  | none => match float? written with
    | some x => some (.float x)
    | none => if isMoment written then some (.moment (String.ofList written)) else none

/-- A value that holds no others. -/
def scalar : Rule Value := do
  match ← peek? with
  | some '"' | some '\'' => return .string (String.ofList (← text))
  | _ =>
    let written ← numberText
    if written = "true".toList then return .boolean true
    else if written = "false".toList then return .boolean false
    else match numberValue? written with
      | some v => return v
      | none => refuse

/-- The elements of an array after its bracket; a comma may follow the last. -/
def elementsWithin (element : Rule Value) : Nat → Rule (List Value)
  | 0 => refuse
  | fuel + 1 => do
    gaps
    if ← char ']' then return []
    let first ← element
    gaps
    if ← char ',' then return first :: (← elementsWithin element fuel)
    requireChar ']'
    return [first]

def arrayRest (element : Rule Value) : Rule Value :=
  return .array (← sized fun length => elementsWithin element (length + 1))

/-- A key and its value. -/
def assignment (element : Rule Value) : Rule (List String × Value) := do
  let path ← keyPath
  spaces
  requireChar '='
  spaces
  return (path, ← element)

/-- An inline table after its brace. -/
def tableRest (element : Rule Value) : Rule Value := do
  spaces
  if ← char '}' then return .closed []
  let comma : Rule Bool := do
    spaces
    let more ← char ','
    spaces
    return more
  let assignments ← separated comma (assignment element)
  requireChar '}'
  match Value.ofAssignments? assignments with
  | some v => return v
  | none => refuse

/-- A value that others lie in at most so deep. -/
def value : (depth : Nat) → Rule Value
  | 0 => scalar
  | depth + 1 => do
    if ← char '[' then arrayRest (value depth)
    else if ← char '{' then tableRest (value depth)
    else scalar

/-! ## Lines -/

/-- A path between brackets, after the first. -/
def headerPath : Rule (List String) := do
  spaces
  let path ← keyPath
  spaces
  requireChar ']'
  return path

def header : Rule Line := do
  if ← word "[[" then
    let path ← headerPath
    requireChar ']'
    return .element path
  else
    requireChar '['
    return .header (← headerPath)

/-- A line that says something. -/
def line : Rule Line := do
  if (← peek?) == some '[' then header
  else
    let (path, v) ← assignment (value (depthLimit - 1))
    return .assignment path v

/-- The next line of a text, which may say nothing. -/
def line? : Rule (Option (Option Line)) := do
  spaces
  match ← peek? with
  | none => return none
  | some c =>
    let said ← if c == '#' || c == '\n' || c == '\r' then pure none else pure (some (← line))
    lineEnd
    return some said

/-- Lines up to the end of the text. -/
def lines : Rule (List Line) := return (← repeated line?).filterMap id

/-- The entries of a document. A byte order mark at its head does not count. -/
def ofText? (text : String) : Option (List (String × Value)) :=
  let body := match text.toList with
    | '\uFEFF' :: rest => rest
    | all => all
  (wholly? lines body).bind build?

end QueryShapes.Toml
