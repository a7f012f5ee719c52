import QueryShapes.Sql.Grammar.Definition

/-!
# Statements that move rows

- `Rule.copy`: rows between a table and a file.
- `Rule.unload`: the rows of a query to somewhere else.
-/

namespace QueryShapes.Sql.Rule

open Reading

/-! ## Options of a copy -/

/-- A text of one byte. -/
def oneByte : Rule Unit := do
  if (← literalText).utf8ByteSize != 1 then refuse

def copyOption : Rule Unit := do
  match ← keywordOf? ["FORMAT", "FREEZE", "DELIMITER", "NULL", "HEADER", "QUOTE", "ESCAPE",
    "FORCE_QUOTE", "FORCE_NOT_NULL", "FORCE_NULL", "ENCODING"] with
  | some "FORMAT" => discard name
  | some "FREEZE" | some "HEADER" => discard (keywordOf? ["TRUE", "FALSE"])
  | some "DELIMITER" | some "QUOTE" | some "ESCAPE" => oneByte
  | some "NULL" | some "ENCODING" => discard literalText
  | some _ => discard columnList
  | none => refuse

/-- What a keyword introduces, with or without `AS`. -/
def asWell (rule : Rule Unit) : Rule Unit := do
  let _ ← keyword "AS"
  rule

/-- An option of a table with commas between the columns. -/
def separatedOption : Rule Unit := do
  match ← keywordOf? ["HEADER", "QUOTE", "ESCAPE", "FORCE"] with
  | some "HEADER" => return ()
  | some "QUOTE" | some "ESCAPE" => asWell oneByte
  | some _ =>
    if !(← keywords ["NOT", "NULL"]) then requireKeyword "QUOTE"
    discard (commas name)
  | none => refuse

/-- An option without parentheses around it. -/
def plainCopyOption : Rule Unit := do
  match ← keywordOf? ["BINARY", "DELIMITER", "NULL", "CSV"] with
  | some "BINARY" => return ()
  | some "DELIMITER" => asWell oneByte
  | some "NULL" => asWell (discard literalText)
  | some _ => discard (repeated (attempt separatedOption))
  | none => refuse

/-! ## Rows in the text -/

/-- Rows that stand in the text behind the statement. They end with a backslash and a full stop, or
with the text. A backslash takes the token behind it along. -/
def inlineRows : Rule Unit := do
  let _ ← repeated do
    match ← peek? with
    | none => return none
    | some token =>
      anyToken
      if token == .symbol "\\" then
        if ← symbol "." then return none
        anyToken
      return some ()

/-! ## Copies -/

/-- What is copied, and whether it is a query. -/
def copySource (g : Nesting) : Rule Bool := do
  if ← symbol "(" then
    let _ ← g.query
    requireSymbol ")"
    return true
  else
    let _ ← path
    namesInParentheses?
    return false

/-- Where rows are copied to or from, and whether they stand in the text. -/
def copyTarget : Rule Bool := do
  match ← keywordOf? ["STDIN", "STDOUT", "PROGRAM"] with
  | some "STDIN" => return true
  | some "STDOUT" => return false
  | _ =>
    let _ ← literalText
    return false

/-- What follows `COPY`. Nothing is copied into a query. -/
def copy (g : Nesting) : Rule Unit := do
  let isQuery ← copySource g
  match ← keywordOf? ["FROM", "TO"] with
  | some "FROM" => if isQuery then refuse
  | some _ => pure ()
  | none => refuse
  let inline ← copyTarget
  let _ ← keyword "WITH"
  if (← peek?) == some (.symbol "(") then discard (parenthesized (commas copyOption))
  let _ ← repeated (attempt plainCopyOption)
  if inline then
    requireSymbol ";"
    inlineRows

/-- What follows `UNLOAD`. -/
def unload (g : Nesting) : Rule Unit := do
  let _ ← parenthesized g.query
  requireKeyword "TO"
  let _ ← name
  discard (settingsAfter g ["WITH"])

end QueryShapes.Sql.Rule
