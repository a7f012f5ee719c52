import QueryShapes.Sql.Grammar.Select
import QueryShapes.Sql.Grammar.Table

/-!
# Changes

Statements that add, change or remove rows. Two of them may also stand where a query is expected, so
those are read as their normal form.

- `Rule.insert`, `Rule.update`: rows that are added or changed.
- `Rule.delete`, `Rule.merge`: the other changes.
-/

namespace QueryShapes.Sql.Rule

open Reading

/-! ## Parts of changes -/

/-- What a column, or several of them, are set to. -/
def assignment (g : Nesting) : Rule String := do
  let target ← if ← symbol "(" then do
      let targets := (← commas path).map renderPath
      requireSymbol ")"
      pure ("(" ++ commaSeparated targets ++ ")")
    else pure (renderPath (← path))
  requireSymbol "="
  return target ++ " = " ++ (← exprText g)

def assignments (g : Nesting) : Rule String := return commaSeparated (← commas (assignment g))

def condition (g : Nesting) : Rule String := optionalText " WHERE " (keyword "WHERE") (exprText g)

/-- What a change gives back. -/
def returning (g : Nesting) : Rule String :=
  optionalText " RETURNING " (keyword "RETURNING")
    (return commaSeparated ((← selectTerms g).map SelectTerm.render))

/-- Expressions that name parts of a table. -/
def partition? (g : Nesting) : Rule (Option String) :=
  after? (keyword "PARTITION") (return "PARTITION (" ++ (← parenthesized (exprTexts g)) ++ ")")

/-! ## Added rows -/

/-- How files are stored. -/
def fileFormat : Rule String := do
  match ← keywordOf? ["AVRO", "JSONFILE", "ORC", "PARQUET", "RCFILE", "SEQUENCEFILE", "TEXTFILE"] with
  | some format => return format
  | none => refuse

/-- What `ON CONFLICT` is about. -/
def conflictTarget : Rule String := do
  if ← keywords ["ON", "CONSTRAINT"] then return " ON CONSTRAINT " ++ renderPath (← path)
  else return ((← columnList?).map ("(" ++ · ++ ")")).getD ""

def conflictAction (g : Nesting) : Rule String := do
  requireKeyword "DO"
  if ← keyword "NOTHING" then return " DO NOTHING"
  requireKeywords ["UPDATE", "SET"]
  let changes ← assignments g
  return " DO UPDATE SET " ++ changes ++ (← condition g)

/-- What happens to a row that is there already. -/
def duplicates (g : Nesting) : Rule String := do
  if !(← keyword "ON") then return ""
  if ← keyword "CONFLICT" then
    let target ← conflictTarget
    return " ON CONFLICT" ++ target ++ (← conflictAction g)
  requireKeywords ["DUPLICATE", "KEY", "UPDATE"]
  return " ON DUPLICATE KEY UPDATE " ++ (← assignments g)

/-- The rows to add, with the columns and the parts of the table they are for. -/
def source (g : Nesting) : Rule String := do
  if ← keywords ["DEFAULT", "VALUES"] then return "DEFAULT VALUES"
  let columns := (← columns).map Name.render
  let names := if columns.isEmpty then "" else "(" ++ commaSeparated columns ++ ") "
  let parts := ((← partition? g).map (· ++ " ")).getD ""
  return names ++ parts ++ (← queryText g)

/-- Names for the added rows and their columns. -/
def addedLabel : Rule String := optionalText " AS " (keyword "AS") do
  let row := renderPath (← path)
  return row ++ ((← columnList?).map (" (" ++ · ++ ")")).getD ""

/-- What follows `INSERT` or `REPLACE`. Rows may also be written to a directory. -/
def insert (g : Nesting) : Rule String := do
  let priority := ((← keywordOf? ["LOW_PRIORITY", "DELAYED", "HIGH_PRIORITY"]).map (" " ++ ·)).getD ""
  let ignore ← optionalWord "IGNORE"
  let overwrite ← optionalWord "OVERWRITE"
  let into ← optionalWord "INTO"
  let nearby ← optionalWord "LOCAL"
  if ← keyword "DIRECTORY" then
    let place ← literalText
    let format ← optionalText " STORED AS " (keywords ["STORED", "AS"]) fileFormat
    return "INSERT" ++ overwrite ++ nearby ++ " DIRECTORY '" ++ place ++ "'" ++ format ++ " " ++
      (← queryText g)
  let table ← optionalWord "TABLE"
  let target := renderPath (← path)
  let source ← source g
  let label ← addedLabel
  let duplicates ← duplicates g
  return "INSERT" ++ priority ++ ignore ++ overwrite ++ into ++ table ++ " " ++ target ++ " " ++
    source ++ label ++ duplicates ++ (← returning g)

/-! ## Changed rows -/

/-- What follows `UPDATE`. A `FROM` before the condition says nothing. -/
def update (g : Nesting) : Rule String := do
  let tables := (← g.joined).render
  requireKeyword "SET"
  let changes ← assignments g
  let _ ← keyword "FROM"
  let condition ← condition g
  return "UPDATE " ++ tables ++ " SET " ++ changes ++ condition ++ (← returning g)

/-! ## Removed rows -/

/-- What follows `DELETE`. -/
def delete (g : Nesting) : Rule Unit := do
  if !(← keyword "FROM") then
    let _ ← commas path
    requireKeyword "FROM"
  let _ ← commas g.joined
  let _ ← after? (keyword "USING") (commas g.joined)
  let _ ← condition g
  let _ ← returning g
  let _ ← after? (keywords ["ORDER", "BY"]) (orderTerms g)
  let _ ← after? (keyword "LIMIT") do
    if !(← keyword "ALL") then let _ ← g.expr

/-! ## Merged rows -/

/-- A table that is merged, without joins. -/
def mergedTable (g : Nesting) : Rule Unit := do
  let _ ← tableTerm g

/-- The change for rows without a match in the table. -/
def mergeInsert (g : Nesting) : Rule Unit := do
  requireKeyword "INSERT"
  let _ ← columns
  requireKeyword "VALUES"
  let _ ← values g

/-- The change for rows of the table. -/
def mergeUpdate (g : Nesting) : Rule Unit := do
  if !(← keyword "DELETE") then
    requireKeywords ["UPDATE", "SET"]
    let _ ← assignments g

def mergeClause (g : Nesting) : Rule Unit := do
  requireKeyword "WHEN"
  let unmatched ← keyword "NOT"
  requireKeyword "MATCHED"
  let bySource ← if unmatched then keywords ["BY", "SOURCE"] else pure false
  if unmatched && !bySource then let _ ← keywords ["BY", "TARGET"]
  let _ ← after? (keyword "AND") g.expr
  requireKeyword "THEN"
  if unmatched && !bySource then mergeInsert g else mergeUpdate g

/-- What follows `MERGE`. Nothing but the end of the statement may follow the clauses. -/
def merge (g : Nesting) : Rule Unit := do
  let _ ← keyword "INTO"
  mergedTable g
  requireKeyword "USING"
  mergedTable g
  requireKeyword "ON"
  let _ ← g.expr
  let _ ← repeated do
    match ← peek? with
    | none | some (.symbol ";") => return none
    | some _ => return some (← mergeClause g)

end QueryShapes.Sql.Rule
