import QueryShapes.Sql.Grammar.Creation

/-!
# Statements that alter and drop

- `Rule.alteration`: one change of a table.
- `Rule.alter`, `Rule.drop`: what follows `ALTER` and `DROP`.
-/

namespace QueryShapes.Sql.Rule

open Reading

/-! ## Changes of a table -/

/-- Where among the columns a column goes. -/
def columnPlace : Rule Unit := do
  if !(← keyword "FIRST") then discard (after? (keyword "AFTER") name)

/-- What follows `ADD`: a constraint, parts of the table or a column. -/
def addition (g : Nesting) : Rule Unit := do
  if ← constraint? g then return ()
  ifNotExists
  let parts ← repeated (after? (keyword "PARTITION") (expressions g))
  if parts.isEmpty then
    let _ ← keyword "COLUMN"
    columnDefinition g
    columnPlace

/-- What follows `RENAME`: the new name of the table or of a column. -/
def newName : Rule Unit := do
  if ← keyword "TO" then discard path
  else
    let _ ← keyword "COLUMN"
    let _ ← name
    requireKeyword "TO"
    discard name

/-- What is switched off, or on where more can be. -/
def switch (enabling : Bool) : Rule Unit := do
  if ← keywords ["ROW", "LEVEL", "SECURITY"] then return ()
  if enabling then discard (keywordOf? ["ALWAYS", "REPLICA"])
  if (← keywordOf? ["RULE", "TRIGGER"]).isNone then refuse
  discard name

/-- What follows `DROP` in a change of a table. -/
def removal (g : Nesting) : Rule Unit := do
  if ← keywords ["IF", "EXISTS", "PARTITION"] then expressions g
  else if ← keyword "PARTITION" then expressions g
  else if ← keywords ["PRIMARY", "KEY"] then return ()
  else
    if !(← keyword "CONSTRAINT") then discard (keyword "COLUMN")
    ifExists
    let _ ← name
    discard (keyword "CASCADE")

/-- A column's new type, options and place. -/
def newColumn (g : Nesting) : Rule Unit := do
  let _ ← dataType
  columnOptions g
  columnPlace

/-- How the values of a column are generated. -/
def generation : Rule Unit := do
  if !(← keyword "ALWAYS") then discard (keywords ["BY", "DEFAULT"])
  requireKeywords ["AS", "IDENTITY"]
  sequenceOptions?

/-- What becomes of one column. -/
def columnChange (g : Nesting) : Rule Unit := do
  if ← keywords ["SET", "DEFAULT"] then discard g.expr
  else if ← keywords ["SET", "DATA", "TYPE"] then discard dataType
  else if ← keywords ["ADD", "GENERATED"] then generation
  else if !(← keywords ["DROP", "DEFAULT"]) then
    if (← keywordOf? ["SET", "DROP"]).isNone then refuse
    requireKeywords ["NOT", "NULL"]

def alteration (g : Nesting) : Rule Unit := do
  match ← keywordOf? ["ADD", "RENAME", "DISABLE", "ENABLE", "DROP", "PARTITION", "CHANGE", "MODIFY",
    "ALTER", "SWAP"] with
  | some "ADD" => addition g
  | some "RENAME" => newName
  | some "DISABLE" => switch false
  | some "ENABLE" => switch true
  | some "DROP" => removal g
  | some "PARTITION" =>
    expressions g
    requireKeywords ["RENAME", "TO", "PARTITION"]
    expressions g
  | some "CHANGE" =>
    let _ ← keyword "COLUMN"
    let _ ← name
    let _ ← name
    newColumn g
  | some "MODIFY" =>
    let _ ← keyword "COLUMN"
    let _ ← name
    newColumn g
  | some "ALTER" =>
    let _ ← keyword "COLUMN"
    let _ ← name
    columnChange g
  | some _ =>
    requireKeyword "WITH"
    discard path
  | none => require (settingsAfter g ["SET", "TBLPROPERTIES"])

/-! ## Altered things -/

def alterTable (g : Nesting) : Rule Unit := do
  ifExists
  let _ ← keyword "ONLY"
  let _ ← path
  cluster?
  let _ ← commas (alteration g)
  if ← keyword "LOCATION" then discard name
  else discard (after? (keywords ["SET", "LOCATION"]) name)

/-- What follows `ALTER`. -/
def alter (g : Nesting) : Rule Unit := do
  match ← keywordOf? ["VIEW", "TABLE", "INDEX"] with
  | some "VIEW" =>
    let _ ← path
    namesInParentheses?
    let _ ← settingsAfter g ["WITH"]
    requireKeyword "AS"
    discard g.query
  | some "TABLE" => alterTable g
  | some _ =>
    let _ ← path
    requireKeywords ["RENAME", "TO"]
    discard path
  | none => refuse

/-! ## Dropped things -/

/-- A parameter of a function that is dropped, with its name or without. -/
def parameter (g : Nesting) : Rule Unit := do
  let _ ← keywordOf? ["IN", "OUT", "INOUT"]
  if (← anyType).kind == .custom then discard dataType
  if ← keyword "DEFAULT" then discard g.expr
  else discard (after? (symbol "=") g.expr)

/-- A function with its parameters, which may be left out. -/
def signature (g : Nesting) : Rule Unit := do
  let _ ← path
  if ← symbol "(" then
    if !(← symbol ")") then
      let _ ← commas (parameter g)
      requireSymbol ")"

def dropFunction (g : Nesting) : Rule Unit := do
  ifExists
  let _ ← commas (signature g)
  discard (keywordOf? ["CASCADE", "RESTRICT"])

def dropSecret : Rule Unit := do
  ifExists
  let _ ← name
  if ← keyword "FROM" then anyToken

/-- What follows the kind of thing that is dropped. Things that depend on it are dropped too or keep
it from being dropped, but not both, and neither is said of a role. -/
def dropNamed (role : Bool) : Rule Unit := do
  ifExists
  paths
  let cascade ← keyword "CASCADE"
  let restrict ← keyword "RESTRICT"
  let purge ← keyword "PURGE"
  if cascade && restrict || role && (cascade || restrict || purge) then refuse

/-- What follows `DROP`. -/
def drop (g : Nesting) : Rule Unit := do
  let _ ← keyword "TEMPORARY"
  match (← next).keyword with
  | "TABLE" | "VIEW" | "INDEX" | "SCHEMA" | "SEQUENCE" | "STAGE" => dropNamed false
  | "ROLE" => dropNamed true
  | "FUNCTION" | "PROCEDURE" => dropFunction g
  | "SECRET" => dropSecret
  | _ => refuse

end QueryShapes.Sql.Rule
