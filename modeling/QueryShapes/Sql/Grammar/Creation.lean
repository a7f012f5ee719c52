import QueryShapes.Sql.Grammar.Change
import QueryShapes.Sql.Grammar.Definition

/-!
# Statements that create

- `Rule.createTable`, `Rule.createView`, `Rule.createIndex`: what follows the kind of thing that is
  created.
- `Rule.create`: what follows `CREATE`.
-/

namespace QueryShapes.Sql.Rule

open Reading

/-! ## Files of a table -/

/-- A word that ends some kind of part in a line of text. -/
def lineSeparator? : Rule Bool := do
  match ← keywordOf? ["FIELDS", "COLLECTION", "MAP", "LINES", "NULL"] with
  | some "FIELDS" =>
    if !(← keywords ["TERMINATED", "BY"]) then return false
    let _ ← name
    let _ ← after? (keywords ["ESCAPED", "BY"]) name
    return true
  | some word =>
    let words := match word with
      | "COLLECTION" => ["ITEMS", "TERMINATED", "BY"]
      | "MAP" => ["KEYS", "TERMINATED", "BY"]
      | "LINES" => ["TERMINATED", "BY"]
      | _ => ["DEFINED", "AS"]
    return (← after? (keywords words) name).isSome
  | none => return false

/-- How a row is written to a file. -/
def rowFormat : Rule Unit := do
  requireKeyword "FORMAT"
  if ← keyword "SERDE" then discard literalText
  else
    let _ ← keyword "DELIMITED"
    discard <| repeated do return if ← lineSeparator? then some () else none

/-- How a file is stored. -/
def storage (g : Nesting) : Rule Unit := do
  requireKeyword "AS"
  if ← keyword "INPUTFORMAT" then
    let _ ← g.expr
    requireKeyword "OUTPUTFORMAT"
    discard g.expr
  else discard fileFormat

/-- Where the files of a table are and how they are written. -/
def files (g : Nesting) : Rule Unit := do
  let _ ← repeated do
    match ← keywordOf? ["ROW", "STORED", "LOCATION"] with
    | some "ROW" => return some (← rowFormat)
    | some "STORED" => return some (← storage g)
    | some _ =>
      let _ ← literalText
      return some ()
    | none => return if ← settingsAfter g ["WITH", "SERDEPROPERTIES"] then some () else none

/-! ## Tables -/

/-- The words that follow an equals sign behind some keywords. -/
def namedSetting (introduction : List String) : Rule Unit := do
  let _ ← after? (keywords introduction) do
    requireSymbol "="
    bareWord

def engine : Rule Unit := do
  let _ ← after? (keyword "ENGINE") do
    requireSymbol "="
    bareWord
    columns

/-- The number that the next row gets. -/
def rowCounter : Rule Unit := do
  let _ ← after? (keyword "AUTO_INCREMENT") do
    let _ ← symbol "="
    wholeNumberUpTo (UInt32.size - 1)

/-- The expressions by which the rows of a table are ordered. -/
def tableOrder (g : Nesting) : Rule Unit := do
  let _ ← after? (keywords ["ORDER", "BY"]) do
    if ← symbol "(" then
      if (← peek?) != some (.symbol ")") then discard (commas g.expr)
      requireSymbol ")"
    else discard g.expr

/-- What becomes of the rows at the end of a transaction. -/
def commitAction : Rule Unit := do
  if ← keywords ["ON", "COMMIT", "DELETE", "ROWS"] then return ()
  if ← keywords ["ON", "COMMIT", "PRESERVE", "ROWS"] then return ()
  discard (keywords ["ON", "COMMIT", "DROP"])

def tableComment : Rule Unit := do
  let _ ← after? (keyword "COMMENT") do
    let _ ← symbol "="
    singleQuoted

def cluster? : Rule Unit := discard (after? (keywords ["ON", "CLUSTER"]) name)

/-- What follows `TABLE`: the name, what the table is made after, its columns and its settings, in
this order. -/
def createTable (g : Nesting) : Rule Unit := do
  ifNotExists
  let _ ← path
  cluster?
  if (← keywordOf? ["LIKE", "ILIKE"]).isSome then roughPath
  if ← keyword "CLONE" then roughPath
  tableParts g
  let _ ← keywords ["WITHOUT", "ROWID"]
  division g
  files g
  let _ ← settingsAfter g ["WITH"]
  let _ ← settingsAfter g ["TBLPROPERTIES"]
  engine
  rowCounter
  tableOrder g
  namedSetting ["DEFAULT", "CHARSET"]
  namedSetting ["COLLATE"]
  commitAction
  let _ ← keyword "STRICT"
  tableComment
  discard (after? (keyword "AS") g.query)

/-- A table whose rows are in files outside. -/
def createExternalTable (g : Nesting) : Rule Unit := do
  requireKeyword "TABLE"
  ifNotExists
  let _ ← path
  tableParts g
  division g
  files g
  discard (settingsAfter g ["TBLPROPERTIES"])

/-- A table that a module provides. -/
def createVirtualTable : Rule Unit := do
  requireKeyword "TABLE"
  ifNotExists
  let _ ← path
  requireKeyword "USING"
  let _ ← name
  discard columns

/-! ## Views and indexes -/

/-- What follows the word `VIEW`. -/
def createView (g : Nesting) : Rule Unit := do
  let _ ← path
  let _ ← columns
  let _ ← settingsAfter g ["WITH"]
  if ← keyword "CLUSTER" then
    requireKeyword "BY"
    namesInParentheses?
  requireKeyword "AS"
  discard g.query

def createIndex (g : Nesting) : Rule Unit := do
  let _ ← keyword "CONCURRENTLY"
  let checked ← keywords ["IF", "NOT", "EXISTS"]
  let unnamed ← if checked then pure false else keyword "ON"
  if !unnamed then
    let _ ← path
    requireKeyword "ON"
  let _ ← path
  let _ ← after? (keyword "USING") name
  let _ ← parenthesized (orderTerms g)
  let _ ← after? (keyword "INCLUDE") columnList
  if ← keyword "NULLS" then
    let _ ← keyword "NOT"
    requireKeyword "DISTINCT"
  discard (after? (keyword "WHERE") g.expr)

/-! ## Other things -/

/-- A secret and where it is kept. A token that names nothing is taken in place of a name. -/
def createSecret : Rule Unit := do
  ifNotExists
  if (← peek?) != some (.symbol "(") then
    if ← keyword "IN" then anyToken
    else
      anyToken
      if ← keyword "IN" then anyToken
  parenthesized do
    requireKeyword "TYPE"
    let _ ← name
    discard <| after? (symbol ",") <| commas do
      let _ ← name
      name

def createExtension : Rule Unit := do
  ifNotExists
  let _ ← name
  if ← keyword "WITH" then
    let _ ← after? (keyword "SCHEMA") name
    let _ ← after? (keyword "VERSION") name
    discard (keyword "CASCADE")

def createSchema : Rule Unit := do
  ifNotExists
  if ← keyword "AUTHORIZATION" then discard name
  else
    let _ ← path
    discard (after? (keyword "AUTHORIZATION") name)

def createDatabase : Rule Unit := do
  ifNotExists
  let _ ← path
  discard <| repeated do
    match ← keywordOf? ["LOCATION", "MANAGEDLOCATION"] with
    | some _ => return some (← literalText)
    | none => return none

def createRole : Rule Unit := do
  ifNotExists
  paths
  discard (keyword "WITH")

def createSequence : Rule Unit := do
  ifNotExists
  let _ ← path
  let _ ← after? (keyword "AS") dataType
  sequenceOptions
  if ← keywords ["OWNED", "BY"] then
    if !(← keyword "NONE") then discard path

/-- Items in parentheses, which may be left out, and behind the last of which a comma may stand. -/
def looseItems (item : Rule Unit) : Rule Unit := do
  if !(← symbol "(") then return ()
  if ← symbol ")" then return ()
  let _ ← repeated do
    if ← symbol ")" then return none
    item
    if (← peek?) != some (.symbol ")") then requireSymbol ","
    return some ()

def createType : Rule Unit := do
  let _ ← path
  requireKeyword "AS"
  looseItems do
    let _ ← name
    let _ ← dataType
    discard (after? (keyword "COLLATE") path)

/-- A parameter of a procedure. Nothing need stand between two commas. -/
def procedureParameter : Rule Unit := do
  match ← peek? with
  | some (.word _) =>
    let _ ← name
    discard dataType
  | _ => return ()

/-- A procedure with the statements that it consists of. -/
def createProcedure (block : Rule Unit) : Rule Unit := do
  let _ ← path
  looseItems procedureParameter
  requireKeywords ["AS", "BEGIN"]
  block
  requireKeyword "END"

/-! ## Any of them -/

/-- What follows the words that only a new thing can have in front of it. -/
def createNew (g : Nesting) (block : Rule Unit) : Rule Unit := do
  if ← keywords ["UNIQUE", "INDEX"] then createIndex g
  else match (← next).keyword with
    | "EXTENSION" => createExtension
    | "INDEX" => createIndex g
    | "VIRTUAL" => createVirtualTable
    | "SCHEMA" => createSchema
    | "DATABASE" => createDatabase
    | "ROLE" => createRole
    | "SEQUENCE" => createSequence
    | "TYPE" => createType
    | "PROCEDURE" => createProcedure block
    | _ => refuse

/-- What follows `CREATE`. Only some things may replace those that are there. -/
def create (g : Nesting) (block : Rule Unit) : Rule Unit := do
  let replacing ← keywords ["OR", "REPLACE"]
  let _ ← keywords ["OR", "ALTER"]
  let _ ← keyword "LOCAL"
  let _ ← keyword "GLOBAL"
  let _ ← keyword "TRANSIENT"
  let _ ← keywordOf? ["TEMP", "TEMPORARY"]
  match ← keywordOf? ["TABLE", "MATERIALIZED", "VIEW", "EXTERNAL", "SECRET"] with
  | some "TABLE" => createTable g
  | some "MATERIALIZED" =>
    requireKeyword "VIEW"
    createView g
  | some "VIEW" => createView g
  | some "EXTERNAL" => createExternalTable g
  | some _ => createSecret
  | none => if replacing then refuse else createNew g block

end QueryShapes.Sql.Rule
