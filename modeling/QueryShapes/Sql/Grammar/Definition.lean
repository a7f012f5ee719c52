import QueryShapes.Sql.Grammar.Nesting

/-!
# Definitions of columns and constraints

The parts that statements which create and alter tables have in common. Nothing is computed with
them, so these rules only say where a part ends.

- `Rule.columnDefinition`: a column with its type and options.
- `Rule.constraint?`: a constraint on a whole table.
-/

namespace QueryShapes.Sql.Rule

open Reading

/-! ## Small parts -/

def ifExists : Rule Unit := discard (keywords ["IF", "EXISTS"])

def ifNotExists : Rule Unit := discard (keywords ["IF", "NOT", "EXISTS"])

/-- A list of names in parentheses, which may be left out. -/
def namesInParentheses? : Rule Unit := discard columnList?

/-- A path that may be wrong; the token that is wrong is taken along. -/
def roughPath : Rule Unit := do
  let _ ← repeated (attempt do
    let _ ← name
    requireSymbol ".")
  anyToken

def paths : Rule Unit := discard (commas path)

/-- Expressions in parentheses. -/
def expressions (g : Nesting) : Rule Unit := discard (parenthesized (commas g.expr))

/-- A word that is no text in quotes. -/
def bareWord : Rule Unit := do
  match ← next with
  | .word _ => return ()
  | _ => refuse

def singleQuoted : Rule Unit := do
  match ← next with
  | .string '\'' _ => return ()
  | _ => refuse

/-- A number or a placeholder. -/
def numberOrPlaceholder : Rule Unit := do
  match ← literal with
  | .number _ _ | .placeholder _ => return ()
  | _ => refuse

/-- Settings in parentheses: names with their values. -/
def settings (g : Nesting) : Rule Unit := discard <| parenthesized <| commas do
  let _ ← name
  requireSymbol "="
  let _ ← g.expr

/-- Settings behind some keywords, and whether they are there. -/
def settingsAfter (g : Nesting) (introduction : List String) : Rule Bool := do
  return (← after? (keywords introduction) (settings g)).isSome

/-! ## Sequences -/

/-- What numbers a sequence gives, and how many are kept ready. -/
def sequenceOptions : Rule Unit := do
  let _ ← after? (keyword "INCREMENT") do
    let _ ← keyword "BY"
    numberOrPlaceholder
  for bound in ["MINVALUE", "MAXVALUE"] do
    if ← keyword bound then numberOrPlaceholder
    else discard (keywords ["NO", bound])
  let _ ← after? (keyword "START") do
    let _ ← keyword "WITH"
    numberOrPlaceholder
  let _ ← after? (keyword "CACHE") numberOrPlaceholder
  if !(← keywords ["NO", "CYCLE"]) then discard (keyword "CYCLE")

/-- The options of a sequence in parentheses, which may be left out. -/
def sequenceOptions? : Rule Unit := do
  if (← peek?) == some (.symbol "(") then parenthesized sequenceOptions

/-! ## Constraints -/

/-- What may be said of when a constraint has to hold. -/
inductive Timing
  | deferral | start | enforcement
deriving DecidableEq

def timing : Rule Timing := do
  if ← keyword "INITIALLY" then
    if (← keywordOf? ["DEFERRED", "IMMEDIATE"]).isNone then refuse
    return .start
  let _ ← keyword "NOT"
  match ← keywordOf? ["DEFERRABLE", "ENFORCED"] with
  | some "DEFERRABLE" => return .deferral
  | some _ => return .enforcement
  | none => refuse

def timingBeside? (given : List Timing) : Rule (Option Timing) := attempt do
  let t ← timing
  if given.contains t then refuse else return t

/-- When a constraint has to hold, of which everything is said at most once. -/
def timings : Rule Unit := do
  if let some first ← timingBeside? [] then
    if let some second ← timingBeside? [first] then
      discard (timingBeside? [first, second])

/-- What becomes of a row when the row that it refers to changes. -/
def consequence : Rule Unit := do
  if (← keywordOf? ["RESTRICT", "CASCADE"]).isSome then return ()
  if ← keywords ["SET", "NULL"] then return ()
  if ← keywords ["NO", "ACTION"] then return ()
  requireKeywords ["SET", "DEFAULT"]

/-- The consequences of removing and of changing a row, each given at most once. -/
def consequences : Rule Unit := do
  if ← keywords ["ON", "DELETE"] then
    consequence
    let _ ← after? (keywords ["ON", "UPDATE"]) consequence
  else if ← keywords ["ON", "UPDATE"] then
    consequence
    let _ ← after? (keywords ["ON", "DELETE"]) consequence

/-- How an index is built. -/
def indexKind : Rule Unit := do
  if ← keyword "USING" then
    if (← keywordOf? ["BTREE", "HASH"]).isNone then refuse

def indexOptions : Rule Unit := do
  let _ ← repeated do
    if (← keywordAhead 0) == "USING" then return some (← indexKind)
    else after? (keyword "COMMENT") (discard literalText)

/-- What follows the kind of a constraint that makes an index of columns. The index may be named
with any word. -/
def indexedColumns : Rule Unit := do
  let _ ← attempt name
  indexKind
  let _ ← columnList
  indexOptions
  timings

/-- What follows `INDEX` or `KEY`. -/
def plainIndex : Rule Unit := do
  if (← keywordAhead 0) != "USING" then discard (attempt name)
  indexKind
  discard columnList

/-- The kinds of constraint on a whole table. Some of them cannot be named. -/
def constraintBody? (g : Nesting) (named : Bool) : Rule Bool := do
  match ← keywordAhead 0 with
  | "UNIQUE" =>
    let _ ← next
    let _ ← keywordOf? ["KEY", "INDEX"]
    indexedColumns
    return true
  | "PRIMARY" =>
    let _ ← next
    requireKeyword "KEY"
    indexedColumns
    return true
  | "FOREIGN" =>
    let _ ← next
    requireKeyword "KEY"
    let _ ← columnList
    requireKeyword "REFERENCES"
    let _ ← path
    let _ ← columnList
    consequences
    timings
    return true
  | "CHECK" =>
    let _ ← next
    let _ ← parenthesized g.expr
    return true
  | "INDEX" | "KEY" =>
    if named then return false
    let _ ← next
    plainIndex
    return true
  | "FULLTEXT" | "SPATIAL" =>
    if named then refuse
    let _ ← next
    let _ ← keywordOf? ["KEY", "INDEX"]
    let _ ← attempt name
    let _ ← columnList
    return true
  | _ => return false

/-- A constraint on a whole table, if one stands ahead. -/
def constraint? (g : Nesting) : Rule Bool := do
  if ← keyword "CONSTRAINT" then
    let _ ← name
    require (constraintBody? g true)
    return true
  else constraintBody? g false

/-! ## Columns -/

/-- Whether a computed column is kept or computed each time. -/
def computedKind : Rule Unit := discard (keywordOf? ["STORED", "VIRTUAL"])

/-- What follows `GENERATED`, if it says how the column is generated. -/
def generated? (g : Nesting) : Rule Bool := do
  if ← keywords ["ALWAYS", "AS", "IDENTITY"] then
    sequenceOptions?
    return true
  else if ← keywords ["BY", "DEFAULT", "AS", "IDENTITY"] then
    sequenceOptions?
    return true
  else if ← keywords ["ALWAYS", "AS"] then
    if (← peek?) != some (.symbol "(") then return false
    let _ ← parenthesized g.expr
    computedKind
    return true
  else return false

/-- The options of a column that come last. Two words that are no options here may stand before
them. -/
def lastColumnOption? (g : Nesting) : Rule Bool := do
  let _ ← keyword "AUTOINCREMENT"
  if ← keywords ["ON", "UPDATE"] then
    let _ ← g.expr
    return true
  else if ← keyword "GENERATED" then generated? g
  else if ← keyword "AS" then
    let _ ← parenthesized g.expr
    computedKind
    return true
  else
    let _ ← keyword "IDENTITY"
    return false

/-- An option of a column, if one stands ahead. -/
def columnOption? (g : Nesting) : Rule Bool := do
  if ← keywords ["CHARACTER", "SET"] then
    let _ ← path
    return true
  else if ← keywords ["NOT", "NULL"] then return true
  else if ← keyword "COMMENT" then
    singleQuoted
    return true
  else if ← keyword "NULL" then return true
  else if ← keyword "DEFAULT" then
    let _ ← g.expr
    return true
  else if ← keywords ["PRIMARY", "KEY"] then
    timings
    return true
  else if ← keyword "UNIQUE" then
    timings
    return true
  else if ← keyword "REFERENCES" then
    let _ ← path
    namesInParentheses?
    consequences
    timings
    return true
  else if ← keyword "CHECK" then
    let _ ← parenthesized g.expr
    return true
  else if ← keyword "AUTO_INCREMENT" then return true
  else lastColumnOption? g

/-- The options of a column without names and collations. -/
def columnOptions (g : Nesting) : Rule Unit := do
  let _ ← repeated do return if ← columnOption? g then some () else none

/-- One of the options behind the type of a column. They may be named, and a collation may stand
among them. -/
def columnPart? (g : Nesting) : Rule (Option Unit) := do
  if ← keyword "CONSTRAINT" then
    let _ ← name
    return some (← require (columnOption? g))
  else if ← columnOption? g then return some ()
  else after? (keyword "COLLATE") (discard path)

def columnDefinition (g : Nesting) : Rule Unit := do
  let _ ← name
  let _ ← dataType
  let _ ← after? (keyword "COLLATE") path
  let _ ← repeated (columnPart? g)

/-- A column or a constraint in the definition of a table. -/
def tablePart (g : Nesting) : Rule Unit := do
  if ← constraint? g then return ()
  match ← peek? with
  | some (.word _) => columnDefinition g
  | _ => refuse

/-- The columns and constraints of a table, which may be left out. -/
def tableParts (g : Nesting) : Rule Unit := do
  if !(← symbol "(") then return ()
  if ← symbol ")" then return ()
  let _ ← commas (tablePart g)
  requireSymbol ")"

/-- The columns by which a table is divided, where they stand. -/
def division (g : Nesting) : Rule Unit :=
  discard <| after? (keywords ["PARTITIONED", "BY"]) (parenthesized (commas (columnDefinition g)))

end QueryShapes.Sql.Rule
