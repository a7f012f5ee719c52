import QueryShapes.Sql.Grammar.Definition

/-!
# Statements of maintenance

- `Rule.explain`: how a statement would run, or what a table is like.
- `Rule.flush`, `Rule.analyze`, `Rule.cacheTable`: what the server keeps beside the rows.
-/

namespace QueryShapes.Sql.Rule

open Reading

/-! ## Explanations -/

def explainFormat : Rule Unit := do
  if (← keywordOf? ["TEXT", "GRAPHVIZ", "JSON"]).isNone then refuse

/-- Words that make a statement an explanation. -/
def explanations : List String := ["EXPLAIN", "DESCRIBE", "DESC"]

/-- What follows `EXPLAIN`. No explanation is explained in turn; what is no statement is the name of
a table. -/
def explain (g : Nesting) : Rule Unit := do
  let _ ← keyword "ANALYZE"
  let _ ← keyword "VERBOSE"
  let _ ← after? (keyword "FORMAT") explainFormat
  let again := explanations.contains (← keywordAhead 0)
  if (← attempt g.statement).isSome then
    if again then refuse
  else
    let _ ← keywordOf? ["EXTENDED", "FORMATTED"]
    discard path

/-! ## Running statements -/

/-- What follows `KILL`. -/
def kill : Rule Unit := do
  let _ ← keywordOf? ["CONNECTION", "QUERY"]
  discard wholeNumber

/-! ## Logs, statistics and files -/

/-- The tables that are flushed. Keywords in between are taken along, and so is the token that ends
the list. -/
def flushedTables : Rule Unit := do
  let _ ← repeated do
    match ← peek? with
    | some (.word n) =>
      if n.isKeyword then
        let _ ← next
        if n.keyword == "WITH" then discard (keywords ["READ", "LOCK"])
        if n.keyword == "FOR" then discard (keyword "EXPORT")
      else paths
      return some ()
    | _ =>
      anyToken
      return none

/-- What follows `FLUSH`. -/
def flush : Rule Unit := do
  let _ ← keywordOf? ["NO_WRITE_TO_BINLOG", "LOCAL"]
  match ← keywordOf? ["BINARY", "ENGINE", "ERROR", "GENERAL", "RELAY", "SLOW", "HOSTS", "PRIVILEGES",
    "OPTIMIZER_COSTS", "STATUS", "USER_RESOURCES", "LOGS", "TABLES"] with
  | some "BINARY" | some "ENGINE" | some "ERROR" | some "GENERAL" | some "SLOW" =>
    requireKeyword "LOGS"
  | some "RELAY" =>
    requireKeyword "LOGS"
    discard (after? (keywords ["FOR", "CHANNEL"]) path)
  | some "TABLES" => flushedTables
  | some _ => return ()
  | none => refuse

/-- One of the options of an analysis, if it stands ahead. -/
def analysisOption? (g : Nesting) : Rule (Option Unit) := do
  match ← keywordOf? ["PARTITION", "FOR", "CACHE", "NOSCAN", "COMPUTE"] with
  | some "PARTITION" => return some (← expressions g)
  | some "FOR" =>
    requireKeyword "COLUMNS"
    let _ ← attempt (commas name)
    return some ()
  | some "CACHE" => return some (← requireKeyword "METADATA")
  | some "COMPUTE" => return some (← requireKeyword "STATISTICS")
  | some _ => return some ()
  | none => return none

/-- What follows `ANALYZE`. -/
def analyze (g : Nesting) : Rule Unit := do
  requireKeyword "TABLE"
  let _ ← path
  discard (repeated (analysisOption? g))

/-- What follows `TRUNCATE`. -/
def truncate (g : Nesting) : Rule Unit := do
  let _ ← keyword "TABLE"
  let _ ← path
  discard (after? (keyword "PARTITION") (expressions g))

/-- What follows `MSCK`. -/
def checkTable : Rule Unit := do
  let _ ← keyword "REPAIR"
  requireKeyword "TABLE"
  let _ ← path
  discard <| attempt do
    let _ ← keywordOf? ["ADD", "DROP", "SYNC"]
    requireKeyword "PARTITIONS"

/-! ## Caches -/

/-- The query whose rows are kept, where anything follows at all. -/
def cachedQuery (g : Nesting) : Rule Unit := do
  match ← peek? with
  | none => return ()
  | some (.word _) =>
    let _ ← keyword "AS"
    discard g.query
  | some _ => refuse

/-- What follows `CACHE`. A name may stand before the word `TABLE`. -/
def cacheTable (g : Nesting) : Rule Unit := do
  if !(← keyword "TABLE") then
    let _ ← path
    requireKeyword "TABLE"
  let _ ← path
  let _ ← settingsAfter g ["OPTIONS"]
  cachedQuery g

/-- What follows `UNCACHE`. -/
def uncacheTable : Rule Unit := do
  requireKeyword "TABLE"
  ifExists
  discard path

/-- What follows `DISCARD`. -/
def discardKept : Rule Unit := do
  if (← keywordOf? ["ALL", "PLANS", "SEQUENCES", "TEMP", "TEMPORARY"]).isNone then refuse

/-! ## Databases -/

/-- What follows `ATTACH`. -/
def attachDatabase (g : Nesting) : Rule Unit := do
  let _ ← keyword "DATABASE"
  let _ ← g.expr
  requireKeyword "AS"
  discard name

def pragmaValue : Rule Unit := do
  match ← literal with
  | .number _ _ | .placeholder _ | .string _ _ => return ()
  | _ => refuse

/-- What follows `PRAGMA`. -/
def pragma : Rule Unit := do
  let _ ← path
  if ← symbol "(" then
    pragmaValue
    requireSymbol ")"
  else discard (after? (symbol "=") pragmaValue)

/-- What follows `ASSERT`. -/
def assert (g : Nesting) : Rule Unit := do
  let _ ← g.expr
  discard (after? (keyword "AS") g.expr)

end QueryShapes.Sql.Rule
