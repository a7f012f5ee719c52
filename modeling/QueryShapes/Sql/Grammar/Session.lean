import QueryShapes.Sql.Grammar.Definition
import QueryShapes.Sql.Grammar.Call

/-!
# Statements of a session

Settings, transactions, cursors and prepared statements: all that lasts no longer than the session.

- `Rule.set`, `Rule.present`: what follows `SET` and `SHOW`.
- `Rule.transactionModes`: how a transaction runs.
-/

namespace QueryShapes.Sql.Rule

open Reading

/-! ## Transactions -/

/-- One of the ways in which a transaction runs, if it stands ahead. -/
def transactionMode? : Rule Bool := do
  if ← keywords ["ISOLATION", "LEVEL"] then
    if ← keyword "SERIALIZABLE" then return true
    if ← keywords ["REPEATABLE", "READ"] then return true
    requireKeyword "READ"
    if (← keywordOf? ["UNCOMMITTED", "COMMITTED"]).isNone then refuse
    return true
  else if ← keywords ["READ", "ONLY"] then return true
  else keywords ["READ", "WRITE"]

/-- How a transaction runs. Commas may stand between the modes, but not behind the last. -/
def transactionModes : Rule Unit := do
  let modes ← repeated do
    if ← transactionMode? then return some (← symbol ",") else return none
  if modes.getLast? == some true then refuse

/-- What follows `BEGIN`. -/
def begin : Rule Unit := do
  let _ ← keywordOf? ["TRANSACTION", "WORK"]
  transactionModes

/-- What follows `COMMIT`: whether the next transaction begins at once. -/
def commit : Rule Unit := do
  let _ ← keywordOf? ["TRANSACTION", "WORK"]
  if ← keyword "AND" then
    let _ ← keyword "NO"
    requireKeyword "CHAIN"

def rollback : Rule Unit := do
  commit
  if ← keyword "TO" then
    let _ ← keyword "SAVEPOINT"
    discard name

/-! ## Settings -/

/-- The role that a session takes. -/
def role : Rule Unit := do
  requireKeyword "ROLE"
  if !(← keyword "NONE") then discard name

/-- The character set of names and texts. -/
def characterSet : Rule Unit := do
  if !(← keyword "DEFAULT") then
    let _ ← literalText
    discard (after? (keyword "COLLATE") literalText)

/-- A value that is set: a query without parentheses will do. -/
def settingValue (g : Nesting) : Rule Unit := do
  if ← queryAhead then discard g.query else discard g.expr

/-- What follows the name of a setting. A few names take something else than an equals sign. The case
of two of these names counts. -/
def settingRest (g : Nesting) (hasScope : Bool) (setting : String) : Rule Unit := do
  if setting.toUpper == "NAMES" then characterSet
  else if ← symbol "=" then discard (commas (settingValue g))
  else if ← keyword "TO" then discard (commas (settingValue g))
  else if setting.toUpper == "TIMEZONE" then discard g.expr
  else if setting == "CHARACTERISTICS" then
    requireKeywords ["AS", "TRANSACTION"]
    transactionModes
  else if setting == "TRANSACTION" && !hasScope then
    if ← keyword "SNAPSHOT" then discard literal else transactionModes
  else refuse

def setting (g : Nesting) (hasScope : Bool) : Rule Unit := do
  if ← keywords ["TIME", "ZONE"] then settingRest g hasScope "TIMEZONE"
  else settingRest g hasScope (renderPath (← path))

/-- What follows `SET`. -/
def set (g : Nesting) : Rule Unit := do
  match ← keywordOf? ["SESSION", "LOCAL", "HIVEVAR"] with
  | some "HIVEVAR" =>
    requireSymbol ":"
    setting g true
  | scope? => if (← attempt role).isNone then setting g scope?.isSome

/-! ## Things that are shown -/

/-- Which of the things are shown. -/
def presentFilter (g : Nesting) : Rule Unit := do
  match ← keywordOf? ["LIKE", "ILIKE", "WHERE"] with
  | some "WHERE" => discard g.expr
  | some _ => discard literalText
  | none => return ()

/-- Where the things that are shown come from. -/
def presentSource? : Rule Unit := do
  if (← keywordOf? ["FROM", "IN"]).isSome then discard name

/-- Everything up to an equals sign, other statements included. -/
def presentRest : Rule Unit := discard (takeWhile (· != .symbol "="))

/-- What follows `SHOW`. Only lists of columns, tables and functions can be long ones. -/
def present (g : Nesting) : Rule Unit := do
  let extended ← keyword "EXTENDED"
  let full ← keyword "FULL"
  let _ ← keyword "SESSION"
  let _ ← keyword "GLOBAL"
  match ← keywordOf? ["COLUMNS", "FIELDS", "TABLES", "FUNCTIONS"] with
  | some "TABLES" =>
    presentSource?
    presentFilter g
  | some "FUNCTIONS" => presentFilter g
  | some _ =>
    if (← keywordOf? ["FROM", "IN"]).isNone then refuse
    let _ ← path
    presentSource?
    presentFilter g
  | none =>
    if extended || full then refuse
    match ← keywordOf? ["CREATE", "COLLATION", "VARIABLES", "STATUS"] with
    | some "CREATE" =>
      if (← keywordOf? ["TABLE", "TRIGGER", "FUNCTION", "PROCEDURE", "EVENT", "VIEW"]).isNone then
        refuse
      discard path
    | some _ => presentFilter g
    | none => presentRest

/-! ## Cursors -/

/-- What follows `DECLARE`: a cursor for a query. -/
def declareCursor (g : Nesting) : Rule Unit := do
  let _ ← name
  let _ ← keyword "BINARY"
  let _ ← keywordOf? ["INSENSITIVE", "ASENSITIVE"]
  if !(← keyword "SCROLL") then discard (keywords ["NO", "SCROLL"])
  requireKeyword "CURSOR"
  if (← keywordOf? ["WITH", "WITHOUT"]).isSome then requireKeyword "HOLD"
  requireKeyword "FOR"
  discard g.query

/-- Which rows of a cursor are fetched. -/
def fetchDirection : Rule Unit := do
  match ← keywordOf? ["NEXT", "PRIOR", "FIRST", "LAST", "ABSOLUTE", "RELATIVE", "FORWARD", "BACKWARD",
    "ALL"] with
  | some "ABSOLUTE" | some "RELATIVE" | none => numberOrPlaceholder
  | some "FORWARD" | some "BACKWARD" => if !(← keyword "ALL") then numberOrPlaceholder
  | some _ => return ()

/-- What follows `FETCH`. -/
def fetchRows : Rule Unit := do
  fetchDirection
  if (← keywordOf? ["FROM", "IN"]).isNone then refuse
  let _ ← name
  discard (after? (keyword "INTO") path)

def closeCursor : Rule Unit := do
  if !(← keyword "ALL") then discard name

/-! ## Prepared statements and procedures -/

def prepare (g : Nesting) : Rule Unit := do
  let _ ← name
  let _ ← after? (symbol "(") do
    let _ ← commas dataType
    requireSymbol ")"
  requireKeyword "AS"
  discard g.statement

def execute (g : Nesting) : Rule Unit := do
  let _ ← name
  if (← peek?) == some (.symbol "(") then expressions g
  discard (after? (keyword "USING") (commas g.expr))

/-- What follows `CALL`: a procedure, whose parentheses may be left out. -/
def callProcedure (g : Nesting) : Rule Unit := do
  let procedure ← path
  if (← peek?) == some (.symbol "(") then discard (call g procedure)

end QueryShapes.Sql.Rule
