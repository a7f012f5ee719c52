import QueryShapes.Sql.Grammar.Change

/-!
# The grammar of queries

- `Rule.body`: a query without ordering and limits.
- `Rule.query`: a query with its common tables, ordering and limits.
-/

namespace QueryShapes.Sql.Rule

open Reading

/-! ## Query bodies -/

/-- A whole table, after the word `TABLE`. A name without a schema takes the two tokens behind it
along. -/
def wholeTable : Rule String := do
  match ← next with
  | .word first =>
    if ← symbol "." then
      match ← next with
      | .word second => return "TABLE " ++ first.text ++ "." ++ second.text
      | _ => refuse
    else
      anyToken
      anyToken
      return "TABLE " ++ first.text
  | _ => refuse

/-- A query body without set operations. -/
def plainBody (g : Nesting) : Rule QueryBody := do
  if (← keywordAhead 0) == "SELECT" then return .select (← select g)
  else if ← symbol "(" then
    let inner ← queryText g
    requireSymbol ")"
    return .other ("(" ++ inner ++ ")")
  else if ← keyword "VALUES" then return .other (← values g)
  else
    requireKeyword "TABLE"
    return .other (← wholeTable)

/-- How a set operation treats equal rows and the order of columns. -/
def setQuantifier : Rule String := do
  let quantifier := ((← keywordOf? ["ALL", "DISTINCT"]).map (" " ++ ·)).getD ""
  let byName := if ← keywords ["BY", "NAME"] then " BY NAME" else ""
  return quantifier ++ byName

/-- What stands between the operands of a set operation. -/
def setOperator? : Rule (Option String) := do
  match ← keywordOf? ["UNION", "EXCEPT", "INTERSECT"] with
  | some word => return some (" " ++ word ++ (← setQuantifier) ++ " ")
  | none => return none

def body (g : Nesting) : Rule QueryBody := do
  let first ← plainBody g
  let others ← repeated do
    match ← setOperator? with
    | some operator => return some (operator ++ (← plainBody g).render)
    | none => return none
  if others.isEmpty then return first else return .other (first.render ++ String.join others)

/-! ## Common tables -/

/-- A common table expression. -/
def commonTable (g : Nesting) : Rule String := do
  let n ← name
  let columns := ((← columnList?).map (" (" ++ · ++ ")")).getD ""
  requireKeyword "AS"
  let inner ← parenthesized (queryText g)
  let source ← optionalText " FROM " (keyword "FROM") (return (← name).render)
  return n.render ++ columns ++ " AS (" ++ inner ++ ")" ++ source

def commonTables (g : Nesting) : Rule String := do
  let recursive := if ← keyword "RECURSIVE" then "RECURSIVE " else ""
  return "WITH " ++ recursive ++ commaSeparated (← commas (commonTable g))

/-! ## Limits -/

/-- The value after `LIMIT`; `ALL` is no limit. -/
def limitValue (g : Nesting) : Rule (Option Expr) := do
  if ← keyword "ALL" then return none else return some (← g.expr)

def offsetText (g : Nesting) : Rule String := do
  let value ← exprText g
  let unit := ((← keywordOf? ["ROW", "ROWS"]).map (" " ++ ·)).getD ""
  return "OFFSET " ++ value ++ unit

/-- A limit and an offset, in either order, as far as they have not been given. A pair is an offset
followed by a limit. -/
def limits (g : Nesting) (given : Option Expr × Option String) :
    Rule (Option Expr × Option String) := do
  let limit ← match given.1 with
    | some limit => pure (some limit)
    | none => pure ((← after? (keyword "LIMIT") (limitValue g)).getD none)
  let offset ← match given.2 with
    | some offset => pure (some offset)
    | none => after? (keyword "OFFSET") (offsetText g)
  match limit, offset with
  | some first, none =>
    if ← symbol "," then return (some (← g.expr), some ("OFFSET " ++ first.render))
    else return (limit, offset)
  | _, _ => return (limit, offset)

def fetch : Rule String := do
  if (← keywordOf? ["FIRST", "NEXT"]).isNone then refuse
  let quantity ← if (← keywordOf? ["ROW", "ROWS"]).isSome then pure "" else do
    let value := (← literal).render
    let percent := if ← keyword "PERCENT" then " PERCENT" else ""
    if (← keywordOf? ["ROW", "ROWS"]).isNone then refuse
    pure (" " ++ value ++ percent)
  if ← keyword "ONLY" then return "FIRST" ++ quantity ++ " ROWS ONLY"
  requireKeywords ["WITH", "TIES"]
  return "FIRST" ++ quantity ++ " ROWS WITH TIES"

/-! ## Locks and forms of the answer -/

/-- A lock on the rows that a query reads, after `FOR`. -/
def lock : Rule String := do
  match ← keywordOf? ["UPDATE", "SHARE"] with
  | some kind =>
    let table ← optionalText " OF " (keyword "OF") (return renderPath (← path))
    let waiting ← if ← keyword "NOWAIT" then pure " NOWAIT"
      else if ← keywords ["SKIP", "LOCKED"] then pure " SKIP LOCKED"
      else pure ""
    return kind ++ table ++ waiting
  | none => refuse

/-- A name in parentheses, as a text in single quotes. -/
def formName : Rule String := return "('" ++ (← parenthesized literalText) ++ "')"

def formName? : Rule String := do
  if (← peek?) == some (.symbol "(") then formName else return ""

/-- The options behind a form of the answer, by their keywords. A comma need not have one, and an
option that is given twice counts once, with its last text. -/
def formOptions (option : Rule (Option (String × String))) : Rule (List (String × String)) := do
  let options ← repeated (after? (symbol ",") option)
  return options.filterMap id

/-- Those of the options that are given, in a fixed order. -/
def orderedOptions (order : List String) (options : List (String × String)) : String :=
  String.join (order.filterMap fun word =>
    (options.filter (·.1 == word)).getLast?.map fun option => ", " ++ option.1 ++ option.2)

def xmlOption : Rule (Option (String × String)) := do
  match ← keywordOf? ["ELEMENTS", "BINARY", "ROOT", "TYPE"] with
  | some "BINARY" =>
    requireKeyword "BASE64"
    return some ("BINARY BASE64", "")
  | some "ROOT" => return some ("ROOT", ← formName)
  | some word => return some (word, "")
  | none => return none

def xmlForm : Rule String := do
  let form ← match ← keywordOf? ["RAW", "AUTO", "EXPLICIT", "PATH"] with
    | some "RAW" => pure ("RAW" ++ (← formName?))
    | some "PATH" => pure ("PATH" ++ (← formName?))
    | some word => pure word
    | none => refuse
  let options ← formOptions xmlOption
  return "XML " ++ form ++ orderedOptions ["BINARY BASE64", "TYPE", "ROOT", "ELEMENTS"] options

def jsonOption : Rule (Option (String × String)) := do
  match ← keywordOf? ["ROOT", "INCLUDE_NULL_VALUES", "WITHOUT_ARRAY_WRAPPER"] with
  | some "ROOT" => return some ("ROOT", ← formName)
  | some word => return some (word, "")
  | none => return none

def jsonForm : Rule String := do
  match ← keywordOf? ["AUTO", "PATH"] with
  | some form =>
    let options ← formOptions jsonOption
    return "JSON " ++ form ++
      orderedOptions ["ROOT", "INCLUDE_NULL_VALUES", "WITHOUT_ARRAY_WRAPPER"] options
  | none => refuse

/-- The form in which the answer is given, after `FOR`. -/
def answerForm? : Rule (Option String) := do
  match ← keywordOf? ["XML", "JSON", "BROWSE"] with
  | some "XML" => return some (← xmlForm)
  | some "JSON" => return some (← jsonForm)
  | word? => return word?

/-- Locks, and a form of the answer behind them, at most `fuel` of them. The locks are written
first. -/
def locksWithin : Nat → Rule String
  | 0 => return ""
  | fuel + 1 => do
    if !(← keyword "FOR") then return ""
    match ← answerForm? with
    | some form => return " FOR " ++ form
    | none =>
      let lock ← lock
      return " FOR " ++ lock ++ (← locksWithin fuel)

def locks : Rule String := sized fun length => locksWithin (length + 1)

/-! ## Whole queries -/

/-- What follows the common tables: a change, or a body with its ordering and limits. -/
def query (g : Nesting) : Rule QueryText := do
  let commonTables ← after? (keyword "WITH") (commonTables g)
  match ← keywordOf? ["INSERT", "UPDATE"] with
  | some word =>
    let change ← if word == "INSERT" then insert g else update g
    return ⟨commonTables, .other change, [], none, none, ""⟩
  | none =>
    let body ← body g
    let orderBy := (← after? (keywords ["ORDER", "BY"]) (orderTerms g)).getD []
    let (limit, offset) ← limits g (← limits g (none, none))
    let fetch ← optionalText " FETCH " (keyword "FETCH") fetch
    return ⟨commonTables, body, orderBy, limit, offset, fetch ++ (← locks)⟩

end QueryShapes.Sql.Rule
