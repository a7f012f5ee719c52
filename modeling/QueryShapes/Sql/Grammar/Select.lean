import QueryShapes.Sql.Grammar.Call

/-!
# Selections and lists of values

- `Rule.selectTerm`: an item of a select list.
- `Rule.select`: a `SELECT` without ordering and limits.
- `Rule.values`: the rows of a list of values.
-/

namespace QueryShapes.Sql.Rule

open Reading

/-! ## Select lists -/

def distinct (g : Nesting) : Rule (Option String) := do
  let all ← keyword "ALL"
  if ← keyword "DISTINCT" then
    if all then refuse
    if ← keyword "ON" then
      let columns ← parenthesized do
        if (← peek?) == some (.symbol ")") then return "" else exprTexts g
      return some ("DISTINCT ON (" ++ columns ++ ")")
    else return some "DISTINCT"
  else return none

def top (g : Nesting) : Rule String := do
  let quantity ← if (← peek?) == some (.symbol "(") then
    pure ("(" ++ (← parenthesized (exprText g)) ++ ")")
  else wholeNumber
  let percent := if ← keyword "PERCENT" then " PERCENT" else ""
  let ties := if ← keywords ["WITH", "TIES"] then " WITH TIES" else ""
  return quantity ++ percent ++ ties

/-- An item of a select list. A bare `FROM` is none. -/
def selectTerm (g : Nesting) : Rule SelectTerm := do
  match ← wildcard? with
  | some path => return .wildcard path
  | none =>
    let e ← g.expr
    match e with
    | .name n => if n.keyword == "FROM" then refuse
    | _ => pure ()
    return .expr e (← label? reservedForColumns)

def selectTerms (g : Nesting) : Rule (List SelectTerm) := commas (selectTerm g)

def intoText : Rule String := do
  let temporary := ((← keywordOf? ["TEMP", "TEMPORARY"]).map fun _ => "TEMPORARY ").getD ""
  let unlogged := if ← keyword "UNLOGGED" then "UNLOGGED " else ""
  let table := if ← keyword "TABLE" then "TABLE " else ""
  return temporary ++ unlogged ++ table ++ renderPath (← path)

/-! ## One `SELECT` -/

def lateralView? (g : Nesting) : Rule (Option String) :=
  after? (keywords ["LATERAL", "VIEW"]) do
    let outer := if ← keyword "OUTER" then " OUTER" else ""
    let value ← exprText g
    let view ← path
    let columns ← commas (label? ["WHERE", "GROUP", "CLUSTER", "HAVING", "LATERAL"])
    let names := columns.filterMap (·.map Name.render)
    return " LATERAL VIEW" ++ outer ++ " " ++ value ++ " " ++ renderPath view ++
      (if names.isEmpty then "" else " AS " ++ commaSeparated names)

def grouping (g : Nesting) : Rule Grouping := do
  if ← keywords ["GROUP", "BY"] then
    if ← keyword "ALL" then return .all else return .columns (← commas g.expr)
  else return .columns []

def namedWindow (g : Nesting) : Rule String := do
  let n ← name
  requireKeyword "AS"
  requireSymbol "("
  return n.render ++ " AS (" ++ (← windowRest g) ++ ")"

/-- Named windows and the filter on them, in either order. -/
def windows (g : Nesting) : Rule String := do
  let windowRule := optionalText " WINDOW " (keyword "WINDOW")
    (return commaSeparated (← commas (namedWindow g)))
  let filterRule := optionalText " QUALIFY " (keyword "QUALIFY") (exprText g)
  let first ← windowRule
  let filter ← filterRule
  if first.isEmpty && !filter.isEmpty then return filter ++ (← windowRule)
  else return first ++ filter

def select (g : Nesting) : Rule SelectText := do
  requireKeyword "SELECT"
  let distinct ← distinct g
  let beforeItems ← optionalText " TOP " (keyword "TOP") (top g)
  let items ← selectTerms g
  let afterItems ← optionalText " INTO " (keyword "INTO") intoText
  let tables := (← after? (keyword "FROM") (commas g.joined)).getD []
  let afterTables := String.join (← repeated (lateralView? g))
  let filter ← after? (keyword "WHERE") g.expr
  let grouping ← grouping g
  let cluster ← optionalText " CLUSTER BY " (keywords ["CLUSTER", "BY"]) (exprTexts g)
  let distribute ← optionalText " DISTRIBUTE BY " (keywords ["DISTRIBUTE", "BY"]) (exprTexts g)
  let sort ← optionalText " SORT BY " (keywords ["SORT", "BY"]) (exprTexts g)
  let having ← after? (keyword "HAVING") g.expr
  let afterHaving ← windows g
  return ⟨distinct, items, tables, filter, grouping, having,
    ⟨beforeItems, afterItems, afterTables, cluster ++ distribute ++ sort, afterHaving⟩⟩

/-! ## Lists of values -/

/-- A row, and whether the word `ROW` stands before it. -/
def valuesRow (g : Nesting) : Rule (Bool × String) := do
  let marked ← keyword "ROW"
  let elements ← parenthesized do
    if (← peek?) == some (.symbol ")") then return "" else exprTexts g
  return (marked, "(" ++ elements ++ ")")

/-- The rows after `VALUES`. If one of them is marked they are all written so. -/
def values (g : Nesting) : Rule String := do
  let rows ← commas (valuesRow g)
  let mark := if rows.any Prod.fst then "ROW" else ""
  return "VALUES " ++ commaSeparated (rows.map fun row => mark ++ row.2)

end QueryShapes.Sql.Rule
