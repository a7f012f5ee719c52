import QueryShapes.Sql.Grammar.Call

/-!
# Tables

What rows come from: named tables, subqueries, functions and tables that are turned around, with the
joins between them.

- `Rule.tableTerm`: one table with its alias.
- `Rule.joined`: a table with the tables joined to it.
-/

namespace QueryShapes.Sql.Rule

open Reading

/-! ## Aliases -/

/-- An alias of a table, and the names that it gives to the columns. -/
def tableLabel : Rule (Option Name × String) := do
  let label ← label? reservedForTables
  let listed := (← peek?) == some (.symbol "(")
  if label.isSome && listed then return (label, " (" ++ (← columnList) ++ ")")
  else return (label, "")

def tableLabelText : Rule String := do
  let (label, columns) ← tableLabel
  return renderLabel label ++ columns

/-! ## Tables turned around -/

/-- An alias that only `AS` introduces. -/
def explicitLabel : Rule String := optionalText " AS " (keyword "AS") (return (← name).render)

/-- A call among those that a pivot computes. Quotes around the function's name are lost. -/
def pivotCall (g : Nesting) : Rule String := do
  match ← next with
  | .word n =>
    let e ← call g [⟨n.text, none⟩]
    return e.render ++ (← explicitLabel)
  | _ => refuse

/-- The values that become columns. -/
def pivotValues (g : Nesting) : Rule String := do
  if ← keyword "ANY" then
    return "ANY" ++ (← optionalText " ORDER BY " (keywords ["ORDER", "BY"]) (orderText g))
  else if ← queryAhead then queryText g
  else return commaSeparated (← commas (do return (← exprText g) ++ (← explicitLabel)))

/-- What follows `PIVOT`: the values of a column become columns. -/
def pivot (g : Nesting) : Rule String := do
  let inner ← parenthesized do
    let calls := commaSeparated (← commas (pivotCall g))
    requireKeyword "FOR"
    let column := renderPath (← path)
    requireKeyword "IN"
    let values ← parenthesized (pivotValues g)
    let missing ← optionalText " DEFAULT ON NULL " (keywords ["DEFAULT", "ON", "NULL"])
      (return "(" ++ (← parenthesized (exprText g)) ++ ")")
    return calls ++ " FOR " ++ column ++ " IN (" ++ values ++ ")" ++ missing
  return " PIVOT(" ++ inner ++ ")" ++ (← tableLabelText)

/-- What follows `UNPIVOT`: columns become the values of one column. -/
def unpivot : Rule String := do
  let inner ← parenthesized do
    let value := (← name).render
    requireKeyword "FOR"
    let column := (← name).render
    requireKeyword "IN"
    return value ++ " FOR " ++ column ++ " IN (" ++ (← columnList) ++ ")"
  return " UNPIVOT(" ++ inner ++ ")" ++ (← tableLabelText)

/-- A table with whatever turns it around. -/
def turned (g : Nesting) (table : TableTerm) : Rule TableTerm := do
  let turns ← repeated do
    match ← keywordOf? ["PIVOT", "UNPIVOT"] with
    | some "PIVOT" => return some (← pivot g)
    | some _ => return some (← unpivot)
    | none => return none
  return if turns.isEmpty then table else .other (table.render ++ String.join turns)

/-! ## Tables made from documents -/

/-- What a column holds where the document has nothing for it, or something wrong. -/
def documentFallback? : Rule (Option String) := do
  let value? ← match ← keywordOf? ["NULL", "ERROR", "DEFAULT"] with
    | some "DEFAULT" => pure (some ("DEFAULT " ++ (← literal).render))
    | word? => pure word?
  if value?.isSome then requireKeyword "ON"
  return value?

/-- The fallbacks for no value and for an error; the last one of a kind counts. -/
def documentFallbacks : Rule String := do
  let fallbacks ← repeated do
    match ← documentFallback? with
    | some value =>
      if ← keyword "EMPTY" then return some (true, value)
      requireKeyword "ERROR"
      return some (false, value)
    | none => return none
  let last := fun empty => (fallbacks.filter (·.1 == empty)).getLast?.map Prod.snd
  return ((last true).map (" " ++ · ++ " ON EMPTY")).getD "" ++
    ((last false).map (" " ++ · ++ " ON ERROR")).getD ""

def documentColumn : Rule String := do
  let column := (← name).render
  let typeName ← dataType
  let tests ← optionalWord "EXISTS"
  requireKeyword "PATH"
  let place := (← literal).render
  return column ++ " " ++ typeName ++ tests ++ " PATH " ++ place ++ (← documentFallbacks)

/-- What follows `JSON_TABLE` and its opening parenthesis. -/
def documentTable (g : Nesting) : Rule String := do
  let document ← exprText g
  requireSymbol ","
  let place := (← literal).render
  requireKeyword "COLUMNS"
  let columns := commaSeparated (← parenthesized (commas documentColumn))
  requireSymbol ")"
  return "JSON_TABLE(" ++ document ++ ", " ++ place ++ " COLUMNS(" ++ columns ++ "))" ++
    (← tableLabelText)

/-! ## Tables -/

/-- The arguments of a table function after its opening parenthesis. -/
def tableArguments (g : Nesting) : Rule String := do
  if ← symbol ")" then return "()"
  let args ← commas (argument g)
  requireSymbol ")"
  return "(" ++ commaSeparated (args.map Argument.render) ++ ")"

def namedTable (g : Nesting) : Rule TableTerm := do
  let tablePath ← path
  let partitions ← optionalText "PARTITION " (keyword "PARTITION")
    (return "(" ++ (← columnList) ++ ")")
  let args ← optionalText "" (symbol "(") (tableArguments g)
  let ordinality := if ← keywords ["WITH", "ORDINALITY"] then " WITH ORDINALITY" else ""
  let (label, columns) ← tableLabel
  let hinted := (← keywordAhead 0) == "WITH" && (← ahead? 1) == some (.symbol "(")
  let hints ← optionalText " WITH " (if hinted then keyword "WITH" else pure false)
    (return "(" ++ (← parenthesized (exprTexts g)) ++ ")")
  turned g (.table tablePath (partitions ++ args ++ ordinality) label (columns ++ hints))

/-- A subquery after its opening parenthesis. -/
def derivedTable (g : Nesting) : Rule String := do
  let inner ← queryText g
  requireSymbol ")"
  return "(" ++ inner ++ ")" ++ (← tableLabelText)

/-- Joined tables after their opening parenthesis. A single table does not stand in parentheses. -/
def nestedTables (g : Nesting) : Rule String := do
  let inner ← g.joined
  match inner.table, inner.joins with
  | .nested _, _ | _, _ :: _ =>
    requireSymbol ")"
    return "(" ++ inner.render ++ ")" ++ (← tableLabelText)
  | _, [] => refuse

/-- What an opening parenthesis in place of a table starts. -/
def parenthesizedTable (g : Nesting) : Rule TableTerm := do
  match ← attempt (derivedTable g) with
  | some text => turned g (.other text)
  | none => return .nested (← nestedTables g)

def tableTerm (g : Nesting) : Rule TableTerm := do
  if ← keyword "LATERAL" then
    if ← symbol "(" then return .other ("LATERAL " ++ (← derivedTable g))
    let function ← path
    requireSymbol "("
    let args ← tableArguments g
    return .other ("LATERAL " ++ renderPath function ++ args ++ (← tableLabelText))
  else if ← keyword "TABLE" then
    let value ← parenthesized (exprText g)
    return .other ("TABLE(" ++ value ++ ")" ++ (← tableLabelText))
  else if ← symbol "(" then parenthesizedTable g
  else if (← keywordAhead 0) == "JSON_TABLE" && (← ahead? 1) == some (.symbol "(") then
    let _ ← next
    let _ ← next
    return .other (← documentTable g)
  else namedTable g

/-! ## Joins -/

/-- The keywords of a join with a constraint, if they stand ahead. -/
def joinOperator? : Rule (Option JoinOperator) := do
  match ← keywordAhead 0 with
  | "INNER" | "JOIN" =>
    let _ ← keyword "INNER"
    requireKeyword "JOIN"
    return some .inner
  | "LEFT" | "RIGHT" =>
    let side := (← next).keyword
    match ← keywordOf? ["OUTER", "SEMI", "ANTI"] with
    | none | some "OUTER" =>
      requireKeyword "JOIN"
      return some (if side == "LEFT" then .left else .other (side ++ " JOIN"))
    | some word =>
      requireKeyword "JOIN"
      return some (.other (side ++ " " ++ word ++ " JOIN"))
  | "FULL" =>
    let _ ← next
    let _ ← keyword "OUTER"
    requireKeyword "JOIN"
    return some (.other "FULL JOIN")
  | _ => return none

def joinConstraint (g : Nesting) : Rule JoinConstraint := do
  if ← keyword "ON" then return .condition (← g.expr)
  else if ← keyword "USING" then return .shared (← columnList)
  else return .none

/-- What rows of the two tables have to fulfil to match, which only some joins say. -/
def matching (g : Nesting) : Rule String := do
  requireKeyword "MATCH_CONDITION"
  return " MATCH_CONDITION (" ++ (← parenthesized (exprText g)) ++ ")"

def joinTerm? (g : Nesting) : Rule (Option JoinTerm) := do
  let isGlobal ← keyword "GLOBAL"
  match ← keywordOf? ["CROSS", "OUTER", "ASOF"] with
  | some "CROSS" =>
    match ← keywordOf? ["JOIN", "APPLY"] with
    | some "JOIN" => return some { operator := .cross, table := ← tableTerm g, constraint := .none,
                                   isGlobal }
    | some _ => return some { operator := .other "CROSS APPLY", table := ← tableTerm g,
                              constraint := .none, isGlobal }
    | none => refuse
  | some "OUTER" =>
    requireKeyword "APPLY"
    return some { operator := .other "OUTER APPLY", table := ← tableTerm g, constraint := .none,
                  isGlobal }
  | some _ =>
    requireKeyword "JOIN"
    let table ← tableTerm g
    let matching ← matching g
    return some { operator := .other "ASOF JOIN", table, constraint := ← joinConstraint g, isGlobal,
                  matching }
  | none =>
    let natural ← keyword "NATURAL"
    match ← joinOperator? with
    | some operator =>
      let table ← tableTerm g
      let constraint ← if natural then pure .natural else joinConstraint g
      return some { operator, table, constraint, isGlobal }
    | none => if natural then refuse else return none

/-- A table with the tables joined to it. -/
def joined (g : Nesting) : Rule FromTerm := do
  let table ← tableTerm g
  return ⟨table, ← repeated (joinTerm? g)⟩

end QueryShapes.Sql.Rule
