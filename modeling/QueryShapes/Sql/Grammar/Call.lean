import QueryShapes.Sql.Grammar.Interval

/-!
# Calls

Calls of functions by their name, with everything that may stand beside the arguments.

- `Rule.arguments`: the arguments up to the closing parenthesis.
- `Rule.window`: the rows that a window function looks at.
- `Rule.call`: a call from its opening parenthesis on.
-/

namespace QueryShapes.Sql.Rule

open Reading

/-! ## Arguments -/

def argumentValue (g : Nesting) : Rule Argument := do
  match ← wildcard? with
  | some [] => return .wildcard
  | some path => return .qualified path
  | none => return .expr (← g.expr)

def argument (g : Nesting) : Rule Argument := do
  if (← ahead? 1) == some (.symbol "=>") then
    let n ← name
    requireSymbol "=>"
    return .named (n.render ++ " => " ++ (← argumentValue g).render)
  else argumentValue g

/-- What becomes of a list that grows too long: an error, or a cut that a text may mark. -/
def overflow (g : Nesting) : Rule String := do
  if ← keyword "ERROR" then return "ERROR"
  requireKeyword "TRUNCATE"
  let filler ← match ← peek? with
    | some (.string '\'' _) | some (.tagged _ _) => pure (" " ++ (← exprText g))
    | some (.word n) => if ["WITH", "WITHOUT"].contains n.keyword then pure "" else refuse
    | _ => refuse
  match ← keywordOf? ["WITH", "WITHOUT"] with
  | some word =>
    requireKeyword "COUNT"
    return "TRUNCATE" ++ filler ++ " " ++ word ++ " COUNT"
  | none => refuse

/-- The clauses behind the arguments, inside the parentheses. -/
def argumentClauses (g : Nesting) : Rule String := do
  let order ← optionalText " ORDER BY " (keywords ["ORDER", "BY"]) (orderText g)
  let limit ← optionalText " LIMIT " (keyword "LIMIT") (exprText g)
  let separator ← optionalText " SEPARATOR " (keyword "SEPARATOR") (return (← literal).render)
  let overflow ← optionalText " ON OVERFLOW " (keywords ["ON", "OVERFLOW"]) (overflow g)
  return order ++ limit ++ separator ++ overflow

/-- The arguments of a call up to the closing parenthesis, with their quantifier and the clauses
after them. -/
def arguments (g : Nesting) : Rule (List Argument × Option String × String) := do
  requireSymbol "("
  if ← symbol ")" then return ([], none, "")
  let all ← keyword "ALL"
  let distinct ← keyword "DISTINCT"
  if all && distinct then refuse
  let quantifier := if all then some "ALL" else if distinct then some "DISTINCT" else none
  let args ← commas (argument g)
  let clauses ← argumentClauses g
  requireSymbol ")"
  return (args, quantifier, clauses)

/-! ## Windows -/

/-- Where the rows around a row begin or end. A text in single quotes is a length of time. -/
def frameBound (g : Nesting) : Rule String := do
  if ← keywords ["CURRENT", "ROW"] then return "CURRENT ROW"
  let distance ← if ← keyword "UNBOUNDED" then pure "UNBOUNDED" else
    match ← peek? with
    | some (.string '\'' _) => interval g
    | _ => exprText g
  match ← keywordOf? ["PRECEDING", "FOLLOWING"] with
  | some side => return distance ++ " " ++ side
  | none => refuse

/-- The rows around a row that a window function looks at. -/
def frame (g : Nesting) : Rule String := do
  match ← keywordOf? ["ROWS", "RANGE", "GROUPS"] with
  | some unit =>
    if ← keyword "BETWEEN" then
      let first ← frameBound g
      requireKeyword "AND"
      return unit ++ " BETWEEN " ++ first ++ " AND " ++ (← frameBound g)
    else return unit ++ " " ++ (← frameBound g)
  | none => refuse

/-- A window up to its closing parenthesis. -/
def windowRest (g : Nesting) : Rule String := do
  let base ← match ← peek? with
    | some (.word n) =>
      if n.isKeyword then pure [] else do
        let _ ← next
        pure [n.render]
    | _ => pure []
  let partition ← after? (keywords ["PARTITION", "BY"]) (exprTexts g)
  let order ← after? (keywords ["ORDER", "BY"]) (orderText g)
  let extent ← if ← symbol ")" then pure [] else do
    let text ← frame g
    requireSymbol ")"
    pure [text]
  return " ".intercalate (base ++ (partition.map ("PARTITION BY " ++ ·)).toList ++
    (order.map ("ORDER BY " ++ ·)).toList ++ extent)

def window (g : Nesting) : Rule String := do
  if ← symbol "(" then return "(" ++ (← windowRest g) ++ ")" else return (← name).render

def nullTreatment : Rule String := do
  match ← keywordOf? ["RESPECT", "IGNORE"] with
  | some word =>
    requireKeyword "NULLS"
    return " " ++ word ++ " NULLS"
  | none => return ""

/-! ## Whole calls -/

/-- A call of a named function. -/
def call (g : Nesting) (function : List Name) : Rule Expr := do
  let (args, quantifier, inside) ← arguments g
  let within ← optionalText " WITHIN GROUP " (keywords ["WITHIN", "GROUP"]) <| parenthesized do
    requireKeywords ["ORDER", "BY"]
    return "(ORDER BY " ++ (← orderText g) ++ ")"
  let nulls ← nullTreatment
  let over? ← after? (keyword "OVER") (window g)
  let after := within ++ nulls ++ (over?.map (" OVER " ++ ·)).getD ""
  return .call function (some args) ⟨quantifier, inside, after, over?.isSome⟩

/-- A function of the current time, whose parentheses may be left out. -/
def timeFunction (g : Nesting) (n : Name) : Rule Expr := do
  if (← peek?) == some (.symbol "(") then
    let (args, quantifier, inside) ← arguments g
    return .call [n] (some args) ⟨quantifier, inside, "", false⟩
  else return .call [n] none {}

end QueryShapes.Sql.Rule
