import QueryShapes.Sql.Grammar.DataType

/-!
# Rules inside other rules

Expressions, queries and statements lie inside each other. A rule for one of them is given the rules
for its parts.

- `Nesting`: the rules for the parts inside a form.
- `Rule.orderTerm`: an expression to order by.
-/

namespace QueryShapes.Sql

/-- Rules for what stands inside other forms. An operand, a length of time and a list of joined
tables stay on the level of the form; an expression, a query and a statement lie one level deeper. -/
structure Nesting where
  operand : Nat → Rule Expr
  /-- The value of a length of time, which ends before `AND`, `OR` and `XOR`. -/
  length : Rule Expr
  expr : Rule Expr
  query : Rule QueryText
  joined : Rule FromTerm
  statement : Rule Statement

namespace Rule

open Reading

/-! ## Whole expressions and queries -/

/-- A whole expression in normal form. -/
def exprText (g : Nesting) : Rule String := return (← g.expr).render

def exprTexts (g : Nesting) : Rule String := return commaSeparated (← commas (exprText g))

def queryText (g : Nesting) : Rule String := return (← g.query).render

/-- A query or its beginning stands ahead. -/
def queryAhead : Rule Bool := do
  let word ← keywordAhead 0
  return word == "SELECT" || word == "WITH"

/-- A clause that is left out of the text where it does not stand. -/
def optionalText (introduction : String) (mark : Rule Bool) (rule : Rule String) : Rule String := do
  return ((← after? mark rule).map (introduction ++ ·)).getD ""

/-- A word that is left out of the text where it does not stand. -/
def optionalWord (word : String) : Rule String := do
  return if ← keyword word then " " ++ word else ""

/-! ## Paths with stars -/

/-- A name inside a path: a word or a text in single quotes. -/
def pathName : Rule Name := do
  match ← next with
  | .word n => return n
  | .string '\'' text => return ⟨text, some '\''⟩
  | _ => refuse

/-- A path that ends in a star. -/
def starredPath : Rule (List Name) := do
  let first ← pathName
  let others ← repeated (attempt do
    requireSymbol "."
    pathName)
  requireSymbol "."
  requireSymbol "*"
  return first :: others

/-- A star with the path in front of it. -/
def wildcard? : Rule (Option (List Name)) := do
  if ← symbol "*" then return some [] else attempt starredPath

/-! ## Dates and times -/

/-- The unit of a date or time. -/
def timeUnit : Rule String := do
  match ← keywordOf? ["YEAR", "MONTH", "WEEK", "DAY", "DAYOFWEEK", "DAYOFYEAR", "DATE", "DATETIME",
    "HOUR", "MINUTE", "SECOND", "CENTURY", "DECADE", "DOW", "DOY", "EPOCH", "ISODOW", "ISOYEAR",
    "ISOWEEK", "JULIAN", "MICROSECOND", "MICROSECONDS", "MILLENIUM", "MILLENNIUM", "MILLISECOND",
    "MILLISECONDS", "NANOSECOND", "NANOSECONDS", "QUARTER", "TIME", "TIMEZONE", "TIMEZONE_ABBR",
    "TIMEZONE_HOUR", "TIMEZONE_MINUTE", "TIMEZONE_REGION"] with
  | some unit => return unit
  | none => refuse

/-! ## Ordering -/

def orderTerm (g : Nesting) : Rule OrderTerm := do
  let expr ← g.expr
  let direction ← keywordOf? ["ASC", "DESC"]
  let nulls ← if ← keywords ["NULLS", "FIRST"] then pure " NULLS FIRST"
    else if ← keywords ["NULLS", "LAST"] then pure " NULLS LAST"
    else pure ""
  return ⟨expr, direction.map (· == "DESC"), nulls⟩

def orderTerms (g : Nesting) : Rule (List OrderTerm) := commas (orderTerm g)

def orderText (g : Nesting) : Rule String :=
  return commaSeparated ((← orderTerms g).map OrderTerm.render)

end Rule

end QueryShapes.Sql
