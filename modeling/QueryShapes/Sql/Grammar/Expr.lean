import QueryShapes.Sql.Grammar.Call
import QueryShapes.Sql.Grammar.Form

/-!
# The grammar of expressions

An expression is a leading form that operators extend as long as they bind tighter than what stands
to its left.

- `Rule.leading`: an expression without operators around it.
- `Rule.operand`: an expression whose outer operators bind tighter than a limit.
- `Rule.length`: the value of a length of time.
-/

namespace QueryShapes.Sql.Rule

open Reading

/-! ## Leading forms -/

/-- What an opening parenthesis starts: a query, a list or an expression. -/
def parenthesis (g : Nesting) : Rule Expr := do
  let inner ← if ← queryAhead then pure (.other ("(" ++ (← queryText g) ++ ")")) else
    match ← commas g.expr with
    | [e] => pure (.nested e)
    | es => pure (.other ("(" ++ commaSeparated (es.map Expr.render) ++ ")"))
  requireSymbol ")"
  if ← symbol "." then
    match ← next with
    | .word n => return .other (inner.render ++ "." ++ n.render)
    | _ => refuse
  else return inner

/-- What a name starts that has no form of its own: a path, a call, a text with a character set, or
the name itself. -/
def named (g : Nesting) (n : Name) : Rule Expr := do
  match ← peek? with
  | some (.symbol text) =>
    if text == "(" || text == "." then
      let function := n :: (← repeated (after? (symbol ".") pathName))
      if (← peek?) == some (.symbol "(") then call g function else return .path function
    else return .name n
  | some (.string _ _) | some (.tagged 'X' _) =>
    if n.text.startsWith "_" then return .other (n.text ++ " " ++ (← literal).render)
    else return .name n
  | _ => return .name n

/-- What a word starts, by its keyword. -/
def wordForm (g : Nesting) (n : Name) : Rule Expr := do
  let ahead ← peek?
  match n.keyword with
  | "TRUE" => return .literal (.boolean true)
  | "FALSE" => return .literal (.boolean false)
  | "NULL" => return .literal .null
  | "CURRENT_TIMESTAMP" | "CURRENT_TIME" | "CURRENT_DATE" | "LOCALTIME" | "LOCALTIMESTAMP" =>
    timeFunction g n
  | "CASE" => return .other (← caseForm g)
  | "CONVERT" => return .other (← convertForm g)
  | "CAST" | "TRY_CAST" | "SAFE_CAST" => return .other (← castForm g n.keyword)
  | "EXISTS" => return .other (← existsForm g)
  | "EXTRACT" => return .other (← extractForm g)
  | "CEIL" | "FLOOR" => return .other (← roundingForm g n.keyword)
  | "SUBSTRING" => return .other (← substringForm g)
  | "OVERLAY" => return .other (← overlayForm g)
  | "TRIM" => return .other (← trimForm g)
  | "MATCH" => return .other (← matchForm)
  | "NOT" =>
    if ← keyword "EXISTS" then return .other ("NOT " ++ (← existsForm g))
    else return .other ("NOT " ++ (← g.operand notStrength).render)
  | "POSITION" =>
    if ahead == some (.symbol "(") then
      match ← attempt (positionForm g) with
      | some text => return .other text
      | none => call g [n]
    else named g n
  | "ARRAY" =>
    if ← symbol "[" then return .other ("ARRAY" ++ (← arrayRest g))
    else if ahead == some (.symbol "(") then
      return .call [n] (some [.subquery (← parenthesized (queryText g))]) {}
    else named g n
  | _ => named g n

def leadingForm (g : Nesting) : Rule Expr := do
  match ← peek? with
  | some (.word n) =>
    let _ ← next
    wordForm g n
  | some (.symbol "(") =>
    let _ ← next
    parenthesis g
  | some (.symbol "[") =>
    let _ ← next
    return .other (← arrayRest g)
  | some (.symbol "-") =>
    let _ ← next
    return .negated (← g.operand productStrength)
  | some (.symbol "+") =>
    let _ ← next
    return .other ("+" ++ (← g.operand productStrength).render)
  | some (.tagged 'E' _) => refuse
  | _ => return .literal (← literal)

/-- A form that a collation may follow. -/
def collated (g : Nesting) : Rule Expr := do
  let e ← leadingForm g
  if ← keyword "COLLATE" then return .other (e.render ++ " COLLATE " ++ renderPath (← path))
  else return e

/-- A text after the type that it is read as. -/
def typedText : Rule String := do
  let typeName ← dataType
  return typeName ++ " " ++ quoted '\'' (← literalText)

/-- An expression without operators around it. The name of a type, unless it is a custom one, may
stand before a text. -/
def leading (g : Nesting) : Rule Expr := do
  match (← foresee anyType).map DataType.kind with
  | some .interval =>
    let _ ← next
    return .other (← interval g)
  | some .known =>
    match ← attempt typedText with
    | some text => return .other text
    | none => collated g
  | _ => collated g

/-! ## Operators after an expression -/

/-- What follows `IS`. -/
def isTest (g : Nesting) (left : Expr) : Rule Expr := do
  let negation := if ← keyword "NOT" then "NOT " else ""
  match ← keywordOf? ["NULL", "TRUE", "FALSE", "UNKNOWN"] with
  | some word => return .other (left.render ++ " IS " ++ negation ++ word)
  | none =>
    requireKeywords ["DISTINCT", "FROM"]
    return .other (left.render ++ " IS " ++ negation ++ "DISTINCT FROM " ++ (← exprText g))

/-- The part of a membership test in parentheses. -/
def members (g : Nesting) : Rule String := do
  if ← keyword "UNNEST" then return "UNNEST(" ++ (← parenthesized (exprText g)) ++ ")"
  let inner ← parenthesized do if ← queryAhead then queryText g else exprTexts g
  return "(" ++ inner ++ ")"

/-- A test for membership, range or pattern, which may be negated. -/
def test (g : Nesting) (left : Expr) : Rule Expr := do
  let negation := if ← keyword "NOT" then "NOT " else ""
  let subject := left.render ++ " " ++ negation
  match ← keywordOf? negatable with
  | some "IN" => return .other (subject ++ "IN " ++ (← members g))
  | some "BETWEEN" =>
    let low ← g.operand comparisonStrength
    requireKeyword "AND"
    let high ← g.operand comparisonStrength
    return .other (subject ++ "BETWEEN " ++ low.render ++ " AND " ++ high.render)
  | some word =>
    if word == "SIMILAR" then requireKeyword "TO"
    if word == "REGEXP" then let _ ← keyword "RLIKE"
    let pattern ← g.operand likeStrength
    if word == "REGEXP" || word == "RLIKE" then
      return .other (subject ++ word ++ " " ++ pattern.render)
    else
      let escape ← optionalText " ESCAPE " (keyword "ESCAPE")
        (return "'" ++ (← literalText) ++ "'")
      let words := if word == "SIMILAR" then "SIMILAR TO" else word
      return .other (subject ++ words ++ " " ++ pattern.render ++ escape)
  | none => refuse

/-- An operator with its right operand. A comparison may be with any or all of some values. -/
def binary (g : Nesting) (strength : Nat) (left : Expr) (op : Operator) : Rule Expr := do
  match ← keywordOf? ["ANY", "ALL"] with
  | some quantifier =>
    let right ← parenthesized (g.operand strength)
    match op with
    | .compare _ =>
      return .other (left.render ++ " " ++ op.symbol ++ " " ++ quantifier ++ "(" ++ right.render ++
        ")")
    | _ => refuse
  | none => return .binary left op (← g.operand strength)

/-- An index in brackets behind an expression. -/
def index (g : Nesting) : Rule String := do
  requireSymbol "["
  let key ← exprText g
  requireSymbol "]"
  return "[" ++ key ++ "]"

def indexText (g : Nesting) : Rule String := do
  let keys ← repeated do
    if (← peek?) == some (.symbol "[") then return some (← index g) else return none
  return String.join keys

/-- An expression extended by the operator that follows it. -/
def extended (g : Nesting) (strength : Nat) (left : Expr) : Rule Expr := do
  match (← peek?).bind binaryOperator? with
  | some op =>
    let _ ← next
    binary g strength left op
  | none =>
    if ← keyword "DIV" then return .binary left (.foreign "DIV") (← g.expr)
    else if ← keyword "IS" then isTest g left
    else if ← keyword "AT" then
      requireKeywords ["TIME", "ZONE"]
      return .other (left.render ++ " AT TIME ZONE " ++ (← g.operand strength).render)
    else if ← symbol "::" then return .other (left.render ++ "::" ++ (← dataType))
    else if ← symbol "!" then return .other (left.render ++ "!")
    else if (← peek?) == some (.symbol "[") then return .other (left.render ++ (← indexText g))
    else test g left

/-- Extends an expression at most `fuel` times, by what binds tighter than the limit. -/
def extendWithin (g : Nesting) (strength : Rule Nat) (limit : Nat) : Nat → Expr → Rule Expr
  | 0, left => return left
  | fuel + 1, left => do
    let strengthNow ← strength
    if strengthNow ≤ limit then return left
    else extendWithin g strength limit fuel (← extended g strengthNow left)

def extend (g : Nesting) (strength : Rule Nat) (limit : Nat) (first : Expr) : Rule Expr :=
  sized fun length => extendWithin g strength limit (length + 1) first

/-- An expression whose outer operators all bind tighter than the limit. -/
def operand (g : Nesting) (limit : Nat) : Rule Expr := do
  extend g strengthAhead limit (← leading g)

/-- The value of a length of time. -/
def length (g : Nesting) : Rule Expr := do
  extend g strengthInLength 0 (← leading g)

end QueryShapes.Sql.Rule
