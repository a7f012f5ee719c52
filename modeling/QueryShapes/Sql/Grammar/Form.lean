import QueryShapes.Sql.Grammar.Nesting
import QueryShapes.Sql.Grammar.Operator

/-!
# Forms with words of their own

Forms of expressions that a keyword introduces. No query tree has them, so they are read as their
normal form.
-/

namespace QueryShapes.Sql.Rule

open Reading

def caseForm (g : Nesting) : Rule String := do
  let subject ← if (← keywordAhead 0) == "WHEN" then pure ""
    else pure (" " ++ (← exprText g))
  let branch : Rule String := do
    let condition ← exprText g
    requireKeyword "THEN"
    return " WHEN " ++ condition ++ " THEN " ++ (← exprText g)
  requireKeyword "WHEN"
  let branches ← separated (keyword "WHEN") branch
  let otherwise ← optionalText " ELSE " (keyword "ELSE") (exprText g)
  requireKeyword "END"
  return "CASE" ++ subject ++ String.join branches ++ otherwise ++ " END"

/-- The format that a text of the type is written in. -/
def castFormat : Rule String := do
  let format := (← literal).render
  let zone ← optionalText " AT TIME ZONE " (keywords ["AT", "TIME", "ZONE"])
    (return (← literal).render)
  return format ++ zone

def castForm (g : Nesting) (word : String) : Rule String := parenthesized do
  let value ← exprText g
  requireKeyword "AS"
  let typeName ← dataType
  let format ← optionalText " FORMAT " (keyword "FORMAT") castFormat
  return word ++ "(" ++ value ++ " AS " ++ typeName ++ format ++ ")"

def convertForm (g : Nesting) : Rule String := parenthesized do
  let value ← exprText g
  if ← keyword "USING" then
    return "CONVERT(" ++ value ++ " USING " ++ renderPath (← path) ++ ")"
  requireSymbol ","
  let typeName ← dataType
  let charset ← optionalText " CHARACTER SET " (keywords ["CHARACTER", "SET"])
    (return renderPath (← path))
  return "CONVERT(" ++ value ++ ", " ++ typeName ++ charset ++ ")"

def existsForm (g : Nesting) : Rule String :=
  return "EXISTS (" ++ (← parenthesized (queryText g)) ++ ")"

def extractForm (g : Nesting) : Rule String := parenthesized do
  let unit ← timeUnit
  requireKeyword "FROM"
  return "EXTRACT(" ++ unit ++ " FROM " ++ (← exprText g) ++ ")"

def roundingForm (g : Nesting) (word : String) : Rule String := parenthesized do
  let value ← exprText g
  if ← keyword "TO" then return word ++ "(" ++ value ++ " TO " ++ (← timeUnit) ++ ")"
  if ← symbol "," then
    match ← literal with
    | .number text long =>
      return word ++ "(" ++ value ++ ", " ++ (Literal.number text long).render ++ ")"
    | _ => refuse
  return word ++ "(" ++ value ++ ")"

def positionForm (g : Nesting) : Rule String := parenthesized do
  let part ← g.operand comparisonStrength
  requireKeyword "IN"
  return "POSITION(" ++ part.render ++ " IN " ++ (← exprText g) ++ ")"

def substringForm (g : Nesting) : Rule String := parenthesized do
  let value ← exprText g
  let commas ← symbol ","
  let spaced ← if commas then pure false else keyword "FROM"
  let start ← if commas || spaced then pure [← exprText g] else pure []
  let bounded ← if ← keyword "FOR" then pure true else symbol ","
  let length ← if bounded then pure [← exprText g] else pure []
  let mark := fun word => if commas then ", " else " " ++ word ++ " "
  return "SUBSTRING(" ++ value ++ String.join (start.map (mark "FROM" ++ ·)) ++
    String.join (length.map (mark "FOR" ++ ·)) ++ ")"

def overlayForm (g : Nesting) : Rule String := parenthesized do
  let value ← exprText g
  requireKeyword "PLACING"
  let replacement ← exprText g
  requireKeyword "FROM"
  let start ← exprText g
  let length ← optionalText " FOR " (keyword "FOR") (exprText g)
  return "OVERLAY(" ++ value ++ " PLACING " ++ replacement ++ " FROM " ++ start ++ length ++ ")"

def trimForm (g : Nesting) : Rule String := parenthesized do
  let side := ((← keywordOf? ["BOTH", "LEADING", "TRAILING"]).map (· ++ " ")).getD ""
  let value ← exprText g
  if ← keyword "FROM" then return "TRIM(" ++ side ++ value ++ " FROM " ++ (← exprText g) ++ ")"
  let _ ← symbol ","
  return "TRIM(" ++ side ++ value ++ ")"

def matchForm : Rule String := do
  let columns ← columnList
  requireKeyword "AGAINST"
  parenthesized do
    let value := (← literal).render
    let expansion ← optionalText "" (keywords ["WITH", "QUERY", "EXPANSION"])
      (pure " WITH QUERY EXPANSION")
    let mode ← if !expansion.isEmpty then pure expansion
      else if ← keywords ["IN", "NATURAL", "LANGUAGE", "MODE"] then
        optionalText " IN NATURAL LANGUAGE MODE" (keywords ["WITH", "QUERY", "EXPANSION"])
          (pure " WITH QUERY EXPANSION")
      else if ← keywords ["IN", "BOOLEAN", "MODE"] then pure " IN BOOLEAN MODE"
      else pure ""
    return "MATCH (" ++ columns ++ ") AGAINST (" ++ value ++ mode ++ ")"

/-- The elements of an array up to its closing bracket. -/
def arrayRest (g : Nesting) : Rule String := do
  if ← symbol "]" then return "[]"
  let elements ← exprTexts g
  requireSymbol "]"
  return "[" ++ elements ++ "]"

end QueryShapes.Sql.Rule
