import QueryShapes.Sql.Grammar.Rule

/-!
# Operators

How tightly the operators bind that may follow an expression.

- `Rule.strengthAhead`: how tightly the next operator binds.
- `Rule.binaryOperator?`: the operator that a token stands for between two operands.
-/

namespace QueryShapes.Sql.Rule

open Reading

/-- How tightly the binary symbols bind. -/
def symbolStrengths : List (Nat × List String) :=
  [(16, ["->", "->>", "#>", "#>>", "@>", "<@", "#-", "@?", "@@"]),
    (20, ["=", "==", "<>", "<", "<=", ">", ">=", "<=>", "~", "~*", "!~", "!~*", "~~", "~~*", "!~~",
      "!~~*"]),
    (21, ["|"]), (22, ["^"]), (23, ["&"]), (30, ["+", "-"]), (40, ["*", "/", "%", "||"])]

/-- Symbols that bind after an expression without being binary operators. Some of them stand for
nothing at all. -/
def otherStrengths : List (Nat × List String) :=
  [(22, ["#", "<<", ">>"]), (50, ["::", "!", "[", "&&", "^@"])]

def strengthIn (entries : List (Nat × List String)) (symbol : String) : Option Nat :=
  (entries.find? fun entry => entry.2.contains symbol).map Prod.fst

def notStrength : Nat := 15

def likeStrength : Nat := 19

def comparisonStrength : Nat := 20

def productStrength : Nat := 40

/-- How tightly a keyword binds after an expression; zero where it does not. -/
def wordStrength : String → Nat
  | "OR" => 5
  | "AND" => 10
  | "IS" => 17
  | "LIKE" | "ILIKE" | "RLIKE" | "REGEXP" | "SIMILAR" => likeStrength
  | "IN" | "BETWEEN" | "OPERATOR" => comparisonStrength
  | "XOR" => 24
  | "DIV" => productStrength
  | _ => 0

/-- The words that `NOT` may stand before after an expression. -/
def negatable : List String := ["IN", "BETWEEN", "LIKE", "ILIKE", "RLIKE", "REGEXP", "SIMILAR"]

/-- How tightly what follows binds to an expression before it; zero where the expression ends. -/
def strengthAhead : Rule Nat := do
  match ← peek? with
  | some (.symbol text) => return (strengthIn (symbolStrengths ++ otherStrengths) text).getD 0
  | _ =>
    let word ← keywordAhead 0
    let second ← keywordAhead 1
    let third ← keywordAhead 2
    if word == "NOT" then return if negatable.contains second then wordStrength second else 0
    else if word == "AT" then return if second == "TIME" && third == "ZONE" then 41 else 0
    else return wordStrength word

/-- As `strengthAhead`, for an expression that conjunctions and disjunctions do not extend. -/
def strengthInLength : Rule Nat := do
  if ["AND", "OR", "XOR"].contains (← keywordAhead 0) then return 0 else strengthAhead

def comparisons : List Comparison := [.eq, .ne, .gt, .ge, .lt, .le]

def binaryOperator? : Token → Option Operator
  | .symbol "+" => some .plus
  | .symbol "-" => some .minus
  | .symbol "==" => some (.compare .eq)
  | .symbol text =>
    match comparisons.find? (·.symbol = text) with
    | some op => some (.compare op)
    | none => (strengthIn symbolStrengths text).map fun _ => .foreign text
  | token => match token.keyword with
    | "AND" => some .and
    | "OR" => some (.foreign "OR")
    | "XOR" => some (.foreign "XOR")
    | _ => none

end QueryShapes.Sql.Rule
