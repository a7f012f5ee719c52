import QueryShapes.Query.Basic
import QueryShapes.Sql.Escape
import QueryShapes.Sql.Token

/-!
# SQL expressions

Expressions as far as a query tree can be made of them. All others are kept as the text they are
reported by, which is a normal form: keywords in capitals, single blanks around operators.

- `Expr.render`: the normal form of any expression.
-/

namespace QueryShapes.Sql

inductive Operator
  | and
  | plus
  | minus
  | compare (op : Comparison)
  /-- An operator that query trees do not have. -/
  | foreign (symbol : String)
deriving DecidableEq

def Operator.symbol : Operator → String
  | and => "AND"
  | plus => "+"
  | minus => "-"
  | compare op => op.symbol
  | foreign symbol => symbol

inductive Literal
  | number (text : String) (long : Bool)
  | string (quote : Char) (text : String)
  /-- A text that a letter introduces. -/
  | tagged (tag : Char) (text : String)
  | placeholder (text : String)
  | boolean (b : Bool)
  | null
deriving DecidableEq

def Literal.render : Literal → String
  | number text long => if long then text ++ "L" else text
  | string quote text => quoted quote text
  | tagged tag text =>
    let content := if tag = 'E' then text.toList.flatMap writeEscape else text.toList
    String.ofList (tag :: '\'' :: (content ++ ['\'']))
  | placeholder text => text
  | boolean b => if b then "true" else "false"
  | null => "NULL"

/-- Parts of a function call that say nothing about its value here: what follows the arguments
inside the parentheses, and what follows the call. -/
structure CallExtras where
  quantifier : Option String := none
  inside : String := ""
  after : String := ""
  windowed : Bool := false
deriving DecidableEq

mutual

inductive Expr
  | name (n : Name)
  | path (parts : List Name)
  | literal (l : Literal)
  | nested (inner : Expr)
  | negated (inner : Expr)
  | binary (left : Expr) (op : Operator) (right : Expr)
  /-- A function call; a function named without parentheses has no arguments at all. -/
  | call (function : List Name) (arguments : Option (List Argument)) (extras : CallExtras)
  | other (text : String)

inductive Argument
  | expr (e : Expr)
  | wildcard
  | qualified (parts : List Name)
  | named (text : String)
  /-- A query that is the only argument and stands without parentheses of its own. -/
  | subquery (text : String)

end

mutual

/-- The normal form of an expression. -/
def Expr.render : Expr → String
  | .name n => n.render
  | .path parts => renderPath parts
  | .literal l => l.render
  | .nested inner => "(" ++ inner.render ++ ")"
  | .negated inner => "-" ++ inner.render
  | .binary left op right => left.render ++ " " ++ op.symbol ++ " " ++ right.render
  | .call function none extras => renderPath function ++ extras.after
  | .call function (some arguments) extras =>
    let quantifier := (extras.quantifier.map (· ++ " ")).getD ""
    renderPath function ++ "(" ++ quantifier ++ ", ".intercalate (renderArguments arguments) ++
      extras.inside ++ ")" ++ extras.after
  | .other text => text

def Argument.render : Argument → String
  | .expr e => e.render
  | .wildcard => "*"
  | .qualified parts => renderPath parts ++ ".*"
  | .named text | .subquery text => text

def renderArguments : List Argument → List String
  | [] => []
  | first :: rest => first.render :: renderArguments rest

end

/-- A list as it is written in SQL. -/
def commaSeparated (texts : List String) : String := ", ".intercalate texts

end QueryShapes.Sql
