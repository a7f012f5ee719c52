import QueryShapes.Query.Basic

/-!
# What is not evaluated

The parts of SQL that have no query tree, each with the text that it is reported by.

- `Rejection.message`: what a rejected text is answered with.
-/

namespace QueryShapes.Sql

/-- A part of SQL that is not evaluated. Texts are normal forms of what was met. -/
inductive Feature
  | statementCount (count : Nat)
  | statementKind
  | commonTables
  | offset
  | queryBody
  | having
  | noSource
  | tableFactor
  | joinOperator
  | joinConstraint
  | groupByAll
  | condition (text : String)
  | operator (symbol : String)
  | offsetType (text : String)
  | expression (text : String)
  | negation (text : String)
  | numberLiteral (text : String)
  | columnReference (text : String)
  | windowed (call : String)
  | quantified (call : String)
  | subquery (call : String)
  | namedArgument (call : String)
  | rounding (call : String)
  | precision (call : String)
  | function (name : String)
  | arguments (call : String)
  | limit (text : String)
deriving DecidableEq

def Feature.text : Feature → String
  | statementCount count => "expected 1 statement, got " ++ toString count
  | statementKind => "only SELECT statements are evaluated"
  | commonTables => "WITH"
  | offset => "OFFSET"
  | queryBody => "query body"
  | having => "HAVING"
  | noSource => "SELECT without FROM"
  | tableFactor => "table factor"
  | joinOperator => "join operator"
  | joinConstraint => "join constraint"
  | groupByAll => "GROUP BY ALL"
  | condition text => "condition: " ++ text
  | operator symbol => "operator: " ++ symbol
  | offsetType text => "non-integer offset in " ++ text
  | expression text => "expression: " ++ text
  | negation text => "negated literal: " ++ text
  | numberLiteral text => "number literal: " ++ text
  | columnReference text => "column reference: " ++ text
  | windowed call => "window or filter on " ++ call
  | quantified call => "DISTINCT/ALL in " ++ call
  | subquery call => "subquery in " ++ call
  | namedArgument call => "named argument in " ++ call
  | rounding call => call
  | precision call => "rounding precision in " ++ call
  | function name => "function: " ++ name
  | arguments call => "arguments of " ++ call
  | limit text => "LIMIT " ++ text

/-- Why a text has no query tree. -/
inductive Rejection
  | malformed
  | unsupported (feature : Feature)
deriving DecidableEq

def Rejection.message : Rejection → String
  | malformed => "SQL syntax error"
  | unsupported feature => "Unsupported SQL feature: " ++ feature.text

end QueryShapes.Sql
