import QueryShapes.Sql.Expr

/-!
# SQL queries

Statements as they are written, before anything is asked about what can be evaluated. Clauses that
a query tree has no room for are kept as text, so that a query can be shown inside an expression.

- `Statement`: a query, or something else.
- `QueryText.render`: the normal form of a query.
-/

namespace QueryShapes.Sql

inductive SelectTerm
  /-- `*`, or `path.*`. -/
  | wildcard (path : List Name)
  | expr (e : Expr) (label : Option Name)

inductive TableTerm
  | table (path : List Name) (arguments : String) (label : Option Name) (hints : String)
  /-- Joined tables in parentheses. -/
  | nested (text : String)
  /-- A subquery, a table function or a table that is turned around. -/
  | other (text : String)

inductive JoinOperator
  | inner | left | cross
  /-- A join that is not evaluated, by its keywords. -/
  | other (keywords : String)
deriving DecidableEq

inductive JoinConstraint
  | none
  | condition (e : Expr)
  | natural
  | shared (columns : String)

structure JoinTerm where
  operator : JoinOperator
  table : TableTerm
  constraint : JoinConstraint
  isGlobal : Bool := false
  /-- What two rows have to fulfil to match, for the joins that say so apart from the constraint. -/
  matching : String := ""

structure FromTerm where
  table : TableTerm
  joins : List JoinTerm

inductive Grouping
  | all
  | columns (es : List Expr)

/-- Clauses of a `SELECT` that are read over, each as the text it is written by. -/
structure SelectExtras where
  beforeItems : String := ""
  afterItems : String := ""
  afterTables : String := ""
  afterGrouping : String := ""
  afterHaving : String := ""

structure SelectText where
  distinct : Option String
  items : List SelectTerm
  tables : List FromTerm
  filter : Option Expr
  grouping : Grouping
  having : Option Expr
  extras : SelectExtras

inductive QueryBody
  | select (s : SelectText)
  /-- A set operation, a list of values, a query in parentheses or a change. -/
  | other (text : String)

structure OrderTerm where
  expr : Expr
  direction : Option Bool
  nulls : String

structure QueryText where
  commonTables : Option String
  body : QueryBody
  orderBy : List OrderTerm
  limit : Option Expr
  offset : Option String
  after : String

inductive Statement
  | query (q : QueryText)
  | other

/-! ## Normal forms -/

def renderLabel : Option Name → String
  | some name => " AS " ++ name.render
  | none => ""

def SelectTerm.render : SelectTerm → String
  | wildcard [] => "*"
  | wildcard path => renderPath path ++ ".*"
  | expr e label => e.render ++ renderLabel label

def TableTerm.render : TableTerm → String
  | table path arguments label hints => renderPath path ++ arguments ++ renderLabel label ++ hints
  | nested text | other text => text

def JoinOperator.keywords : JoinOperator → String
  | inner => "JOIN"
  | left => "LEFT JOIN"
  | cross => "CROSS JOIN"
  | other keywords => keywords

def JoinConstraint.render : JoinConstraint → String
  | none | natural => ""
  | condition e => " ON " ++ e.render
  | shared columns => " USING(" ++ columns ++ ")"

def JoinTerm.render (join : JoinTerm) : String :=
  let natural := match join.constraint with
    | .natural => " NATURAL"
    | _ => ""
  (if join.isGlobal then " GLOBAL" else "") ++ natural ++ " " ++ join.operator.keywords ++ " " ++
    join.table.render ++ join.matching ++ join.constraint.render

def FromTerm.render (term : FromTerm) : String :=
  term.table.render ++ String.join (term.joins.map JoinTerm.render)

/-- A clause that is left out where it has nothing to say. -/
def clause (keywords : String) : List String → String
  | [] => ""
  | texts => " " ++ keywords ++ " " ++ commaSeparated texts

def SelectText.render (s : SelectText) : String :=
  let grouping := match s.grouping with
    | .all => " GROUP BY ALL"
    | .columns es => clause "GROUP BY" (es.map Expr.render)
  "SELECT" ++ (s.distinct.map (" " ++ ·)).getD "" ++ s.extras.beforeItems ++ " " ++
    commaSeparated (s.items.map SelectTerm.render) ++ s.extras.afterItems ++
    clause "FROM" (s.tables.map FromTerm.render) ++ s.extras.afterTables ++
    clause "WHERE" (s.filter.toList.map Expr.render) ++ grouping ++ s.extras.afterGrouping ++
    clause "HAVING" (s.having.toList.map Expr.render) ++ s.extras.afterHaving

def QueryBody.render : QueryBody → String
  | select s => s.render
  | other text => text

def OrderTerm.render (term : OrderTerm) : String :=
  let direction := match term.direction with
    | some true => " DESC"
    | some false => " ASC"
    | none => ""
  term.expr.render ++ direction ++ term.nulls

def QueryText.render (q : QueryText) : String :=
  (q.commonTables.map (· ++ " ")).getD "" ++ q.body.render ++
    clause "ORDER BY" (q.orderBy.map OrderTerm.render) ++
    clause "LIMIT" (q.limit.toList.map Expr.render) ++
    (q.offset.map (" " ++ ·)).getD "" ++ q.after

end QueryShapes.Sql
