import QueryShapes.Number.Reading
import QueryShapes.Sql.Feature
import QueryShapes.Sql.Grammar.Statement
import QueryShapes.Text.Date
import QueryShapes.Text.Lowercase

/-!
# The part of SQL that is evaluated

Query trees from statements. Bare names are case-insensitive and become lower case; the names of
tables and their aliases do so even in quotes. The first part without a tree is the one reported.

- `Query.ofText?`: the query tree of a text.
- `Expr.predicates?`: a condition as a list of comparisons, by taking conjunctions apart.
-/

namespace QueryShapes.Sql

/-- The name of a column. -/
def Name.column (n : Name) : String :=
  if n.quote.isSome then n.text else Text.lowercase n.text

/-- The name of a table, of an alias of one, or of a function. -/
def Name.binding (n : Name) : String := Text.lowercase n.text

/-- The name that a path ends in, which is the only one that counts. -/
def pathBinding (path : List Name) : String := ((path.getLast?).map Name.binding).getD ""

namespace Expr

/-! ## Operands -/

/-- A column, possibly in parentheses. -/
def column? : Expr → Except Feature Column
  | .name n => .ok ⟨none, n.column⟩
  | .path [qualifier, n] => .ok ⟨some qualifier.binding, n.column⟩
  | .nested inner => inner.column?
  | e => .error (.columnReference e.render)

/-- An integer where the text is one, a double otherwise. -/
def number? (text : String) : Except Feature Value :=
  match int64? text with
  | some n => .ok (.integer n)
  | none => match Double.ofText? text with
    | some x => .ok (.decimal x)
    | none => .error (.numberLiteral text)

/-- The value of a text literal; a text of the shape of a date is a date. -/
def textValue (text : String) : Value := if Text.isDateText text then .date text else .text text

/-- A literal, possibly negated or in parentheses. -/
def literal? : Expr → Except Feature Value
  | .literal (.number text _) => number? text
  | .literal (.string _ text) => .ok (textValue text)
  | .literal (.boolean b) => .ok (.boolean b)
  | .literal .null => .ok .null
  | .negated inner => do
    match ← inner.literal? with
    | .integer n => .ok (.integer (-n))
    | .decimal x => .ok (.decimal x.neg)
    | _ => .error (.negation (Expr.negated inner).render)
  | .nested inner => inner.literal?
  | e => .error (.expression e.render)

/-- A column plus an integer, where `sign` says how the integer counts. -/
def shifted? (left right : Expr) (sign : Int64 → Int64) (whole : Expr) : Except Feature Operand := do
  let column ← left.column?
  match ← right.literal? with
  | .integer n => .ok (.shifted column (sign n))
  | _ => .error (.offsetType whole.render)

def operand? : Expr → Except Feature Operand
  | .name n => return .column (← (Expr.name n).column?)
  | .path parts => return .column (← (Expr.path parts).column?)
  | .nested inner => inner.operand?
  | .binary left .plus right => shifted? left right id (.binary left .plus right)
  | .binary left .minus right => shifted? left right (-·) (.binary left .minus right)
  | e => return .literal (← e.literal?)

/-! ## Conditions -/

def comparison? : Operator → Except Feature Comparison
  | .compare op => .ok op
  | op => .error (.operator op.symbol)

/-- The comparisons that a condition is the conjunction of. -/
def predicates? : Expr → Except Feature (List Predicate)
  | .binary left .and right => return (← left.predicates?) ++ (← right.predicates?)
  | .nested inner => inner.predicates?
  | .binary left op right => do
    let l ← left.operand?
    let comparison ← comparison? op
    return [⟨l, comparison, ← right.operand?⟩]
  | e => .error (.condition e.render)

/-! ## Aggregates -/

/-- An argument that is passed by its place. -/
def Argument.isPlaced : Argument → Bool
  | .named _ => false
  | _ => true

/-- The arguments of a call, none of which may be named or a query. -/
def placedArguments? (function : List Name) (arguments : Option (List Argument))
    (extras : CallExtras) : Except Feature (List Argument) :=
  let text := (Expr.call function arguments extras).render
  match arguments with
  | none => .ok []
  | some [.subquery _] => .error (.subquery text)
  | some args =>
    if extras.quantifier.isSome then .error (.quantified text)
    else if args.all Argument.isPlaced then .ok args
    else .error (.namedArgument text)

/-- The aggregate that a call of a function other than `round` stands for. -/
def plainAggregate? (name : String) (args : List Argument) (text : String) :
    Except Feature Aggregate :=
  match AggregateFunction.ofName? name with
  | none => .error (.function name)
  | some function => match args with
    | [.wildcard] =>
      if function = .count then .ok ⟨function, none, false⟩ else .error (.arguments text)
    | [.expr e] => return ⟨function, some (← e.column?), false⟩
    | _ => .error (.arguments text)

/-- The aggregate that an expression stands for if it is a call. Rounding is to whole numbers. -/
def aggregate? : Expr → Except Feature Aggregate
  | .call function arguments extras => do
    let text := (Expr.call function arguments extras).render
    if extras.windowed then .error (.windowed text)
    let name := pathBinding function
    let args ← placedArguments? function arguments extras
    if name = "round" then
      match arguments with
      | some [.expr (.call f as e)] => return { ← (Expr.call f as e).aggregate? with rounded := true }
      | some [.expr (.call f as e), .expr precision] =>
        if (← precision.literal?) = .integer 0 then
          return { ← (Expr.call f as e).aggregate? with rounded := true }
        else .error (.precision text)
      | _ => .error (.rounding text)
    else plainAggregate? name args text
  | e => .error (.expression e.render)

end Expr

/-! ## Select lists -/

/-- The item that an expression with its alias gives. -/
def Expr.item? (e : Expr) (label : Option String) : Except Feature SelectItem :=
  match e with
  | .call .. => return .aggregate (← e.aggregate?) label
  | _ => return .column (← e.column?) label

def SelectTerm.item? : SelectTerm → Except Feature SelectItem
  | wildcard [] => .ok (.wildcard none)
  | wildcard path => .ok (.wildcard (some (pathBinding path)))
  | expr e label => e.item? (label.map Name.text)

/-! ## Sources -/

def TableTerm.source? (kind : JoinKind) (table : TableTerm) : Except Feature Source :=
  match table with
  | .table path _ label _ => .ok ⟨pathBinding path, label.map Name.binding, kind, []⟩
  | _ => .error .tableFactor

def JoinOperator.kind? : JoinOperator → Except Feature JoinKind
  | inner => .ok .inner
  | left => .ok .left
  | cross => .ok .cross
  | other _ => .error .joinOperator

def JoinConstraint.predicates? : JoinConstraint → Except Feature (List Predicate)
  | none => .ok []
  | condition e => e.predicates?
  | natural | shared _ => .error .joinConstraint

def JoinTerm.source? (join : JoinTerm) : Except Feature Source := do
  let source ← join.table.source? .cross
  let kind ← join.operator.kind?
  return { source with kind, conditions := ← join.constraint.predicates? }

/-- A table and what is joined to it. -/
def FromTerm.sources? (kind : JoinKind) (term : FromTerm) : Except Feature (List Source) := do
  return (← term.table.source? kind) :: (← term.joins.mapM JoinTerm.source?)

/-- The sources of a query. Tables after a comma are joined without a condition. -/
def sources? : List FromTerm → Except Feature (List Source)
  | [] => .error .noSource
  | first :: others => do
    let base ← first.sources? .base
    return base ++ (← others.mapM (FromTerm.sources? .cross)).flatten

/-! ## Queries -/

def Grouping.columns? : Grouping → Except Feature (List Column)
  | all => .error .groupByAll
  | columns es => es.mapM Expr.column?

def OrderTerm.sortKey? (term : OrderTerm) : Except Feature SortKey :=
  return ⟨← term.expr.column?, term.direction = some true⟩

/-- A limit is a whole number that is not negative. -/
def Expr.limit? (e : Expr) : Except Feature Nat := do
  match ← e.literal? with
  | .integer n => if 0 ≤ n then return n.toNatClampNeg else .error (.limit e.render)
  | _ => .error (.limit e.render)

def QueryText.query? (text : QueryText) : Except Feature Query := do
  if text.commonTables.isSome then .error .commonTables
  if text.offset.isSome then .error .offset
  match text.body with
  | .other _ => .error .queryBody
  | .select select =>
    if select.having.isSome then .error .having
    let items ← select.items.mapM SelectTerm.item?
    let sources ← sources? select.tables
    let filter ← (select.filter.map Expr.predicates?).getD (.ok [])
    let groupBy ← select.grouping.columns?
    let orderBy ← text.orderBy.mapM OrderTerm.sortKey?
    let limit ← text.limit.mapM Expr.limit?
    return ⟨select.distinct.isSome, items, sources, filter, groupBy, orderBy, limit⟩

/-- The query among the statements of a text, which has to be the only one. -/
def singleQuery? : List Statement → Except Feature Query
  | [.query text] => text.query?
  | [.other] => .error .statementKind
  | statements => .error (.statementCount statements.length)

end QueryShapes.Sql

namespace QueryShapes

/-- The query tree of a text. -/
def Query.ofText? (text : String) : Except Sql.Rejection Query :=
  match Sql.statements? text with
  | none => .error .malformed
  | some statements => (Sql.singleQuery? statements).mapError .unsupported

end QueryShapes
