import QueryShapes.Value

/-!
# Query trees

The part of `SELECT` that can be evaluated: a select list, sources with their join conditions, a
conjunction of comparisons, grouping, ordering and a limit.

- `Comparison.holds_flipped`: a flipped comparison holds of swapped operands exactly when the
  comparison holds of the operands as they were.
-/

namespace QueryShapes

/-- A column, optionally qualified by the name that a source is bound to. -/
structure Column where
  qualifier : Option String
  name : String
deriving DecidableEq

/-- The column as it is written. -/
def Column.text (column : Column) : String :=
  match column.qualifier with
  | some qualifier => qualifier ++ "." ++ column.name
  | none => column.name

/-! ## Conditions -/

inductive Comparison
  | eq | ne | gt | ge | lt | le
deriving DecidableEq

namespace Comparison

/-- The comparison that says the same of swapped operands. -/
def flipped : Comparison → Comparison
  | eq => eq
  | ne => ne
  | gt => lt
  | ge => le
  | lt => gt
  | le => ge

def holds (op : Comparison) (o : Ordering) : Bool :=
  match op with
  | eq => o == .eq
  | ne => o != .eq
  | gt => o == .gt
  | ge => o != .lt
  | lt => o == .lt
  | le => o != .gt

def symbol : Comparison → String
  | eq => "="
  | ne => "<>"
  | gt => ">"
  | ge => ">="
  | lt => "<"
  | le => "<="

theorem holds_flipped (op : Comparison) (o : Ordering) : op.flipped.holds o.swap = op.holds o := by
  cases op <;> cases o <;> rfl

end Comparison

/-- One side of a comparison; `shifted` is a column plus a constant. -/
inductive Operand
  | column (c : Column)
  | literal (v : Value)
  | shifted (c : Column) (offset : Int64)
deriving DecidableEq

/-- A comparison of two operands. -/
structure Predicate where
  left : Operand
  op : Comparison
  right : Operand
deriving DecidableEq

namespace Predicate

/-- A plain column compared with a literal, written column first. -/
def columnVsLiteral? (p : Predicate) : Option (Column × Comparison × Value) :=
  match p.left, p.right with
  | .column c, .literal v => some (c, p.op, v)
  | .literal v, .column c => some (c, p.op.flipped, v)
  | _, _ => none

/-- The two sides of an equality of plain columns. -/
def columnEquality? (p : Predicate) : Option (Column × Column) :=
  match p.left, p.op, p.right with
  | .column a, .eq, .column b => some (a, b)
  | _, _, _ => none

/-- The same condition with its operands swapped. -/
def swapped (p : Predicate) : Predicate := ⟨p.right, p.op.flipped, p.left⟩

end Predicate

/-! ## Sources -/

/-- How a source is combined with those before it. -/
inductive JoinKind
  | base | cross | inner | left
deriving DecidableEq

structure Source where
  table : String
  label : Option String
  kind : JoinKind
  conditions : List Predicate
deriving DecidableEq

/-- The name that qualifies the source's columns. -/
def Source.binding (source : Source) : String := source.label.getD source.table

/-! ## Select items -/

inductive AggregateFunction
  | count | avg | sum | min | max
deriving DecidableEq

namespace AggregateFunction

def all : List AggregateFunction := [count, avg, sum, min, max]

def name : AggregateFunction → String
  | count => "count"
  | avg => "avg"
  | sum => "sum"
  | min => "min"
  | max => "max"

def ofName? (name : String) : Option AggregateFunction := all.find? (·.name = name)

theorem ofName?_name (f : AggregateFunction) : ofName? f.name = some f := by
  cases f <;> decide

end AggregateFunction

/-- A call of an aggregate; it has no argument exactly when all rows are counted. -/
structure Aggregate where
  function : AggregateFunction
  argument : Option Column
  rounded : Bool
deriving DecidableEq

inductive SelectItem
  | wildcard (qualifier : Option String)
  | column (c : Column) (label : Option String)
  | aggregate (call : Aggregate) (label : Option String)
deriving DecidableEq

namespace SelectItem

/-- The name of the field that the item gives, if it gives one field. -/
def outputName? : SelectItem → Option String
  | wildcard _ => none
  | column c label => some (label.getD c.name)
  | aggregate call label =>
    let argument := (call.argument.map Column.text).getD "*"
    some (label.getD (call.function.name ++ "(" ++ argument ++ ")"))

def aggregate? : SelectItem → Option Aggregate
  | aggregate call _ => some call
  | _ => none

def isWildcard : SelectItem → Bool
  | wildcard _ => true
  | _ => false

end SelectItem

/-- An ordering by a column or by the name of an output field. -/
structure SortKey where
  target : Column
  descending : Bool
deriving DecidableEq

/-! ## Queries -/

/-- A `SELECT` statement. The first source has kind `base`. `distinct` is only recorded. -/
structure Query where
  distinct : Bool
  items : List SelectItem
  sources : List Source
  filter : List Predicate
  groupBy : List Column
  orderBy : List SortKey
  limit : Option Nat
deriving DecidableEq

namespace Query

def aggregates (query : Query) : List Aggregate := query.items.filterMap SelectItem.aggregate?

def hasAggregates (query : Query) : Bool := query.items.any (·.aggregate?.isSome)

/-- Every source reads the same relation. -/
def isSelfJoin (query : Query) : Bool :=
  match query.sources with
  | [] => false
  | first :: rest => rest.all (·.table = first.table)

/-- The conditions of the filter, then those of the joins. -/
def predicates (query : Query) : List Predicate :=
  query.filter ++ query.sources.flatMap (·.conditions)

/-- The source that a column belongs to; a bare name belongs to the first source. -/
def sourceOf? (query : Query) (column : Column) : Option Source :=
  match column.qualifier with
  | some qualifier => query.sources.find? (·.binding = qualifier)
  | none => query.sources.head?

/-- Cuts a result to the limit. -/
def cut {α : Type} (query : Query) (results : List α) : List α :=
  match query.limit with
  | some limit => results.take limit
  | none => results

end Query

end QueryShapes
