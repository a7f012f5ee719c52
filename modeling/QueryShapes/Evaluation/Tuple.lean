import QueryShapes.Number.Int64
import QueryShapes.Store.Basic

/-!
# Tuples

A tuple is what a join combines: a row under the binding of each source, in the order of the
sources. Columns resolve against a tuple, conditions are tested on it, and select lists are
projected from it.

- `satisfies_swapped`: a condition holds of the same tuples when its operands are swapped.
- `project_eq_ofList`: the projected row is made by inserting, in order, what the items contribute.
-/

namespace QueryShapes

structure Tuple where
  entries : List (String × Row)

/-- A sum that fits 64 bits. -/
def checkedAdd? (a b : Int64) : Option Int64 := int64OfInt? (a.toInt + b.toInt)

/-- A number plus a constant; an integer that would leave its range has no sum. -/
def Value.shift? (offset : Int64) : Value → Option Value
  | .integer n => (checkedAdd? n offset).map .integer
  | .decimal x => some (.decimal (x.add (.ofInt offset.toInt)))
  | _ => none

namespace Tuple

def single (binding : String) (row : Row) : Tuple := ⟨[(binding, row)]⟩

/-- The tuple with one more row. -/
def extend (tuple : Tuple) (binding : String) (row : Row) : Tuple :=
  ⟨tuple.entries ++ [(binding, row)]⟩

/-- The first row bound under a name. -/
def row? (tuple : Tuple) (binding : String) : Option Row :=
  (tuple.entries.find? (·.1 = binding)).map (·.2)

/-- The value of a column; a bare name is looked for in one row after another. -/
def resolve? (tuple : Tuple) (column : Column) : Option Value :=
  match column.qualifier with
  | some qualifier => (tuple.row? qualifier).bind (·.get? column.name)
  | none => tuple.entries.findSome? (·.2.get? column.name)

def evaluate? (tuple : Tuple) : Operand → Option Value
  | .column c => tuple.resolve? c
  | .literal v => some v
  | .shifted c offset => (tuple.resolve? c).bind (Value.shift? offset)

/-- A condition fails where an operand has no value or the operands do not compare. -/
def satisfies (tuple : Tuple) (p : Predicate) : Bool :=
  match tuple.evaluate? p.left, tuple.evaluate? p.right with
  | some l, some r => (l.compare? r).any p.op.holds
  | _, _ => false

def satisfiesAll (ps : List Predicate) (tuple : Tuple) : Bool := ps.all tuple.satisfies

theorem satisfies_swapped (tuple : Tuple) (p : Predicate) :
    tuple.satisfies p.swapped = tuple.satisfies p := by
  simp only [satisfies, Predicate.swapped]
  cases tuple.evaluate? p.left <;> cases tuple.evaluate? p.right <;> try rfl
  rename_i l r
  show (r.compare? l).any p.op.flipped.holds = (l.compare? r).any p.op.holds
  rw [Value.compare?_flip l r]
  cases l.compare? r <;> simp [Comparison.holds_flipped]

/-! ## Projection -/

/-- The named values that a select item takes from a tuple. -/
def contribution (tuple : Tuple) : SelectItem → Except Fault (List (String × Value))
  | .wildcard qualifier =>
    .ok ((tuple.entries.filter fun entry => qualifier.all (· = entry.1)).flatMap (·.2.fields))
  | .column c label => .ok [(label.getD c.name, (tuple.resolve? c).getD .null)]
  | .aggregate call _ => .error (.ungroupedAggregate call.function)

/-- The output row of a select list without aggregates. -/
def project (items : List SelectItem) (tuple : Tuple) : Except Fault Row := do
  let contributions ← items.mapM tuple.contribution
  return .ofList contributions.flatten

theorem project_eq_ofList (items : List SelectItem) (tuple : Tuple)
    (contributions : List (List (String × Value)))
    (h : items.mapM tuple.contribution = .ok contributions) :
    tuple.project items = .ok (.ofList contributions.flatten) := by
  simp [project, h, bind, Except.bind, pure, Except.pure]

end Tuple

/-! ## Binding sources -/

namespace Query

/-- A tuple for every row, in storage order. -/
def scan (relation : Relation) (binding : String) : List Tuple :=
  relation.rows.map (Tuple.single binding)

/-- Every tuple with every row that meets the conditions, tuples first. -/
def join (tuples : List Tuple) (relation : Relation) (binding : String) (conditions : List Predicate) :
    List Tuple :=
  (tuples.flatMap fun tuple => relation.rows.map (tuple.extend binding)).filter
    (Tuple.satisfiesAll conditions)

/-- Joins one more source; outer joins are not evaluated. -/
def joinSource? (store : Store) (tuples : List Tuple) (source : Source) : Option (List Tuple) :=
  if source.kind = .left then none
  else (store.relation? source.table).map fun relation =>
    join tuples relation source.binding source.conditions

/-- The joined tuples that meet the filter, if every source can be bound. -/
def tuples? (query : Query) (store : Store) : Option (List Tuple) :=
  match query.sources with
  | [] => none
  | first :: rest => do
    let relation ← store.relation? first.table
    let tuples ← rest.foldlM (joinSource? store) (scan relation first.binding)
    return tuples.filter (Tuple.satisfiesAll query.filter)

end Query

end QueryShapes
