import QueryShapes.Shape.Basic

/-!
# Groups of children by parent

`SELECT d.name, COUNT(e.id), AVG(e.salary) FROM departments d JOIN employees e
ON d.id = e.department_id GROUP BY d.id, d.name`: one row for each parent that has joined tuples,
highest average first.

- `GroupAverage.recognize?`: a key join that counts and averages, grouped by its parent.
- `GroupAverage.members`: the tuples whose parent row carries a given id.
-/

namespace QueryShapes.GroupAverage

/-- The column is one of the parent's, or the child's reference to it. -/
def groupsByParent (query : Query) (join : KeyJoin) (column : Column) : Bool :=
  match query.sourceOf? column with
  | some source =>
    source.binding = join.parent.binding ||
      (source.binding = join.child.binding && column.name = join.childField)
  | none => false

/-- The key join, and the first average, which orders the groups. -/
def recognize? (query : Query) : Option (KeyJoin × Aggregate) := do
  if query.groupBy.isEmpty then none
  else
    let join ← KeyJoin.ofQuery? query
    let mean ← query.aggregates.find? (·.function = .avg)
    if query.aggregates.any (·.function = .count)
        ∧ query.groupBy.all (groupsByParent query join)
        ∧ !query.items.any SelectItem.isWildcard then
      some (join, mean)
    else none

/-- The tuples that hold a parent row of the given id. -/
def members (binding : String) (id : Value) (tuples : List Tuple) : List Tuple :=
  tuples.filter fun tuple =>
    (((tuple.row? binding).bind (·.get? "id")).map (·.looselyEquals id)).getD false

/-- The named value of a select item for a group that starts with `first`. -/
def groupItem (first : Tuple) (group : List Tuple) (item : SelectItem) :
    Except Fault (List (String × Value)) :=
  let name := item.outputName?.getD ""
  match item with
  | .column c _ => .ok [(name, (first.resolve? c).getD .null)]
  | .aggregate call _ => do return [(name, ← call.evaluate group)]
  | .wildcard _ => .ok []

/-- The output row of a group with its sort key; a parent without tuples has none. -/
def groupRow (query : Query) (mean : Aggregate) :
    List Tuple → Except Fault (Option (Value × Row))
  | [] => .ok none
  | first :: rest => do
    let pairs ← query.items.mapM (groupItem first (first :: rest))
    let key ← mean.evaluate (first :: rest)
    return some (key, .ofList pairs.flatten)

/-- The tuples of a parent row; a row without an id has none. -/
def groupOf (binding : String) (tuples : List Tuple) (parent : Row) : List Tuple :=
  match parent.get? "id" with
  | some id => members binding id tuples
  | none => []

def answer? (query : Query) (store : Store) : Except Fault (Option (List Row)) :=
  match recognize? query with
  | none => .ok none
  | some (join, mean) =>
    match store.relation? join.parent.table, query.tuples? store with
    | some parents, some tuples => do
      let groups := parents.rows.map (groupOf join.parent.binding tuples)
      let keyed ← groups.mapM (groupRow query mean)
      return some (query.cut (sortDescending (keyed.filterMap id)))
    | _, _ => .ok none

def shape : Shape := ⟨"group_average", answer?⟩

end QueryShapes.GroupAverage
