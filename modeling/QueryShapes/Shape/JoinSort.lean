import QueryShapes.Shape.Basic

/-!
# Key joins in descending order

`SELECT e.name, d.name AS department FROM employees e JOIN departments d
ON e.department_id = d.id ORDER BY e.salary DESC`, where the sort keys have to be numbers.

- `JoinSort.answer?`: projects the joined tuples and sorts them by `JoinSort.key`.
-/

namespace QueryShapes.JoinSort

/-- The one ordering of a plain key join, if it descends. -/
def recognize? (query : Query) : Option SortKey :=
  if query.isPlain ∧ (KeyJoin.ofQuery? query).isSome then
    match query.orderBy with
    | [order] => if order.descending then some order else none
    | _ => none
  else none

/-- The ordering's column in the tuple, or else the output field of its name. -/
def key (order : SortKey) (tuple : Tuple) (row : Row) : Value :=
  ((tuple.resolve? order.target).or (row.get? order.target.name)).getD .null

def answer? (query : Query) (store : Store) : Except Fault (Option (List Row)) :=
  match recognize? query, query.tuples? store with
  | some order, some tuples => do
    let keyed ← query.projectKeyed (key order) tuples
    if keyed.any (!·.1.isNumeric) then return none
    return some (query.cut (sortDescending keyed))
  | _, _ => .ok none

def shape : Shape := ⟨"join_sort", answer?⟩

end QueryShapes.JoinSort
