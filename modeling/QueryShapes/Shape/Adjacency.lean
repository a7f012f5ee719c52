import QueryShapes.Shape.Basic

/-!
# Values of three consecutive rows

`SELECT DISTINCT l1.num FROM logs l1, logs l2, logs l3 WHERE l1.id = l2.id - 1
AND l2.id = l3.id - 1 AND l1.num = l2.num AND l2.num = l3.num`. Rows are consecutive in storage
order, and the answer holds each value once.

- `Adjacency.windows`: every three neighbouring rows, in order.
- `Adjacency.runs`: the first values of the windows that hold one value throughout, without those
  loosely equal to an earlier one.
-/

namespace QueryShapes.Adjacency

/-- Some equality links the projected field under two different qualifiers. -/
def links (field : String) (p : Predicate) : Bool :=
  match p.columnEquality? with
  | some (a, b) => a.name = field && b.name = field && a.qualifier != b.qualifier
  | none => false

/-- The relation, the field and the output name of a self-join of three sources. -/
def recognize? (query : Query) : Option (String × String × String) :=
  match query.sources, query.items with
  | [first, _, _], [.column column label] =>
    if query.isSelfJoin ∧ query.isPlain ∧ query.predicates.any (links column.name) then
      some (first.table, column.name, label.getD column.name)
    else none
  | _, _ => none

/-- Every three neighbours. -/
def windows {α : Type} : List α → List (α × α × α)
  | a :: b :: c :: rest => (a, b, c) :: windows (b :: c :: rest)
  | _ => []

/-- The value that a window's rows share, if they do. -/
def shared? (field : String) (window : Row × Row × Row) : Option Value := do
  let a ← window.1.get? field
  let b ← window.2.1.get? field
  let c ← window.2.2.get? field
  if a.looselyEquals b && b.looselyEquals c then some a else none

/-- Adds a value that is not loosely equal to one found before. -/
def addNew (found : List Value) (value : Value) : List Value :=
  if found.any (·.looselyEquals value) then found else found ++ [value]

def runs (field : String) (rows : List Row) : List Value :=
  ((windows rows).filterMap (shared? field)).foldl addNew []

def answer? (query : Query) (store : Store) : Except Fault (Option (List Row)) :=
  match recognize? query with
  | some (table, field, output) =>
    .ok ((store.relation? table).map fun relation =>
      query.cut ((runs field relation.rows).map fun value => .ofList [(output, value)]))
  | none => .ok none

def shape : Shape := ⟨"adjacency", answer?⟩

end QueryShapes.Adjacency
