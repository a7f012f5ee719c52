import QueryShapes.Evaluation.Aggregate

/-!
# Shapes of queries

A shape recognizes some queries and answers those in full. A query that no shape recognizes is
left to others. Answers are cut to the query's limit last of all.

- `KeyJoin`: a child relation joined to its parent by `child.<entity>_id = parent.id`, which
  several shapes are about.
-/

namespace QueryShapes

/-- A recognizer with its evaluation; `none` stands for a query of another shape. -/
structure Shape where
  name : String
  answer? : Query → Store → Except Fault (Option (List Row))

/-- A parent and a child source, and the child's field that holds the parent's id. -/
structure KeyJoin where
  parent : Source
  child : Source
  childField : String

namespace KeyJoin

/-- The columns of an equality as parent key and child key. -/
def keys? (a b : Column) : Option (Column × Column) :=
  if a.name = "id" ∧ KeyRole.isForeignName b.name then some (a, b)
  else if b.name = "id" ∧ KeyRole.isForeignName a.name then some (b, a)
  else none

/-- The key join of a query of two sources, inner joined on one equality. -/
def ofQuery? (query : Query) : Option KeyJoin :=
  match query.sources with
  | [_, joined] =>
    match joined.kind, joined.conditions with
    | .inner, [condition] => do
      let (a, b) ← condition.columnEquality?
      let (parentKey, childKey) ← keys? a b
      let parent ← query.sourceOf? parentKey
      let child ← query.sourceOf? childKey
      if parent.binding = child.binding ∨ parent.table = child.table then none
      else some ⟨parent, child, childKey.name⟩
    | _, _ => none
  | _ => none

end KeyJoin

namespace Query

/-- The query neither groups nor aggregates. -/
def isPlain (query : Query) : Bool := query.groupBy.isEmpty && !query.hasAggregates

/-- Projects every tuple, giving each row a sort key. -/
def projectKeyed (query : Query) (key : Tuple → Row → Value) (tuples : List Tuple) :
    Except Fault (List (Value × Row)) :=
  tuples.mapM fun tuple => do
    let row ← tuple.project query.items
    return (key tuple row, row)

end Query

end QueryShapes
