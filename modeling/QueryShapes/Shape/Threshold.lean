import QueryShapes.Shape.Basic

/-!
# Rows above a number

`SELECT name FROM employees WHERE salary > 70000`, in storage order.

- `Threshold.recognizes`: one source, one condition `column > number`, no ordering.
-/

namespace QueryShapes.Threshold

/-- The condition compares a column as greater than a number. -/
def isThreshold (p : Predicate) : Bool :=
  match p.columnVsLiteral? with
  | some (_, .gt, value) => value.isNumeric
  | _ => false

def recognizes (query : Query) : Bool :=
  match query.sources, query.filter with
  | [_], [p] => query.isPlain && query.orderBy.isEmpty && isThreshold p
  | _, _ => false

def answer? (query : Query) (store : Store) : Except Fault (Option (List Row)) :=
  match recognizes query, query.tuples? store with
  | true, some tuples => do
    let rows ← tuples.mapM (Tuple.project query.items)
    return some (query.cut rows)
  | _, _ => .ok none

def shape : Shape := ⟨"threshold", answer?⟩

end QueryShapes.Threshold
