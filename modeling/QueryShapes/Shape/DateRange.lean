import QueryShapes.Shape.Basic

/-!
# Rows after a date

`SELECT name FROM employees WHERE hire_date > '2021-01-01'`, newest first. An explicit ordering
may only say the same.

- `DateRange.recognize?`: the column that is compared with the date.
-/

namespace QueryShapes.DateRange

/-- The column of a lone condition `column > date`. -/
def dateColumn? (p : Predicate) : Option Column :=
  match p.columnVsLiteral? with
  | some (column, .gt, .date _) => some column
  | _ => none

/-- The ordering is absent, or descends by the field of the given name. -/
def ordersBy (field : String) : List SortKey → Bool
  | [] => true
  | [key] => key.descending && key.target.name = field
  | _ => false

def recognize? (query : Query) : Option Column :=
  match query.sources, query.filter with
  | [_], [p] => (dateColumn? p).filter fun column =>
      query.isPlain && ordersBy column.name query.orderBy
  | _, _ => none

def key (column : Column) (tuple : Tuple) (_ : Row) : Value := (tuple.resolve? column).getD .null

def answer? (query : Query) (store : Store) : Except Fault (Option (List Row)) :=
  match recognize? query, query.tuples? store with
  | some column, some tuples => do
    let keyed ← query.projectKeyed (key column) tuples
    return some (query.cut (sortDescending keyed))
  | _, _ => .ok none

def shape : Shape := ⟨"date_range", answer?⟩

end QueryShapes.DateRange
