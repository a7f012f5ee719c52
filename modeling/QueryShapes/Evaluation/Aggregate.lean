import QueryShapes.Evaluation.Tuple

/-!
# Aggregates

What an aggregate call gives for the tuples of one group, and the sort that orders results.

- `Aggregate.values`: only values that are not null take part.
- `Aggregate.evaluate`: an average is always rounded to an integer; of the other aggregates a
  rounded one turns a decimal into an integer.
- `sortDescending`: a stable sort, highest key first.
-/

namespace QueryShapes

namespace Aggregate

/-- The values of the argument that are not null. -/
def values (call : Aggregate) (group : List Tuple) : List Value :=
  match call.argument with
  | some column => (group.filterMap (·.resolve? column)).filter (!·.isNull)
  | none => []

/-- The values as numbers. -/
def numbers (call : Aggregate) (values : List Value) : Except Fault (List Double) :=
  values.mapM fun value =>
    match value.number? with
    | some x => .ok x
    | none => .error (.notNumeric call.function value)

/-- The sum of integers as long as it stays within 64 bits. -/
def exactSum? (values : List Value) : Option Int64 :=
  values.foldlM (fun total value =>
    match value with
    | .integer n => checkedAdd? total n
    | _ => none) 0

/-- The sum of doubles, added up from the left. -/
def decimalSum (numbers : List Double) : Double :=
  numbers.foldl Double.add ⟨true, 0⟩

/-- The first of the least values. -/
def least : List Value → Value
  | [] => .null
  | first :: rest => rest.foldl (fun a b => if a.sortOrder b == .gt then b else a) first

/-- The last of the greatest values. -/
def greatest : List Value → Value
  | [] => .null
  | first :: rest => rest.foldl (fun a b => if a.sortOrder b == .gt then a else b) first

/-- The mean, rounded to the nearest integer; nothing has no mean. -/
def mean (numbers : List Double) : Value :=
  if numbers.isEmpty then .null
  else .integer ((decimalSum numbers).divNat numbers.length).roundToInt64

def sum (call : Aggregate) (values : List Value) : Except Fault Value :=
  match exactSum? values with
  | some total => .ok (.integer total)
  | none => do
    let numbers ← call.numbers values
    return .decimal (decimalSum numbers)

/-- The number of values, or of tuples where nothing is asked about. -/
def size (call : Aggregate) (group : List Tuple) : Nat :=
  if call.argument.isSome then (call.values group).length else group.length

/-- The value before rounding is applied. -/
def unrounded (call : Aggregate) (group : List Tuple) : Except Fault Value :=
  let values := call.values group
  match call.function with
  | .count => .ok (.integer (Int64.ofNat (call.size group)))
  | .avg => return mean (← call.numbers values)
  | .sum => call.sum values
  | .min => .ok (least values)
  | .max => .ok (greatest values)

/-- Rounding leaves everything but decimals alone. -/
def roundValue : Value → Value
  | .decimal x => .integer x.roundToInt64
  | value => value

def evaluate (call : Aggregate) (group : List Tuple) : Except Fault Value :=
  if call.rounded then (call.unrounded group).map roundValue else call.unrounded group

/-- Rounding leaves a count alone. -/
theorem evaluate_count (argument : Option Column) (rounded : Bool) (group : List Tuple) :
    evaluate ⟨.count, argument, rounded⟩ group =
      .ok (.integer (Int64.ofNat (size ⟨.count, argument, rounded⟩ group))) := by
  cases rounded <;> rfl

end Aggregate

/-! ## Sorting -/

/-- Sorts by keys from the highest down; equal keys keep their order. -/
def sortDescending {α : Type} (items : List (Value × α)) : List α :=
  (items.mergeSort fun a b => b.1.sortOrder a.1 != .gt).map (·.2)

end QueryShapes
