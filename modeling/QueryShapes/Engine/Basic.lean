import QueryShapes.Engine.Scan
import QueryShapes.Engine.StatementKind
import QueryShapes.Shape.Adjacency
import QueryShapes.Shape.DateRange
import QueryShapes.Shape.GroupAverage
import QueryShapes.Shape.JoinSort
import QueryShapes.Shape.Threshold
import QueryShapes.Sql.Evaluable

/-!
# The engine

An engine answers statements from a store. Reads go to its shapes in order; the first that
recognizes the query answers it, and a read that none recognizes is answered by a scan. Mutations
are acknowledged and change nothing.

- `Engine.execute`: the answer to a statement.
- `Engine.execute_parameters`: parameters do not matter.
-/

namespace QueryShapes

/-- The answer to a mutation. -/
structure Acknowledgment where
  affectedRows : Nat
  insertId : String
deriving DecidableEq

inductive Envelope
  | rows (rows : List Row)
  | acknowledged (ack : Acknowledgment)

namespace Envelope

/-- The rows of an answer; an acknowledgment has none. -/
def toRows : Envelope → List Row
  | rows rs => rs
  | acknowledged _ => []

end Envelope

structure Engine where
  store : Store
  shapes : List Shape

namespace Engine

/-- The built-in shapes in order of priority. -/
def builtInShapes : List Shape :=
  [JoinSort.shape, Adjacency.shape, DateRange.shape, Threshold.shape, GroupAverage.shape]

theorem forall_builtInShapes_iff {p : Shape → Prop} : (∀ shape ∈ builtInShapes, p shape) ↔
    p JoinSort.shape ∧ p Adjacency.shape ∧ p DateRange.shape ∧ p Threshold.shape ∧
      p GroupAverage.shape := by
  simp [builtInShapes]

/-- The engine with the built-in shapes. -/
def ofStore (store : Store) : Engine := ⟨store, builtInShapes⟩

/-- The answer of the first shape that recognizes the query. -/
def firstAnswer? (query : Query) (store : Store) : List Shape → Except Fault (Option (List Row))
  | [] => .ok none
  | shape :: rest => do
    match ← shape.answer? query store with
    | some rows => return some rows
    | none => firstAnswer? query store rest

/-- The rows that a read gives. -/
def read (engine : Engine) (text : String) : Except Fault (List Row) := do
  let answer ← match Query.ofText? text with
    | .ok query => firstAnswer? query engine.store engine.shapes
    | .error _ => .ok none
  return answer.getD (Scan.rows engine.store text)

/-- A row for each relation. -/
def listing (engine : Engine) : List Row :=
  engine.store.names.map fun name => .ofList [("table_name", .text name)]

/-- The answer to a statement. Parameters are taken but never substituted; `newId` is the id that a
mutation is acknowledged with. -/
def execute (engine : Engine) (newId : String) (text : String) (_parameters : List Value) :
    Except Fault Envelope :=
  match StatementKind.ofText text with
  | .liveness => .ok (.rows [.ofList [("test", .integer 1)]])
  | .listing => .ok (.rows engine.listing)
  | .description relation => .ok (.rows (engine.store.schemaOf relation).toRows)
  | .read => (engine.read text).map .rows
  | .mutation => .ok (.acknowledged ⟨1, newId⟩)

theorem execute_parameters (engine : Engine) (newId text : String) (xs ys : List Value) :
    engine.execute newId text xs = engine.execute newId text ys := rfl

/-- The engine as it is shown: how many relations it has, and the names of its shapes. -/
def summary (engine : Engine) : String :=
  let names := engine.shapes.map fun shape => "\"" ++ shape.name ++ "\""
  "Dispatcher \x7b relations: " ++ toString engine.store.size ++ ", matchers: [" ++
    ", ".intercalate names ++ "] \x7d"

end Engine

end QueryShapes
