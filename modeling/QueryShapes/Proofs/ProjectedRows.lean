import QueryShapes.Evaluation.Tuple
import QueryShapes.Proofs.InsertedFields
import QueryShapes.Proofs.Success

/-!
# Projected rows

- `Tuple.expand`: the named values that an item of a select list stands for.
- `project_eq_ok`: the projected row is made of what the items stand for, one after another.
- `project_collects`: so every tuple has a row for every list without aggregates, whatever names meet
  in it.
-/

namespace QueryShapes

namespace Tuple

/-- The rows that a wildcard stands for: those bound under its qualifier, or all. -/
def rowsUnder (tuple : Tuple) : Option String → List Row
  | some qualifier => (tuple.entries.filter (·.1 = qualifier)).map Prod.snd
  | none => tuple.entries.map Prod.snd

/-- The named values that an item stands for. A column that is found in no row is null; an aggregate
stands for nothing in a single tuple. -/
def expand (tuple : Tuple) : SelectItem → List (String × Value)
  | .wildcard qualifier => (tuple.rowsUnder qualifier).flatMap Row.fields
  | .column c label => [(label.getD c.name, (tuple.resolve? c).getD .null)]
  | .aggregate _ _ => []

theorem contribution_eq_expand (tuple : Tuple) {item : SelectItem} (plain : item.aggregate? = none) :
    tuple.contribution item = .ok (tuple.expand item) := by
  cases item with
  | wildcard qualifier =>
    cases qualifier with
    | none => simp [contribution, expand, rowsUnder, List.flatMap_map]
    | some qualifier => simp [contribution, expand, rowsUnder, List.flatMap_map, eq_comm]
  | column => rfl
  | aggregate => cases plain

theorem project_eq_ok (tuple : Tuple) {items : List SelectItem}
    (plain : ∀ item ∈ items, item.aggregate? = none) :
    tuple.project items = .ok (.ofList (items.flatMap tuple.expand)) := by
  have contributions : items.mapM tuple.contribution = .ok (items.map tuple.expand) :=
    mapM_eq_ok fun item hitem => tuple.contribution_eq_expand (plain item hitem)
  rw [tuple.project_eq_ofList items _ contributions, List.flatMap_def]

/-- A select list without aggregates is projected from every tuple. Each name that its items stand for
is in the row once, where it comes first among them, with the value that comes last. -/
theorem project_collects (tuple : Tuple) {items : List SelectItem}
    (plain : ∀ item ∈ items, item.aggregate? = none) :
    ∃ row, tuple.project items = .ok row ∧ row.names.Nodup ∧
      row.Collects (items.flatMap tuple.expand) := by
  have collects := Row.ofList_collects (items.flatMap tuple.expand)
  exact ⟨_, tuple.project_eq_ok plain, collects.nodup, collects⟩

end Tuple

namespace Sample

/-- An employee and a department, which both have an id and a name. -/
def placement : Tuple := ⟨[
  ("e", .ofList [("id", .text "7"), ("name", .text "Ann")]),
  ("d", .ofList [("id", .text "1"), ("name", .text "Sales")])]⟩

/-- `d.name, *, d.city AS id` -/
def clashing : List SelectItem :=
  [.column ⟨some "d", "name"⟩ none, .wildcard none, .column ⟨some "d", "city"⟩ (some "id")]

end Sample

namespace Tuple

/-- The name stands where the first item has it, with the value of the last row. The id is that of a city,
which no row has. -/
theorem project_collects_clashing :
    (∀ item ∈ Sample.clashing, item.aggregate? = none) ∧
    ∃ row, Sample.placement.project Sample.clashing = .ok row ∧
      row.Collects [("name", .text "Sales"), ("id", .text "7"), ("name", .text "Ann"),
        ("id", .text "1"), ("name", .text "Sales"), ("id", .null)] ∧
      row.fields = [("name", .text "Sales"), ("id", .null)] := by
  have plain : ∀ item ∈ Sample.clashing, item.aggregate? = none := by decide
  have expanded : Sample.clashing.flatMap Sample.placement.expand =
      [("name", .text "Sales"), ("id", .text "7"), ("name", .text "Ann"), ("id", .text "1"),
        ("name", .text "Sales"), ("id", .null)] := by decide
  obtain ⟨row, projected, _, collects⟩ := Sample.placement.project_collects plain
  rw [expanded] at collects
  refine ⟨plain, row, projected, collects, ?_⟩
  rw [collects.unique (Row.ofList_collects _)]
  decide

end Tuple

end QueryShapes
