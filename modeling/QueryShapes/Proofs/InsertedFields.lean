import Mathlib.Data.List.Basic
import QueryShapes.Proofs.Rows

/-!
# Fields inserted one after another

- `Row.Collects`: the row has the names that pairs give, in the order in which they are given first,
  each with the value that is given last.
- `Collects.insert`: one more insertion keeps it so.
- `Collects.unique`: only one row is of this kind, so a row is what its own fields make.
- `run_collects`: rows made by any sequence of insertions and collections.
-/

namespace QueryShapes.Row

/-- A row is its names in order, each with the value that it is found to have. -/
theorem fields_eq_map (row : Row) :
    row.fields = row.names.map fun name => (name, (row.get? name).getD .null) := by
  rw [names, List.map_map]
  nth_rewrite 1 [← List.map_id row.fields]
  refine List.map_congr_left fun field hfield => ?_
  have found : row.get? field.1 = some field.2 := lookup_of_mem row.nodup hfield
  simp [found]

/-- The names of the pairs in the order in which they come first, each with the value that comes
last. -/
structure Collects (row : Row) (pairs : List (String × Value)) : Prop where
  /-- Names that were inserted, and no others. -/
  named : ∀ name, name ∈ row.names ↔ name ∈ pairs.map Prod.fst
  /-- A name stands where it was inserted first. -/
  inOrder : row.names.Pairwise fun a b =>
    (pairs.map Prod.fst).idxOf a < (pairs.map Prod.fst).idxOf b
  /-- The value that was inserted last, if there is one. -/
  valued : ∀ name, row.get? name = pairs.reverse.lookup name

namespace Collects

variable {row : Row} {pairs : List (String × Value)}

theorem nodup (h : row.Collects pairs) : row.names.Nodup := by
  refine h.inOrder.imp fun {a b} before same => ?_
  rw [same] at before
  exact Nat.lt_irrefl _ before

theorem get?_eq_none_iff (h : row.Collects pairs) (name : String) :
    row.get? name = none ↔ name ∉ pairs.map Prod.fst := by
  rw [← h.named, ← get?_isSome_iff, Option.not_isSome_iff_eq_none]

protected theorem empty : empty.Collects [] where
  named _ := Iff.rfl
  inOrder := List.Pairwise.nil
  valued _ := rfl

theorem insert (h : row.Collects pairs) (name : String) (value : Value) :
    (row.insert name value).Collects (pairs ++ [(name, value)]) where
  named other := by
    rw [names_insert, List.map_append, List.mem_append, ← h.named, List.map_singleton,
      List.mem_singleton]
    split
    · rename_i present
      exact (or_iff_left_of_imp fun same => same ▸ present).symm
    · rw [List.mem_append, List.mem_singleton]
  inOrder := by
    have place : ∀ a ∈ row.names, ((pairs ++ [(name, value)]).map Prod.fst).idxOf a =
        (pairs.map Prod.fst).idxOf a := by
      intro a ha
      rw [List.map_append, List.idxOf_append_of_mem ((h.named a).mp ha)]
    have kept : row.names.Pairwise fun a b => ((pairs ++ [(name, value)]).map Prod.fst).idxOf a <
        ((pairs ++ [(name, value)]).map Prod.fst).idxOf b := by
      refine h.inOrder.imp_of_mem fun {a b} ha hb before => ?_
      rwa [place a ha, place b hb]
    rw [names_insert]
    split
    · exact kept
    · rename_i fresh
      refine List.pairwise_append.mpr ⟨kept, List.pairwise_singleton _ _, fun a ha b hb => ?_⟩
      -- A new name comes behind all that was inserted before.
      obtain rfl := List.mem_singleton.mp hb
      have last : b ∉ pairs.map Prod.fst := fun earlier => fresh ((h.named b).mpr earlier)
      have earlier : (pairs.map Prod.fst).idxOf a < (pairs.map Prod.fst).length :=
        List.idxOf_lt_length_of_mem ((h.named a).mp ha)
      rw [place a ha, List.map_append, List.idxOf_append_of_notMem last]
      omega
  valued other := by
    rw [get?_insert, h.valued, List.reverse_append, List.reverse_singleton, List.singleton_append,
      lookup_field]

theorem insertAll (h : row.Collects pairs) (more : List (String × Value)) :
    (more.foldl (fun row pair => row.insert pair.1 pair.2) row).Collects (pairs ++ more) := by
  induction more generalizing row pairs with
  | nil => simpa using h
  | cons pair more ih =>
    rw [List.foldl_cons, List.append_cons]
    exact ih (h.insert pair.1 pair.2)

/-- Both rows have the same names, sorted by the same places. -/
theorem unique {other : Row} (h : row.Collects pairs) (h' : other.Collects pairs) : row = other := by
  have same : row.names.Perm other.names := by
    refine (List.perm_ext_iff_of_nodup h.nodup h'.nodup).mpr fun name => ?_
    rw [h.named, h'.named]
  have names : row.names = other.names := by
    refine same.eq_of_pairwise (fun a b _ _ before after => ?_) h.inOrder h'.inOrder
    exact absurd before (Nat.lt_asymm after)
  apply ext_fields
  rw [fields_eq_map row, fields_eq_map other, names]
  refine List.map_congr_left fun name _ => ?_
  rw [h.valued, h'.valued]

end Collects

theorem ofList_collects (pairs : List (String × Value)) : (ofList pairs).Collects pairs :=
  Collects.empty.insertAll pairs

theorem fields_collects (row : Row) : row.Collects row.fields where
  named _ := Iff.rfl
  inOrder := by
    have distinct : row.names.Nodup := row.nodup
    refine List.pairwise_iff_getElem.mpr fun i j hi hj before => ?_
    rw [← names, distinct.idxOf_getElem i hi, distinct.idxOf_getElem j hj]
    exact before
  valued name := by
    have distinct : (row.fields.reverse.map Prod.fst).Nodup := by
      rw [List.map_reverse]
      exact List.nodup_reverse.mpr row.nodup
    cases found : row.get? name with
    | some value =>
      exact (lookup_of_mem distinct (List.mem_reverse.mpr (mem_fields_of_get? found))).symm
    | none =>
      symm
      rw [List.lookup_eq_none_iff]
      intro field hfield
      have absent : name ∉ row.names := by simp [← get?_isSome_iff, found]
      have present : field.1 ∈ row.names := List.mem_map_of_mem (List.mem_reverse.mp hfield)
      exact bne_iff_ne.mpr fun same => absent (same ▸ present)

/-- A row is rebuilt from its own fields. -/
theorem ofList_fields (row : Row) : ofList row.fields = row :=
  (ofList_collects row.fields).unique row.fields_collects

/-! ## Sequences of insertions and collections -/

/-- What makes a row of the one before. -/
inductive Step
  /-- A field is set, on its own or as the next call of a chain. -/
  | insert (name : String) (value : Value)
  /-- A new row collects pairs. -/
  | collect (pairs : List (String × Value))
  /-- A new row collects the fields of the one before. -/
  | rebuild

/-- The row that a step makes. -/
def Step.apply (row : Row) : Step → Row
  | insert name value => row.insert name value
  | collect pairs => ofList pairs
  | rebuild => ofList row.fields

/-- What has been inserted since the row was last empty. -/
def Step.record (inserted : List (String × Value)) : Step → List (String × Value)
  | insert name value => inserted ++ [(name, value)]
  | collect pairs => pairs
  | rebuild => inserted

/-- The row that the steps make of an empty one. -/
def run (steps : List Step) : Row := steps.foldl Step.apply empty

/-- What the steps insert from where the row is empty last. -/
def inserted (steps : List Step) : List (String × Value) := steps.foldl Step.record []

theorem Collects.apply {row : Row} {pairs : List (String × Value)} (h : row.Collects pairs)
    (step : Step) : (step.apply row).Collects (step.record pairs) := by
  cases step with
  | insert name value => exact h.insert name value
  | collect pairs => exact ofList_collects pairs
  | rebuild =>
    rw [Step.apply, ofList_fields]
    exact h

theorem Collects.applyAll {row : Row} {pairs : List (String × Value)} (h : row.Collects pairs)
    (steps : List Step) : (steps.foldl Step.apply row).Collects (steps.foldl Step.record pairs) := by
  induction steps generalizing row pairs with
  | nil => exact h
  | cons step steps ih => exact ih (h.apply step)

/-- A row made by any steps has each name once. The names stand in the order in which they were
inserted first and have the values that were inserted last; a look-up of any other name finds
nothing. The fields of the row make the same row again. -/
theorem run_collects (steps : List Step) :
    (run steps).names.Nodup ∧ (run steps).Collects (inserted steps) ∧
    (∀ name, (run steps).get? name = none ↔ name ∉ (inserted steps).map Prod.fst) ∧
    ofList (run steps).fields = run steps := by
  have collects : (run steps).Collects (inserted steps) := Collects.empty.applyAll steps
  exact ⟨collects.nodup, collects, collects.get?_eq_none_iff, ofList_fields _⟩

/-- A name that is inserted again keeps its place and takes the new value. -/
example : (run [.collect [("id", .null), ("name", .text "Ann")], .insert "age" (.text "40"),
    .rebuild, .insert "id" (.text "7")]).fields =
      [("id", .text "7"), ("name", .text "Ann"), ("age", .text "40")] := by
  decide

end QueryShapes.Row
