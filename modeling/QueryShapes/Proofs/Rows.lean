import Mathlib.Data.List.Nodup
import Mathlib.Data.List.Perm.Subperm
import QueryShapes.Row

/-!
# Names and values of rows

- `get?_ofList`: a row made of pairs holds the last value that was given for a name.
- `mem_fields_ofList`: it has no fields besides those pairs.
- `sameFields_iff`: rows with the same fields list the same names, in whatever order.
-/

namespace QueryShapes.Row

theorem ext_fields {a b : Row} (h : a.fields = b.fields) : a = b := by
  cases a
  cases b
  cases h
  rfl

instance : DecidableEq Row := fun a b =>
  decidable_of_iff (a.fields = b.fields) ⟨ext_fields, fun h => h ▸ rfl⟩

theorem get?_isSome_iff {row : Row} {name : String} : (row.get? name).isSome ↔ name ∈ row.names := by
  unfold get? names
  induction row.fields with
  | nil => simp
  | cons field rest ih =>
    obtain ⟨n, v⟩ := field
    rw [lookup_field]
    by_cases h : name = n <;> simp [h, ih]

/-- Counting and one inclusion are enough, because a row has each name once. -/
theorem sameFields_iff {a b : Row} : a.sameFields b ↔ a.names.Perm b.names := by
  simp only [sameFields, Bool.and_eq_true, beq_iff_eq, List.all_eq_true]
  constructor
  · rintro ⟨size, within⟩
    have subset : a.names ⊆ b.names := by
      intro name hname
      exact get?_isSome_iff.mp (within name hname)
    have length : b.names.length ≤ a.names.length := by
      simpa [names, Row.size] using Nat.le_of_eq size.symm
    exact (List.subperm_of_subset a.nodup subset).perm_of_length_le length
  · intro same
    refine ⟨by simpa [names, Row.size] using same.length_eq, fun name hname => ?_⟩
    exact get?_isSome_iff.mpr (same.mem_iff.mp hname)

/-! ## Rows made of pairs -/

theorem mem_setField {name : String} {value : Value} {fields : List (String × Value)}
    {field : String × Value} (h : field ∈ setField name value fields) :
    field = (name, value) ∨ field ∈ fields := by
  induction fields with
  | nil => exact .inl (List.mem_singleton.mp h)
  | cons first rest ih =>
    obtain ⟨n, v⟩ := first
    rw [setField] at h
    split at h
    · rename_i same
      obtain rfl | later := List.mem_cons.mp h
      · exact .inl (congrArg (·, value) same)
      · exact .inr (List.mem_cons_of_mem _ later)
    · obtain rfl | later := List.mem_cons.mp h
      · exact .inr List.mem_cons_self
      · exact (ih later).imp_right (List.mem_cons_of_mem _)

theorem mem_fields_insertAll {row : Row} {pairs : List (String × Value)} {field : String × Value}
    (h : field ∈ (pairs.foldl (fun row pair => row.insert pair.1 pair.2) row).fields) :
    field ∈ row.fields ∨ field ∈ pairs := by
  induction pairs generalizing row with
  | nil => exact .inl h
  | cons pair pairs ih =>
    obtain before | later := ih h
    · obtain rfl | held := mem_setField before
      · exact .inr List.mem_cons_self
      · exact .inl held
    · exact .inr (List.mem_cons_of_mem _ later)

/-- A row made of pairs has no other fields. -/
theorem mem_fields_ofList {pairs : List (String × Value)} {field : String × Value}
    (h : field ∈ (ofList pairs).fields) : field ∈ pairs :=
  (mem_fields_insertAll h).resolve_left List.not_mem_nil

theorem mem_fields_of_get? {row : Row} {name : String} {value : Value}
    (h : row.get? name = some value) : (name, value) ∈ row.fields := by
  obtain ⟨before, after, fields, _⟩ := List.lookup_eq_some_iff.mp h
  rw [fields]
  exact List.mem_append_right before List.mem_cons_self

theorem get?_insertAll (row : Row) (pairs : List (String × Value)) (name : String) :
    (pairs.foldl (fun row pair => row.insert pair.1 pair.2) row).get? name =
      (pairs.reverse.lookup name).or (row.get? name) := by
  induction pairs generalizing row with
  | nil => simp
  | cons pair pairs ih =>
    rw [List.foldl_cons, ih, get?_insert, List.reverse_cons, List.lookup_append, lookup_field]
    split <;> simp

theorem get?_ofList (pairs : List (String × Value)) (name : String) :
    (ofList pairs).get? name = pairs.reverse.lookup name := by
  rw [ofList, get?_insertAll]
  simp [empty, get?]

theorem lookup_of_mem {pairs : List (String × Value)} (distinct : (pairs.map Prod.fst).Nodup)
    {name : String} {value : Value} (h : (name, value) ∈ pairs) :
    pairs.lookup name = some value := by
  induction pairs with
  | nil => cases h
  | cons pair pairs ih =>
    obtain ⟨n, v⟩ := pair
    rw [List.map_cons, List.nodup_cons] at distinct
    rw [lookup_field]
    obtain here | later := List.mem_cons.mp h
    · obtain ⟨rfl, rfl⟩ := Prod.mk.inj here
      simp
    · have other : name ≠ n := by
        rintro rfl
        exact distinct.1 (List.mem_map.mpr ⟨_, later, rfl⟩)
      rw [if_neg other, ih distinct.2 later]

/-- A row made of pairs of different names holds each pair. -/
theorem get?_ofList_of_mem {pairs : List (String × Value)} (distinct : (pairs.map Prod.fst).Nodup)
    {name : String} {value : Value} (h : (name, value) ∈ pairs) :
    (ofList pairs).get? name = some value := by
  rw [get?_ofList]
  apply lookup_of_mem
  · rw [List.map_reverse]
    exact List.nodup_reverse.mpr distinct
  · exact List.mem_reverse.mpr h

end QueryShapes.Row
