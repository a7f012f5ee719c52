import QueryShapes.Proofs.Rows
import QueryShapes.Proofs.Success
import QueryShapes.Store.Basic

/-!
# What accepted stores keep

- `Relation.Uniform`: every row has an `id`, and all rows carry the same names.
- `checkAfter_eq_ok_iff`: relations are accepted exactly if their names are different and each is
  uniform.
- `uniform_of_accepted`: every relation of an accepted store is uniform.
- `relation?_of_accepted`: and is found by its name, which no other relation has.
-/

namespace QueryShapes

namespace Relation

structure Uniform (relation : Relation) : Prop where
  id : ∀ row ∈ relation.rows, "id" ∈ row.names
  names : ∀ a ∈ relation.rows, ∀ b ∈ relation.rows, a.names.Perm b.names

theorem check_eq_ok_iff {relation : Relation} : relation.check = .ok () ↔ relation.Uniform := by
  unfold check
  split
  · rename_i empty
    exact iff_of_true rfl ⟨by simp [empty], by simp [empty]⟩
  · rename_i first rest rows
    have here : first ∈ relation.rows := rows ▸ List.mem_cons_self
    have hasId : first.contains "id" ↔ "id" ∈ first.names := Row.get?_isSome_iff
    split
    · rename_i lacks
      have absent : "id" ∉ first.names := fun present => by simp [hasId.mpr present] at lacks
      exact iff_of_false nofun fun uniform => absent (uniform.id first here)
    · rename_i present
      have firstId : "id" ∈ first.names := hasId.mp (by simpa using present)
      split
      · rename_i position found
        obtain ⟨inside, differs, _⟩ := List.findIdx?_eq_some_iff_getElem.mp found
        refine iff_of_false nofun fun uniform => ?_
        have same := uniform.names _ (List.getElem_mem inside) first here
        simp [Row.sameFields_iff.mpr same] at differs
      · rename_i all
        have same : ∀ row ∈ relation.rows, row.names.Perm first.names := fun row hrow =>
          Row.sameFields_iff.mp (by simpa using List.findIdx?_eq_none_iff.mp all row hrow)
        refine iff_of_true rfl ⟨fun row hrow => (same row hrow).mem_iff.mpr firstId, ?_⟩
        exact fun a ha b hb => (same a ha).trans (same b hb).symm

theorem Uniform.get?_id {relation : Relation} (uniform : relation.Uniform) {row : Row}
    (h : row ∈ relation.rows) : ∃ id, row.get? "id" = some id :=
  Option.isSome_iff_exists.mp (Row.get?_isSome_iff.mpr (uniform.id row h))

end Relation

namespace Store

/-- The relations pass exactly if their names are new and different and each of them is uniform. -/
theorem checkAfter_eq_ok_iff {seen : List String} {relations : List Relation} :
    checkAfter seen relations = .ok () ↔ (relations.map (·.name)).Nodup ∧
      (∀ r ∈ relations, r.name ∉ seen) ∧ ∀ r ∈ relations, r.Uniform := by
  induction relations generalizing seen with
  | nil => simp [checkAfter]
  | cons relation rest ih =>
    simp only [List.map_cons, List.nodup_cons, List.forall_mem_cons]
    unfold checkAfter
    split
    · rename_i again
      exact iff_of_false nofun fun fresh => fresh.2.1.1 again
    · rename_i fresh
      simp only [bind_eq_ok_iff, ih, List.mem_cons, not_or]
      constructor
      · rintro ⟨_, checked, distinct, unseen, others⟩
        have apart : relation.name ∉ rest.map (·.name) := by
          intro repeated
          obtain ⟨r, hr, same⟩ := List.mem_map.mp repeated
          exact (unseen r hr).1 same
        exact ⟨⟨apart, distinct⟩, ⟨fresh, fun r hr => (unseen r hr).2⟩,
          Relation.check_eq_ok_iff.mp checked, others⟩
      · rintro ⟨⟨apart, distinct⟩, ⟨_, unseen⟩, uniform, others⟩
        refine ⟨(), Relation.check_eq_ok_iff.mpr uniform, distinct, fun r hr => ⟨?_, unseen r hr⟩, others⟩
        exact fun same => apart (same ▸ List.mem_map_of_mem hr)

theorem accepted_iff {relations : List Relation} {store : Store} :
    ofRelations relations = .ok store ↔
      checkAfter [] relations = .ok () ∧ store.relations = relations := by
  obtain ⟨held⟩ := store
  unfold ofRelations
  rw [bind_eq_ok_iff]
  constructor
  · rintro ⟨_, checked, h⟩
    exact ⟨checked, (congrArg Store.relations (Except.ok.inj h)).symm⟩
  · rintro ⟨checked, rfl⟩
    exact ⟨(), checked, rfl⟩

theorem uniform_of_accepted {relations : List Relation} {store : Store}
    (accepted : ofRelations relations = .ok store) {name : String} {relation : Relation}
    (found : store.relation? name = some relation) : relation.Uniform := by
  obtain ⟨checked, held⟩ := accepted_iff.mp accepted
  have member : relation ∈ relations := held ▸ List.mem_of_find?_eq_some found
  exact (checkAfter_eq_ok_iff.mp checked).2.2 relation member

theorem eq_of_accepted {relations : List Relation} {store : Store}
    (accepted : ofRelations relations = .ok store) {a b : Relation} (ha : a ∈ relations)
    (hb : b ∈ relations) (same : a.name = b.name) : a = b :=
  List.inj_on_of_nodup_map (checkAfter_eq_ok_iff.mp (accepted_iff.mp accepted).1).1 ha hb same

theorem relation?_of_accepted {relations : List Relation} {store : Store}
    (accepted : ofRelations relations = .ok store) {relation : Relation}
    (member : relation ∈ relations) : store.relation? relation.name = some relation := by
  have held := (accepted_iff.mp accepted).2
  cases found : store.relation? relation.name with
  | none =>
    have absent := List.find?_eq_none.mp found relation (held ▸ member)
    simp at absent
  | some other =>
    have named : other.name = relation.name := by simpa using List.find?_some found
    have stored : other ∈ relations := held ▸ List.mem_of_find?_eq_some found
    rw [eq_of_accepted accepted stored member named]

end Store

end QueryShapes
