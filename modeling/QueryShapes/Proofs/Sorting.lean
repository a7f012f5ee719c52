import QueryShapes.Evaluation.Aggregate
import QueryShapes.Proofs.ValueOrder

/-!
# Sorted and uncut results

- `Descends`: one list holds the items of another from the highest key down, where items of equal
  keys stand as they stood.
- `Descends.tied`: so a relation in which tied items stood one after another still holds between them.
- `sortDescending_descends`: sorting gives such a list.
- `cut_of_unlimited` and `cut_sublist`: a query without a limit cuts nothing, and one with a limit keeps
  what it does not cut in its order.
-/

namespace QueryShapes

/-- `ordered` is `items` sorted stably by descending keys. -/
structure Descends {α : Type} (key : α → Value) (ordered items : List α) : Prop where
  perm : ordered.Perm items
  descending : ordered.Pairwise fun a b => ((key b).sortOrder (key a)).isLE
  stable : ∀ k, ordered.filter (fun a => (key a).sortOrder k == .eq) =
    items.filter fun a => (key a).sortOrder k == .eq

theorem Descends.congr {α : Type} {key key' : α → Value} {ordered items : List α}
    (h : Descends key ordered items) (same : ∀ a ∈ items, key' a = key a) :
    Descends key' ordered items := by
  have kept : ∀ a ∈ ordered, key' a = key a := fun a ha => same a (h.perm.mem_iff.mp ha)
  refine ⟨h.perm, ?_, ?_⟩
  · refine h.descending.imp_of_mem fun {a b} ha hb descends => ?_
    rw [kept a ha, kept b hb]
    exact descends
  · intro k
    rw [List.filter_congr fun a ha => by rw [kept a ha], h.stable k]
    exact List.filter_congr fun a ha => by rw [same a ha]

theorem Descends.tied {α : Type} {key : α → Value} {ordered items : List α} {R : α → α → Prop}
    (descends : Descends key ordered items) (stood : items.Pairwise R) :
    ordered.Pairwise fun a b => (key a).sortOrder (key b) = .eq → R a b := by
  rw [List.pairwise_iff_forall_sublist] at stood ⊢
  intro a b stands tied
  let tiedToB : α → Bool := fun x => (key x).sortOrder (key b) == .eq
  have self : (key b).sortOrder (key b) = .eq := Std.ReflCmp.compare_self
  have bothTied : [a, b].filter tiedToB = [a, b] := by simp [tiedToB, tied, self]
  have stand := stands.filter tiedToB
  rw [bothTied, descends.stable (key b)] at stand
  exact stood (stand.trans List.filter_sublist)

section
variable {α β : Type} (key : α → Value) (items : List α)

/-- `a` may stand before `b`. -/
def before (a b : α) : Bool := ((key b).sortOrder (key a)).isLE

theorem before_trans (a b c : α) (hab : before key a b) (hbc : before key b c) :
    before key a c :=
  Std.TransCmp.isLE_trans hbc hab

theorem before_total (a b : α) : before key a b || before key b a := by
  unfold before
  rw [Value.sortOrder_flip (key b) (key a)]
  cases (key b).sortOrder (key a) <;> rfl

theorem before_of_tied {k : Value} {a b : α} (ha : (key a).sortOrder k = .eq)
    (hb : (key b).sortOrder k = .eq) : before key a b := by
  have hk : k.sortOrder (key a) = .eq := Std.OrientedCmp.eq_symm ha
  have tied : (key b).sortOrder (key a) = .eq := Std.TransCmp.eq_trans hb hk
  simp [before, tied]

/-- Tied items keep their order: they are a sorted sublist, and sorting keeps sorted sublists. -/
theorem mergeSort_tied (k : Value) :
    (items.mergeSort (before key)).filter (fun a => (key a).sortOrder k == .eq) =
      items.filter fun a => (key a).sortOrder k == .eq := by
  let tied : α → Bool := fun a => (key a).sortOrder k == .eq
  have sorted : (items.filter tied).Pairwise fun a b => before key a b = true := by
    apply List.pairwise_of_forall_mem_list
    intro a ha b hb
    have tiedA := eq_of_beq (List.mem_filter.mp ha).2
    have tiedB := eq_of_beq (List.mem_filter.mp hb).2
    exact before_of_tied key tiedA tiedB
  have kept := List.sublist_mergeSort (before_trans key) (before_total key) sorted
    List.filter_sublist
  have within := kept.filter tied
  rw [List.filter_filter] at within
  have size : (items.filter tied).length = ((items.mergeSort (before key)).filter tied).length :=
    ((List.mergeSort_perm items (before key)).filter tied).length_eq.symm
  exact ((List.Sublist.eq_of_length (by simpa using within) (by simpa using size))).symm

theorem mergeSort_descends : Descends key (items.mergeSort (before key)) items where
  perm := List.mergeSort_perm items (before key)
  descending := List.pairwise_mergeSort (before_trans key) (before_total key) items
  stable := mergeSort_tied key items

/-- Sorting values by keys that some items have puts the items in descending order. -/
theorem sortDescending_descends (value : α → β) :
    ∃ ordered, Descends key ordered items ∧
      sortDescending (items.map fun a => (key a, value a)) = ordered.map value := by
  refine ⟨items.mergeSort (before key), mergeSort_descends key items, ?_⟩
  have sorted : (items.mergeSort (before key)).map (fun a => (key a, value a)) =
      (items.map fun a => (key a, value a)).mergeSort fun a b => b.1.sortOrder a.1 != .gt := by
    apply List.map_mergeSort
    intro a _ b _
    exact Ordering.isLE_eq_not_beq_gt
  rw [sortDescending, ← sorted, List.map_map]
  rfl

end

theorem Query.cut_of_unlimited {query : Query} {α : Type} (unlimited : query.limit = none)
    (results : List α) : query.cut results = results := by
  simp [cut, unlimited]

theorem Query.cut_sublist {α : Type} (query : Query) (results : List α) :
    (query.cut results).Sublist results := by
  unfold cut
  split
  · exact List.take_sublist _ _
  · exact List.Sublist.refl _

theorem Query.cut_map {α β : Type} (query : Query) (f : α → β) (results : List α) :
    query.cut (results.map f) = (query.cut results).map f := by
  unfold cut
  split
  · rw [List.map_take]
  · rfl

/-- A limit other than zero leaves the first result. -/
theorem Query.mem_cut_singleton {α : Type} (query : Query) (limit : query.limit ≠ some 0) (a : α) :
    a ∈ query.cut [a] := by
  unfold cut
  split
  · rename_i n bounded
    obtain ⟨n, rfl⟩ := Nat.exists_eq_succ_of_ne_zero fun zero => limit (zero ▸ bounded)
    simp
  · simp

theorem Query.mem_of_mem_cut {α : Type} {query : Query} {results : List α} {a : α}
    (h : a ∈ query.cut results) : a ∈ results :=
  (query.cut_sublist results).mem h

end QueryShapes
