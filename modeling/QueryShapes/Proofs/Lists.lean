import Mathlib.Data.List.Basic

/-!
# Filtered and joined lists

- `flatMap_filter`: filtering before a join or after it.
- `map_filter_isSome`: mapping what a partial function keeps, or its values.
- `flatMap_filter_perm`: parts that cover a list and are pairwise disjoint make up the list.
- `takeWhile_stops`: a list is cut where a test fails first.
-/

namespace QueryShapes

variable {α β : Type}

/-- Filtering before extending is the same as filtering what is extended by what it extends. -/
theorem flatMap_filter (l : List α) (f : α → List β) (p : α → Bool) (q : β → Bool)
    (h : ∀ a ∈ l, ∀ b ∈ f a, q b = p a) : (l.filter p).flatMap f = (l.flatMap f).filter q := by
  induction l with
  | nil => rfl
  | cons a l ih =>
    have rest := ih fun x hx => h x (List.mem_cons_of_mem _ hx)
    have here : ∀ b ∈ f a, q b = p a := h a List.mem_cons_self
    rw [List.flatMap_cons, List.filter_append, ← rest]
    cases hp : p a with
    | true =>
      have all : (f a).filter q = f a := List.filter_eq_self.mpr fun b hb => (here b hb).trans hp
      rw [List.filter_cons_of_pos hp, List.flatMap_cons, all]
    | false =>
      have none : (f a).filter q = [] := List.filter_eq_nil_iff.mpr fun b hb => by simp [here b hb, hp]
      rw [List.filter_cons_of_neg (by simp [hp]), none, List.nil_append]

theorem flatMap_filter_perm {parts : List α} {whole : List β} {within : α → β → Bool}
    (covers : ∀ b ∈ whole, ∃ a ∈ parts, within a b = true)
    (apart : parts.Pairwise fun a a' => ∀ b ∈ whole, within a b = true → within a' b = false) :
    (parts.flatMap fun a => whole.filter (within a)).Perm whole := by
  induction parts generalizing whole with
  | nil =>
    have empty : whole = [] := by
      apply List.eq_nil_iff_forall_not_mem.mpr
      intro b hb
      obtain ⟨a, ha, _⟩ := covers b hb
      cases ha
    rw [empty]
    rfl
  | cons a parts ih =>
    obtain ⟨apartHere, apart⟩ := List.pairwise_cons.mp apart
    -- The other parts are parts of what the first one leaves.
    have left : ∀ a' ∈ parts, whole.filter (within a') =
        (whole.filter fun b => !within a b).filter (within a') := by
      intro a' ha'
      rw [List.filter_filter]
      apply List.filter_congr
      intro b hb
      cases here : within a b with
      | true => simp [apartHere a' ha' b hb here]
      | false => simp
    have rest : (parts.flatMap fun a' => whole.filter (within a')).Perm
        (whole.filter fun b => !within a b) := by
      rw [List.flatMap_congr left]
      apply ih
      · intro b hb
        obtain ⟨hb, outside⟩ := List.mem_filter.mp hb
        obtain ⟨a', ha', inside⟩ := covers b hb
        obtain rfl | ha' := List.mem_cons.mp ha'
        · simp [inside] at outside
        · exact ⟨a', ha', inside⟩
      · exact apart.imp fun h b hb => h b (List.mem_filter.mp hb).1
    rw [List.flatMap_cons]
    exact (rest.append_left _).trans (List.filter_append_perm (within a) whole)

theorem map_filter_isSome {γ : Type} {f : α → Option β} {g : α → γ} {h : β → γ}
    (same : ∀ a b, f a = some b → g a = h b) (l : List α) :
    (l.filter fun a => (f a).isSome).map g = (l.filterMap f).map h := by
  induction l with
  | nil => rfl
  | cons a l ih =>
    cases value : f a with
    | none => rw [List.filter_cons_of_neg (by simp [value]), List.filterMap_cons_none value, ih]
    | some b =>
      rw [List.filter_cons_of_pos (by simp [value]), List.filterMap_cons_some value, List.map_cons,
        List.map_cons, same a b value, ih]

theorem takeWhile_stops {p : α → Bool} {before after : List α}
    (passes : ∀ a ∈ before, p a = true) (stops : after.head?.any p = false) :
    (before ++ after).takeWhile p = before ∧ (before ++ after).dropWhile p = after := by
  rw [List.takeWhile_append_of_pos passes, List.dropWhile_append_of_pos passes]
  cases after with
  | nil => simp
  | cons a after =>
    have fails : p a = false := stops
    simp [fails]

end QueryShapes
