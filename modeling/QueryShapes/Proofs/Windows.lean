import Mathlib.Data.List.ProdSigma
import QueryShapes.Proofs.Lists
import QueryShapes.Proofs.ValueOrder
import QueryShapes.Shape.Adjacency

/-!
# Windows and their distinct values

- `Successive`: in a list, a relation holds of each item and its next neighbour, and of no other two.
- `filter_triples`: the triples of a list that are linked by such a relation are its windows.
- `getElem?_windows`: windows by place.
- `shared?_eq_some_iff`: all that the shared value of a window says.
- `foldl_addNew`: adding new values one after another erases later duplicates.
-/

namespace QueryShapes.Adjacency

section
variable {α : Type} (follows : α → α → Bool)

/-- Each item is followed by its next neighbour alone. -/
def Successive (items : List α) : Prop :=
  ∀ before item after, items = before ++ item :: after →
    items.filter (follows item) = after.take 1

variable {follows} {items : List α}

/-- From any position on, chains of three are windows. -/
theorem flatMap_chains (successive : Successive follows items) (before : List α) {after : List α}
    (split : items = before ++ after) :
    (after.flatMap fun a => (items.filter (follows a)).flatMap fun b =>
      (items.filter (follows b)).map fun c => (a, b, c)) = windows after := by
  induction after generalizing before with
  | nil => rfl
  | cons a after ih =>
    have next := successive before a after split
    have rest := ih (before ++ [a]) (by simpa using split)
    rw [List.flatMap_cons, rest, next]
    match after with
    | [] => rfl
    | [b] =>
      have last := successive (before ++ [a]) b [] (by simpa using split)
      simp [last, windows]
    | b :: c :: after =>
      have second := successive (before ++ [a]) b (c :: after) (by simpa using split)
      simp [second, windows]

theorem filter_product (l m : List α) :
    (l.product m).filter (fun v => follows v.1 v.2) =
      l.flatMap fun a => (m.filter (follows a)).map (Prod.mk a) := by
  rw [List.product, List.filter_flatMap]
  apply List.flatMap_congr
  intro a _
  rw [List.filter_map]
  rfl

theorem filter_triples (successive : Successive follows items) :
    (items.product (items.product items)).filter
      (fun w => follows w.1 w.2.1 && follows w.2.1 w.2.2) = windows items := by
  have linked : ∀ a, (items.product items).filter (fun v => follows a v.1 && follows v.1 v.2) =
      (items.filter (follows a)).flatMap fun b => (items.filter (follows b)).map (Prod.mk b) := by
    intro a
    rw [flatMap_filter _ _ _ (fun v => follows a v.1), ← filter_product, List.filter_filter]
    intro b _ v hv
    obtain ⟨c, _, rfl⟩ := List.mem_map.mp hv
    rfl
  rw [← flatMap_chains successive [] rfl, List.product, List.filter_flatMap]
  apply List.flatMap_congr
  intro a _
  rw [List.filter_map]
  change ((items.product items).filter (fun v => follows a v.1 && follows v.1 v.2)).map _ = _
  rw [linked, List.map_flatMap]
  simp [List.map_map, Function.comp_def]

/-- The window at a place is made of the items from there on. -/
theorem getElem?_windows {i : Nat} {a b c : α} :
    (windows items)[i]? = some (a, b, c) ↔
      items[i]? = some a ∧ items[i + 1]? = some b ∧ items[i + 2]? = some c := by
  fun_induction windows items generalizing i with
  | case1 x y z rest ih =>
    cases i with
    | zero => simp
    | succ i => simpa using ih
  | case2 items short =>
    match items, short with
    | [], _ => simp
    | [_], _ => simp
    | [_, _], _ => simp
    | x :: y :: z :: rest, short => exact absurd rfl (short x y z rest)

end

/-! ## Shared values -/

/-- All that a shared value says: it is that of the first row, and neighbours are loosely equal. -/
theorem shared?_eq_some_iff {field : String} {w : Row × Row × Row} {value : Value} :
    shared? field w = some value ↔ w.1.get? field = some value ∧ ∃ second third,
      w.2.1.get? field = some second ∧ w.2.2.get? field = some third ∧
      value.looselyEquals second ∧ second.looselyEquals third := by
  simp only [shared?, Option.bind_eq_bind]
  cases w.1.get? field <;> cases w.2.1.get? field <;> cases w.2.2.get? field <;> simp
  constructor
  · rintro ⟨⟨first, second⟩, rfl⟩
    exact ⟨rfl, first, second⟩
  · rintro ⟨rfl, first, second⟩
    exact ⟨⟨first, second⟩, rfl⟩

theorem shared?_eq_some {field : String} {w : Row × Row × Row} {value : Value}
    (h : shared? field w = some value) : w.1.get? field = some value :=
  (shared?_eq_some_iff.mp h).1

/-! ## Distinct values -/

theorem foldl_addNew_append (values found : List Value) :
    values.foldl addNew found = found ++
      (values.filter fun v => !found.any (·.looselyEquals v)).eraseDupsBy Value.looselyEquals := by
  induction values generalizing found with
  | nil => simp
  | cons v values ih =>
    rw [List.foldl_cons, ih, addNew]
    by_cases known : found.any (·.looselyEquals v)
    · simp [known]
    · rw [if_neg known, List.filter_cons_of_pos (by simpa using known), List.eraseDupsBy_cons,
        List.filter_filter, List.append_assoc, List.singleton_append]
      congr 3
      apply List.filter_congr
      intro w _
      rw [Value.looselyEquals_comm w v]
      simp [Bool.and_comm]

theorem foldl_addNew (values : List Value) :
    values.foldl addNew [] = values.eraseDupsBy Value.looselyEquals := by
  rw [foldl_addNew_append]
  simp

end QueryShapes.Adjacency
