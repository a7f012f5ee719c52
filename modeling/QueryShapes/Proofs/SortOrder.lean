import QueryShapes.Proofs.Sorting

/-!
# The sort order against comparison

The sort order ranks values of all kinds, those that do not compare included. Where two values
compare, it says the same, but for the two zeros.

- `sortOrder_total_preorder`: the sort order is a total preorder, and what is tied in it has the same
  number, characters or truth.
- `RisesAtZero`: a negative zero against a zero, which comparison takes for equal and the sort order
  does not.
- `sortOrder_agrees`: where values compare, the sort order says the same unless one rises at zero.
  Values that compare as equal keep their order when they are sorted, unless a negative zero stands
  before a zero.
-/

namespace QueryShapes

theorem compare_congr {a b c d : Int} (below : a < b ↔ c < d) (above : b < a ↔ d < c) :
    compare a b = compare c d := by
  cases order : compare c d with
  | lt => exact Int.compare_eq_lt.mpr (below.mpr (Int.compare_eq_lt.mp order))
  | gt => exact Int.compare_eq_gt.mpr (above.mpr (Int.compare_eq_gt.mp order))
  | eq =>
    rw [Int.compare_eq_eq] at order ⊢
    omega

namespace Double

/-- One is negative zero, the other is zero. -/
def RisesAtZero (x y : Double) : Prop := x = ⟨true, 0⟩ ∧ y = ⟨false, 0⟩

/-- The total order splits the place that both zeros share. -/
theorem totalPlace_lt_iff {x y : Double} :
    x.totalPlace < y.totalPlace ↔ x.place < y.place ∨ x.RisesAtZero y := by
  obtain ⟨xs, xm⟩ := x
  obtain ⟨ys, ym⟩ := y
  cases xs <;> cases ys <;> simp [totalPlace, place, RisesAtZero] <;> omega

theorem totalOrder_eq_iff {x y : Double} : x.totalOrder y = .eq ↔ x = y := by
  rw [totalOrder, Int.compare_eq_eq]
  obtain ⟨xs, xm⟩ := x
  obtain ⟨ys, ym⟩ := y
  cases xs <;> cases ys <;> simp [totalPlace] <;> omega

theorem totalOrder_of_rises {x y : Double} (rises : x.RisesAtZero y) : x.totalOrder y = .lt :=
  Int.compare_eq_lt.mpr (totalPlace_lt_iff.mpr (.inr rises))

theorem totalOrder_of_level {x y : Double} (level : ¬x.RisesAtZero y) (level' : ¬y.RisesAtZero x) :
    x.totalOrder y = compare x.place y.place := by
  apply compare_congr
  · simp [totalPlace_lt_iff, level]
  · simp [totalPlace_lt_iff, level']

theorem compare?_of_rises {x y : Double} (rises : x.RisesAtZero y) : x.compare? y = some .eq := by
  obtain ⟨rfl, rfl⟩ := rises
  rfl

/-- Doubles that compare stand in the total order as they compare, unless one rises at zero. -/
theorem totalOrder_of_compare? {x y : Double} {o : Ordering} (h : x.compare? y = some o) :
    x.totalOrder y = o ↔ ¬x.RisesAtZero y ∧ ¬y.RisesAtZero x := by
  by_cases rises : x.RisesAtZero y
  · obtain rfl := Option.some_inj.mp (h.symm.trans (compare?_of_rises rises))
    simp [totalOrder_of_rises rises, rises]
  by_cases falls : y.RisesAtZero x
  · have equal : x.compare? y = some .eq := by
      rw [compare?_flip y x, compare?_of_rises falls]
      rfl
    obtain rfl := Option.some_inj.mp (h.symm.trans equal)
    simp [totalOrder_flip y x, totalOrder_of_rises falls, falls]
  · have places : compare x.place y.place = o := by
      unfold compare? at h
      split at h
      · cases h
      · exact Option.some_inj.mp h
    simp [totalOrder_of_level rises falls, places, rises, falls]

end Double

namespace Value

/-! ## A total preorder -/

theorem sortOrder_eq_iff {a b : Value} : a.sortOrder b = .eq ↔
    a.number? = b.number? ∧ a.text? = b.text? ∧ a.boolean? = b.boolean? := by
  cases a <;> cases b <;>
    simp [sortOrder, compare?, number?, text?, boolean?, rank, Double.totalOrder_eq_iff]

theorem sortOrder_of_rank {a b : Value} (below : a.rank < b.rank) : a.sortOrder b = .lt := by
  have ranks : compareOn rank a b = .lt := Nat.compare_eq_lt.mpr below
  rw [sortOrder_eq_lex, compareLex, ranks]
  rfl

/-- The sort order is a total preorder of all values. It puts nulls before booleans, these before numbers
and these before texts and dates. Values are tied in it when they have the same number, down to the sign
of a zero and the content of a non-number, the same characters or the same truth. -/
theorem sortOrder_total_preorder (a b c : Value) :
    a.sortOrder a = .eq ∧ b.sortOrder a = (a.sortOrder b).swap ∧
    (a.sortOrder b ≠ .gt → b.sortOrder c ≠ .gt → a.sortOrder c ≠ .gt) ∧
    (a.rank < b.rank → a.sortOrder b = .lt) ∧
    (a.sortOrder b = .eq ↔
      a.number? = b.number? ∧ a.text? = b.text? ∧ a.boolean? = b.boolean?) := by
  refine ⟨Std.ReflCmp.compare_self, sortOrder_flip a b, ?_, sortOrder_of_rank, sortOrder_eq_iff⟩
  simp only [← Ordering.isLE_iff_ne_gt]
  exact Std.TransCmp.isLE_trans

/-- A truth, negative zero as a decimal and zero as an integer. -/
theorem sortOrder_total_preorder_zeros :
    (boolean true).sortOrder (decimal ⟨true, 0⟩) ≠ .gt ∧
    (decimal ⟨true, 0⟩).sortOrder (integer 0) ≠ .gt ∧
    (boolean true).sortOrder (integer 0) ≠ .gt ∧
    (boolean true).rank < (decimal ⟨true, 0⟩).rank ∧
    (boolean true).sortOrder (decimal ⟨true, 0⟩) = .lt := by
  obtain ⟨_, _, trans, ranked, _⟩ :=
    sortOrder_total_preorder (boolean true) (decimal ⟨true, 0⟩) (integer 0)
  have first : (boolean true).sortOrder (decimal ⟨true, 0⟩) ≠ .gt := by decide
  have second : (decimal ⟨true, 0⟩).sortOrder (integer 0) ≠ .gt := by decide
  have below : (boolean true).rank < (decimal ⟨true, 0⟩).rank := by decide
  exact ⟨first, second, trans first second, below, ranked below⟩

/-! ## Values that compare -/

/-- One value is negative zero, the other is zero. -/
def RisesAtZero (a b : Value) : Prop :=
  a.number? = some ⟨true, 0⟩ ∧ b.number? = some ⟨false, 0⟩

instance (a b : Value) : Decidable (a.RisesAtZero b) := inferInstanceAs (Decidable (_ ∧ _))

theorem risesAtZero_iff {a b : Value} {x y : Double} (ha : a.number? = some x)
    (hb : b.number? = some y) : a.RisesAtZero b ↔ x.RisesAtZero y := by
  simp [RisesAtZero, Double.RisesAtZero, ha, hb]

theorem sortOrder_of_compare? {a b : Value} {o : Ordering} (h : a.compare? b = some o) :
    a.sortOrder b = o ↔ ¬a.RisesAtZero b ∧ ¬b.RisesAtZero a := by
  cases ha : a.number? with
  | none => simp [sortOrder, ha, h, RisesAtZero]
  | some x =>
    cases hb : b.number? with
    | none => simp [sortOrder, ha, hb, h, RisesAtZero]
    | some y =>
      have numbers : x.compare? y = some o := by simpa [compare?, ha, hb] using h
      have order : a.sortOrder b = x.totalOrder y := by simp [sortOrder, ha, hb]
      rw [order, risesAtZero_iff ha hb, risesAtZero_iff hb ha]
      exact Double.totalOrder_of_compare? numbers

/-- What may stand first of two loosely equal values. -/
theorem isLE_of_looselyEquals {a b : Value} (equal : a.looselyEquals b) (level : ¬a.RisesAtZero b) :
    (b.sortOrder a).isLE := by
  have compared : b.compare? a = some .eq := eq_of_beq (looselyEquals_symm equal)
  by_cases rises : b.RisesAtZero a
  · have below : b.sortOrder a = .lt := by
      rw [sortOrder, rises.1, rises.2]
      exact Double.totalOrder_of_rises ⟨rfl, rfl⟩
    rw [below]
    rfl
  · rw [(sortOrder_of_compare? compared).mpr ⟨rises, level⟩]
    rfl

/-- Some of the items, if they stand in descending order, stand in that order when all are sorted. -/
theorem sublist_sortDescending {α : Type} {items kept : List (Value × α)} (within : kept.Sublist items)
    (descends : kept.Pairwise fun x y => (y.1.sortOrder x.1).isLE) :
    (kept.map Prod.snd).Sublist (sortDescending items) := by
  have sorted : sortDescending items = (items.mergeSort (before Prod.fst)).map Prod.snd := by
    rw [sortDescending]
    congr 2
    funext x y
    exact Ordering.isLE_eq_not_beq_gt.symm
  rw [sorted]
  exact (List.sublist_mergeSort (before_trans Prod.fst) (before_total Prod.fst) descends within).map _

/-- Where two values compare, the sort order says what comparison says, unless one is negative zero and
the other is zero. Of items that are sorted by their values, some whose values are loosely equal keep their
order, unless a negative zero stands before a zero. -/
theorem sortOrder_agrees {α : Type} (a b : Value) (items kept : List (Value × α)) :
    (∀ o, a.compare? b = some o →
      (a.sortOrder b = o ↔ ¬a.RisesAtZero b ∧ ¬b.RisesAtZero a)) ∧
    (kept.Sublist items →
      (kept.Pairwise fun x y => x.1.looselyEquals y.1 ∧ ¬x.1.RisesAtZero y.1) →
      (kept.map Prod.snd).Sublist (sortDescending items)) := by
  refine ⟨fun o => sortOrder_of_compare?, ?_⟩
  intro within level
  apply sublist_sortDescending within
  refine level.imp fun {x y} h => ?_
  exact isLE_of_looselyEquals h.1 h.2

set_option maxRecDepth 4000 in
/-- An integer and a decimal of one number around a text. -/
theorem sortOrder_agrees_two :
    (integer 2).compare? (decimal (.ofInt 2)) = some .eq ∧
    (integer 2).sortOrder (decimal (.ofInt 2)) = .eq ∧
    ["first", "second"].Sublist (sortDescending
      [(integer 2, "first"), (text "two", "other"), (decimal (.ofInt 2), "second")]) := by
  have equal : (integer 2).compare? (decimal (.ofInt 2)) = some .eq := by decide
  have level : ¬(integer 2).RisesAtZero (decimal (.ofInt 2)) := by decide
  have level' : ¬(decimal (.ofInt 2)).RisesAtZero (integer 2) := by decide
  have loose : (integer 2).looselyEquals (decimal (.ofInt 2)) := by simp [looselyEquals, equal]
  obtain ⟨agrees, kept⟩ := sortOrder_agrees (integer 2) (decimal (.ofInt 2))
    [(integer 2, "first"), (text "two", "other"), (decimal (.ofInt 2), "second")]
    [(integer 2, "first"), (decimal (.ofInt 2), "second")]
  refine ⟨equal, (agrees .eq equal).mpr ⟨level, level'⟩, kept ?_ ?_⟩
  · exact .cons_cons _ (.cons _ (.refl _))
  · exact List.pairwise_pair.mpr ⟨loose, level⟩

/-- Negative zero and zero compare as equal and change places when they are sorted. -/
theorem sortOrder_splits_zeros :
    (decimal ⟨true, 0⟩).compare? (decimal ⟨false, 0⟩) = some .eq ∧
    (decimal ⟨true, 0⟩).sortOrder (decimal ⟨false, 0⟩) = .lt ∧
    (decimal ⟨true, 0⟩).looselyEquals (decimal ⟨false, 0⟩) = true ∧
    sortDescending [(decimal ⟨true, 0⟩, "first"), (decimal ⟨false, 0⟩, "second")] =
      ["second", "first"] := by
  refine ⟨by decide, by decide, by decide, ?_⟩
  have order : (decimal ⟨false, 0⟩).sortOrder (decimal ⟨true, 0⟩) = .gt := by decide
  simp [sortDescending, List.mergeSort, List.MergeSort.Internal.splitInTwo, order]

end Value

end QueryShapes
