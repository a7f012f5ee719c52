import Mathlib.Algebra.Group.Int.Defs
import QueryShapes.Evaluation.Tuple
import QueryShapes.Proofs.IdOrder

/-!
# Comparing integers

Integers are compared as the doubles nearest to them.

- `ToldApart`: the nearest doubles of two integers are different, unless the integers are the same.
- `sortOrder_integer`: the sort order of integers is that of the nearest integers of 53 digits, as
  comparison is.
- `comparesExactly_iff`: integers are compared, sorted, looked up and filtered exactly where they are
  told apart. Elsewhere they are taken for equal, and never for reversed.
-/

namespace QueryShapes

namespace Value

open Double

/-- The two integers have different nearest doubles, or they are the same. -/
def ToldApart (a b : Int64) : Prop := significant a.toInt = significant b.toInt → a = b

instance (a b : Int64) : Decidable (ToldApart a b) := inferInstanceAs (Decidable (_ → _))

section
variable (a b : Int64)

/-- No integer is negative zero. -/
theorem not_risesAtZero_integer (v : Value) : ¬(integer a).RisesAtZero v := by
  rintro ⟨zero, _⟩
  have number : ofInt a.toInt = ⟨true, 0⟩ := Option.some_inj.mp zero
  have negative : a.toInt < 0 := of_decide_eq_true (congrArg Double.negative number)
  have nothing : rounded a.toInt.natAbs * one = 0 := by
    rw [← units_ofInt (natAbs_toInt_le a), number]
    simp [units]
  have some : 0 < rounded a.toInt.natAbs := by
    have least : rounded 1 ≤ rounded a.toInt.natAbs := rounded_mono (by omega)
    rwa [rounded_exact (by decide)] at least
  exact Nat.ne_of_gt (Nat.mul_pos some (Nat.pos_of_ne_zero Double.one_ne_zero)) nothing

theorem sortOrder_integer : (integer a).sortOrder (integer b) =
    compare (significant a.toInt) (significant b.toInt) :=
  (sortOrder_of_compare? (compare?_integer a b)).mpr
    ⟨not_risesAtZero_integer a _, not_risesAtZero_integer b _⟩

end

/-! ## Integers that are told apart -/

section
variable {a b : Int64}

theorem significant_lt_iff : significant a.toInt < significant b.toInt ↔
    a.toInt < b.toInt ∧ ToldApart a b := by
  constructor
  · intro below
    refine ⟨Int.not_le.mp fun above => ?_, fun same => ?_⟩
    · exact Int.not_le.mpr below (significant_mono above)
    · omega
  · rintro ⟨below, apart⟩
    refine Int.lt_iff_le_and_ne.mpr ⟨significant_mono (Int.le_of_lt below), fun same => ?_⟩
    rw [apart same] at below
    exact absurd below (Int.lt_irrefl _)

theorem ToldApart.symm (apart : ToldApart a b) : ToldApart b a := by
  intro same
  exact (apart same.symm).symm

theorem compare_significant_iff :
    compare (significant a.toInt) (significant b.toInt) = compare a.toInt b.toInt ↔ ToldApart a b := by
  constructor
  · intro exact same
    have equal : compare a.toInt b.toInt = .eq := by rw [← exact, Int.compare_eq_eq, same]
    exact Int64.toInt_inj.mp (Int.compare_eq_eq.mp equal)
  · intro apart
    apply compare_congr
    · rw [significant_lt_iff, and_iff_left apart]
    · rw [significant_lt_iff, and_iff_left apart.symm]

/-- Integers that are not told apart are taken for equal. -/
theorem compare_significant_or : compare (significant a.toInt) (significant b.toInt) =
    compare a.toInt b.toInt ∨ compare (significant a.toInt) (significant b.toInt) = .eq := by
  by_cases same : significant a.toInt = significant b.toInt
  · exact .inr (Int.compare_eq_eq.mpr same)
  · exact .inl (compare_significant_iff.mpr fun equal => absurd equal same)

/-- An integer below 2^53 is told apart from every other. -/
theorem toldApart_of_small (small : a.toInt.natAbs < 2 ^ 53) : ToldApart a b := by
  intro same
  rw [significant_exact (Nat.le_of_lt small)] at same
  apply Int64.toInt_inj.mp
  by_cases smallB : b.toInt.natAbs ≤ 2 ^ 53
  · rw [same, significant_exact smallB]
  · -- Beyond 2^53 rounding stays beyond 2^53.
    have top : significant (2 ^ 53) = 2 ^ 53 := significant_exact (by decide)
    have bottom : significant (-2 ^ 53) = -2 ^ 53 := significant_exact (by decide)
    by_cases positive : 0 < b.toInt
    · have beyond : significant (2 ^ 53) ≤ significant b.toInt := significant_mono (by omega)
      omega
    · have beyond : significant b.toInt ≤ significant (-2 ^ 53) := significant_mono (by omega)
      omega

/-- Integers that lie more than 1024 apart are told apart. -/
theorem toldApart_of_distant (distant : 1024 < (a.toInt - b.toInt).natAbs) : ToldApart a b := by
  intro same
  have errorA := significant_error (natAbs_toInt_le a)
  have errorB := significant_error (natAbs_toInt_le b)
  omega

end

/-- Wherever two integers are compared, they are compared as integers: in either order, in a look-up, and in
a condition of a filter or a join. -/
structure ComparesExactly (a b : Int64) : Prop where
  compare? : (integer a).compare? (integer b) = some (compare a.toInt b.toInt)
  sortOrder : (integer a).sortOrder (integer b) = compare a.toInt b.toInt
  looselyEquals : (integer a).looselyEquals (integer b) = true ↔ a = b
  satisfies : ∀ (t : Tuple) (p : Predicate), t.evaluate? p.left = some (integer a) →
    t.evaluate? p.right = some (integer b) → t.satisfies p = p.op.holds (compare a.toInt b.toInt)

theorem comparesExactly_iff_toldApart {a b : Int64} : ComparesExactly a b ↔ ToldApart a b := by
  have compared := compare?_integer a b
  constructor
  · intro exact
    exact compare_significant_iff.mp (Option.some_inj.mp (compared.symm.trans exact.compare?))
  · intro apart
    have order := compare_significant_iff.mpr apart
    rw [order] at compared
    refine ⟨compared, (sortOrder_integer a b).trans order, ?_, ?_⟩
    · simp [Value.looselyEquals, compared, Int64.toInt_inj]
    · intro t p left right
      simp [Tuple.satisfies, left, right, compared]

end Value

/-! ## Ids in storage order -/

/-- A relation of integer ids counts as ordered exactly if every id is below all later ones and told apart
from them. -/
theorem Relation.isOrderedById_integers {relation : Relation} {ids : List Int64}
    (stored : relation.rows.map (·.get? "id") = ids.map fun id => some (Value.integer id)) :
    relation.isOrderedById ↔ ids.Pairwise fun a b => a.toInt < b.toInt ∧ Value.ToldApart a b := by
  let ascends (x y : Option Value) : Prop :=
    ∃ u v, x = some u ∧ y = some v ∧ u.compare? v = some .lt
  have integers (a b : Int64) : ascends (some (.integer a)) (some (.integer b)) ↔
      a.toInt < b.toInt ∧ Value.ToldApart a b := by
    simp [ascends, Value.compare?_integer, Int.compare_eq_lt, Value.significant_lt_iff]
  calc
    relation.isOrderedById ↔ relation.rows.Pairwise fun a b => idsAscend a b :=
      isOrderedById_iff_pairwise
    _ ↔ (relation.rows.map (·.get? "id")).Pairwise ascends := by
      rw [List.pairwise_map]
      simp only [idsAscend_iff, ascends]
    _ ↔ ids.Pairwise fun a b => a.toInt < b.toInt ∧ Value.ToldApart a b := by
      rw [stored, List.pairwise_map]
      simp only [integers]

namespace Value

/-- Two integers are compared exactly if and only if they are told apart, as they are where one of them is
below 2^53 in absolute value or they lie more than 1024 apart. Other integers are compared as well, and
taken for equal where they are not compared exactly. Integer ids that are told apart are ordered by storage
if they ascend. -/
theorem comparesExactly_iff (a b : Int64) (relation : Relation) (ids : List Int64) :
    (ComparesExactly a b ↔ ToldApart a b) ∧
    (a.toInt.natAbs < 2 ^ 53 ∨ b.toInt.natAbs < 2 ^ 53 ∨ 1024 < (a.toInt - b.toInt).natAbs →
      ToldApart a b) ∧
    (∃ o, (integer a).compare? (integer b) = some o ∧ (integer a).sortOrder (integer b) = o ∧
      (o = compare a.toInt b.toInt ∨ o = .eq)) ∧
    (relation.rows.map (·.get? "id") = ids.map (fun id => some (integer id)) →
      (relation.isOrderedById ↔ ids.Pairwise fun a b => a.toInt < b.toInt ∧ ToldApart a b)) := by
  refine ⟨comparesExactly_iff_toldApart, ?_,
    ⟨_, compare?_integer a b, sortOrder_integer a b, compare_significant_or⟩,
    Relation.isOrderedById_integers⟩
  rintro (small | small | distant)
  · exact toldApart_of_small small
  · exact (toldApart_of_small small).symm
  · exact toldApart_of_distant distant

/-- The greatest integer of 64 bits against a small one, and the ids of the sample's logs. -/
theorem comparesExactly_iff_logs :
    (3 : Int64).toInt.natAbs < 2 ^ 53 ∧ ComparesExactly 9223372036854775807 3 ∧
    (Sample.logs.rows.map (·.get? "id") =
      [1, 2, 3, 4, 5, 6, 7].map fun id : Int64 => some (integer id)) ∧
    Sample.logs.isOrderedById := by
  obtain ⟨exact, apart, _, ordered⟩ :=
    comparesExactly_iff 9223372036854775807 3 Sample.logs [1, 2, 3, 4, 5, 6, 7]
  have small : (3 : Int64).toInt.natAbs < 2 ^ 53 := by decide
  have ids : Sample.logs.rows.map (·.get? "id") =
    [1, 2, 3, 4, 5, 6, 7].map fun id : Int64 => some (integer id) := by decide
  refine ⟨small, exact.mpr (apart (.inr (.inl small))), ids, (ordered ids).mpr ?_⟩
  decide

set_option maxRecDepth 4000 in
/-- 2^53 and the integer after it are taken for equal, and ids that ascend from one to the other do not
count as ordered. -/
theorem integers_confused :
    (9007199254740992 : Int64) ≠ 9007199254740993 ∧
    (integer 9007199254740992).compare? (integer 9007199254740993) = some .eq ∧
    (integer 9007199254740992).sortOrder (integer 9007199254740993) = .eq ∧
    compare (9007199254740992 : Int64).toInt (9007199254740993 : Int64).toInt = .lt ∧
    Relation.isOrderedById ⟨"t", [.ofList [("id", integer 9007199254740992)],
      .ofList [("id", integer 9007199254740993)]]⟩ = false := by
  decide

end Value

end QueryShapes
