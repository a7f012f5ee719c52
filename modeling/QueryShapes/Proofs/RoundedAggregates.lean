import QueryShapes.Proofs.IntegerSums
import QueryShapes.Proofs.RoundedIntegers

/-!
# Rounded aggregates

A rounded aggregate gives an integer of 64 bits for a decimal, and a decimal may lie beyond all of these.

- `round_withinHalf`: the nearest integer is at most one half away.
- `one_dvd_units`: doubles of more than 52 binary digits before the point have none behind it.
- `withinHalf_roundToInt64_iff`: the integer of 64 bits is at most one half away exactly where the
  double lies in the range of these integers.
- `evaluate_roundsTo_iff`: so it is for every aggregate, and rounding leaves all but decimals alone.
-/

namespace QueryShapes

namespace Double

/-- The integer is at most one half away. -/
def WithinHalf (x : Double) (n : Int) : Prop := 2 * (n * one - x.signedUnits).natAbs ≤ one

instance (x : Double) (n : Int) : Decidable (x.WithinHalf n) := inferInstanceAs (Decidable (_ ≤ _))

/-- Not below the least integer of 64 bits, and below what follows the greatest. -/
def InInt64Range (x : Double) : Prop :=
  -2 ^ 63 * (one : Int) ≤ x.signedUnits ∧ x.signedUnits < 2 ^ 63 * (one : Int)

instance (x : Double) : Decidable x.InInt64Range := inferInstanceAs (Decidable (_ ∧ _))

theorem one_pos : 0 < one := Nat.pos_of_ne_zero one_ne_zero

/-- The absolute value of the nearest integer. -/
def roundedUnits (x : Double) : Nat := (2 * x.units + one) / (2 * one)

theorem roundedUnits_bounds (x : Double) : 2 * (x.roundedUnits * one) ≤ 2 * x.units + one ∧
    2 * x.units < 2 * (x.roundedUnits * one) + one := by
  have positive := one_pos
  have split := Nat.div_add_mod (2 * x.units + one) (2 * one)
  have rest := Nat.mod_lt (2 * x.units + one) (Nat.mul_pos Nat.two_pos positive)
  have product : 2 * one * ((2 * x.units + one) / (2 * one)) = 2 * (x.roundedUnits * one) := by
    rw [roundedUnits, Nat.mul_assoc, Nat.mul_comm one]
  omega

theorem sign_cases (x : Double) :
    x.signedUnits = x.units ∧ x.round = x.roundedUnits ∨
      x.signedUnits = -x.units ∧ x.round = -x.roundedUnits := by
  have rounded : x.round = if x.negative then -(x.roundedUnits : Int) else x.roundedUnits := rfl
  rw [rounded, signedUnits]
  cases x.negative <;> simp

theorem round_withinHalf (x : Double) : x.WithinHalf x.round := by
  obtain ⟨above, below⟩ := roundedUnits_bounds x
  unfold WithinHalf
  obtain ⟨value, rounded⟩ | ⟨value, rounded⟩ := sign_cases x
  · rw [value, rounded]
    omega
  · rw [value, rounded, Int.neg_mul]
    omega

/-- A double that needs all its digits before the point has none behind it. -/
theorem one_dvd_units {x : Double} (large : 2 ^ 52 * one ≤ x.units) : one ∣ x.units := by
  obtain ⟨negative, magnitude⟩ := x
  obtain ⟨k, scale, rfl, small, normal⟩ := exists_fields magnitude
  obtain ⟨places, hplaces⟩ : ∃ places, 1074 = places := ⟨_, rfl⟩
  rw [units_fields negative small normal, one_eq hplaces] at *
  have reaches : 2 ^ places < 2 ^ (scale + 1) := by
    have digits : k * 2 ^ scale < 2 ^ 53 * 2 ^ scale :=
      Nat.mul_lt_mul_of_pos_right small (Nat.two_pow_pos scale)
    rw [Nat.pow_succ]
    omega
  have within : places ≤ scale := by
    have := (Nat.pow_lt_pow_iff_right (by decide)).mp reaches
    omega
  exact Nat.dvd_mul_left_of_dvd (Nat.pow_dvd_pow 2 within) k

theorem roundedUnits_of_whole {x : Double} {q : Nat} (whole : x.units = q * one) :
    x.roundedUnits = q := by
  obtain ⟨above, below⟩ := roundedUnits_bounds x
  have positive := one_pos
  rw [whole] at above below
  obtain less | same | more := Nat.lt_trichotomy x.roundedUnits q
  · have := Nat.mul_le_mul_right one less
    rw [Nat.succ_mul] at this
    omega
  · exact same
  · have := Nat.mul_le_mul_right one more
    rw [Nat.succ_mul] at this
    omega

theorem roundedUnits_le {x : Double} {bound : Nat} (h : x.units ≤ bound * one) :
    x.roundedUnits ≤ bound := by
  obtain ⟨above, _⟩ := roundedUnits_bounds x
  have positive := one_pos
  refine Nat.le_of_not_lt fun more => ?_
  have := Nat.mul_le_mul_right one more
  rw [Nat.succ_mul] at this
  omega

/-- From 2^52 on no rounding up to the next integer takes place. -/
theorem roundedUnits_lt {x : Double} (h : x.units < 2 ^ 63 * one) : x.roundedUnits < 2 ^ 63 := by
  by_cases large : 2 ^ 52 * one ≤ x.units
  · obtain ⟨q, whole⟩ := one_dvd_units large
    rw [Nat.mul_comm] at whole
    rw [roundedUnits_of_whole whole]
    rw [whole] at h
    exact Nat.lt_of_mul_lt_mul_right h
  · have small : x.roundedUnits ≤ 2 ^ 52 := roundedUnits_le (by omega)
    omega

theorem round_inRange {x : Double} (inside : x.InInt64Range) : -2 ^ 63 ≤ x.round ∧ x.round < 2 ^ 63 := by
  unfold InInt64Range at inside
  obtain ⟨value, rounded⟩ | ⟨value, rounded⟩ := sign_cases x
  · have below : x.roundedUnits < 2 ^ 63 := roundedUnits_lt (by omega)
    omega
  · have above : x.roundedUnits ≤ 2 ^ 63 := roundedUnits_le (by omega)
    omega

/-- Beyond the range of integers of 64 bits, none of them is close. -/
theorem not_withinHalf {x : Double} (outside : ¬x.InInt64Range) (n : Int64) : ¬x.WithinHalf n.toInt := by
  have positive := one_pos
  have least : -2 ^ 63 * (one : Int) ≤ n.toInt * one :=
    Int.mul_le_mul_of_nonneg_right n.minValue_le_toInt (by omega)
  have greatest : n.toInt * one ≤ (2 ^ 63 - 1) * (one : Int) :=
    Int.mul_le_mul_of_nonneg_right n.toInt_le (by omega)
  unfold InInt64Range at outside
  unfold WithinHalf
  obtain ⟨value, _⟩ | ⟨value, _⟩ := sign_cases x
  · omega
  · -- The doubles before the least integer are whole, so the next one is a whole unit away.
    have beyond : 2 ^ 63 * one < x.units := by omega
    obtain ⟨q, whole⟩ := one_dvd_units (x := x) (by omega)
    rw [Nat.mul_comm] at whole
    rw [whole] at beyond
    have next := Nat.mul_le_mul_right one (Nat.lt_of_mul_lt_mul_right beyond)
    rw [Nat.succ_mul] at next
    omega

theorem withinHalf_roundToInt64_iff {x : Double} (finite : x.isFinite) :
    x.WithinHalf x.roundToInt64.toInt ↔ x.InInt64Range := by
  constructor
  · intro within
    exact Decidable.not_not.mp fun outside => not_withinHalf outside _ within
  · intro inside
    obtain ⟨least, greatest⟩ := round_inRange inside
    have number : x.isNaN = false := by
      simp only [isFinite, isNaN, decide_eq_true_eq, decide_eq_false_iff_not] at finite ⊢
      omega
    have clamped : max Int64.minValue.toInt (min Int64.maxValue.toInt x.round) = x.round := by
      simp only [Int64.toInt_minValue, Int64.toInt_maxValue]
      omega
    rw [roundToInt64, number, clamped]
    simp only [Bool.false_eq_true, ↓reduceIte]
    rw [Int64.toInt_ofInt_of_le least greatest]
    exact round_withinHalf x

end Double

/-- The second value is what rounding makes of the first: of a decimal an integer at most one half away, and
of anything else the same. -/
def Value.RoundsTo : Value → Value → Prop
  | .decimal x, w => ∃ n : Int64, w = .integer n ∧ x.WithinHalf n.toInt
  | v, w => w = v

/-- Decimals are finite. -/
def Value.IsFinite : Value → Prop
  | .decimal x => x.isFinite
  | _ => True

/-- Decimals lie in the range of integers of 64 bits. -/
def Value.InInt64Range : Value → Prop
  | .decimal x => x.InInt64Range
  | _ => True

namespace Aggregate

theorem roundsTo_roundValue_iff {v : Value} (finite : v.IsFinite) :
    v.RoundsTo (roundValue v) ↔ v.InInt64Range := by
  cases v with
  | decimal x =>
    rw [Value.InInt64Range, ← Double.withinHalf_roundToInt64_iff finite]
    simp [Value.RoundsTo, roundValue]
  | _ => simp [Value.RoundsTo, Value.InInt64Range, roundValue]

/-- An aggregate fails with rounding as it does without. If it gives a value that is not an infinity or a
non-number, rounding makes of it what it should exactly if it is no decimal beyond the integers of 64
bits. -/
theorem evaluate_roundsTo_iff (call : Aggregate) (group : List Tuple) :
    (∀ fault, { call with rounded := true }.evaluate group = .error fault ↔
      { call with rounded := false }.evaluate group = .error fault) ∧
    ∀ v, { call with rounded := false }.evaluate group = .ok v → v.IsFinite →
      ∃ w, { call with rounded := true }.evaluate group = .ok w ∧ (v.RoundsTo w ↔ v.InInt64Range) := by
  have rounded : { call with rounded := true }.evaluate group =
      ({ call with rounded := false }.evaluate group).map roundValue := rfl
  rw [rounded]
  refine ⟨fun fault => map_eq_error_iff, fun v value finite => ?_⟩
  rw [value]
  exact ⟨_, rfl, roundsTo_roundValue_iff finite⟩

/-- The sum of two and a half and one. -/
theorem evaluate_roundsTo_iff_half :
    (Aggregate.mk .sum (some ⟨none, "n"⟩) false).evaluate
      (Sample.counts [.decimal ⟨false, 0x4004000000000000⟩, .integer 1]) =
        .ok (.decimal ⟨false, 0x400C000000000000⟩) ∧
    (Value.decimal ⟨false, 0x400C000000000000⟩).IsFinite ∧
    ∃ w, (Aggregate.mk .sum (some ⟨none, "n"⟩) true).evaluate
      (Sample.counts [.decimal ⟨false, 0x4004000000000000⟩, .integer 1]) = .ok w ∧
        (Value.decimal ⟨false, 0x400C000000000000⟩).RoundsTo w := by
  have value : (Aggregate.mk .sum (some ⟨none, "n"⟩) false).evaluate
      (Sample.counts [.decimal ⟨false, 0x4004000000000000⟩, .integer 1]) =
        .ok (.decimal ⟨false, 0x400C000000000000⟩) := by decide +kernel
  have finite : Double.isFinite ⟨false, 0x400C000000000000⟩ = true := by decide +kernel
  have inside : Double.InInt64Range ⟨false, 0x400C000000000000⟩ := by decide +kernel
  obtain ⟨w, rounded, exact⟩ := (evaluate_roundsTo_iff ⟨.sum, some ⟨none, "n"⟩, false⟩ _).2 _ value finite
  exact ⟨value, finite, w, rounded, exact.mpr inside⟩

/-- Twice the greatest integer adds up to 2^64, and the rounded sum is the greatest integer. -/
theorem rounding_saturates :
    (Aggregate.mk .sum (some ⟨none, "n"⟩) false).evaluate (Sample.counts
      [.integer 9223372036854775807, .integer 9223372036854775807]) =
        .ok (.decimal ⟨false, 0x43F0000000000000⟩) ∧
    Double.isFinite ⟨false, 0x43F0000000000000⟩ = true ∧
    (Aggregate.mk .sum (some ⟨none, "n"⟩) true).evaluate (Sample.counts
      [.integer 9223372036854775807, .integer 9223372036854775807]) =
        .ok (.integer 9223372036854775807) ∧
    ¬Double.WithinHalf ⟨false, 0x43F0000000000000⟩ 9223372036854775807 := by
  decide +kernel

end Aggregate

end QueryShapes
