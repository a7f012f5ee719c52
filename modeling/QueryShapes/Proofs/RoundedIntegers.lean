import Mathlib.Algebra.Group.Nat.Defs
import Mathlib.Order.Monotone.Basic
import QueryShapes.Proofs.SortOrder

/-!
# Integers rounded to doubles

An integer beyond 2^53 stands for the double nearest to it. Rounding may bring integers together, and it
never brings them out of order.

- `compare_place`: the places of doubles order as their values do.
- `roundEven_mono`, `roundEven_error`: rounding a quotient keeps the order and moves it by half a unit
  at most.
- `significant`: the integer of 53 binary digits nearest to an integer.
- `signedUnits_ofInt`: the double of an integer of 64 bits has the value of that integer.
- `significant_mono`, `significant_exact`, `significant_error`: it keeps the order, is the integer itself
  up to 2^53, and is off by 512 at most up to 2^63.
- `compare?_integer`: integers compare as the integers of 53 digits nearest to them, so up to 2^53 they
  compare as integers.
-/

namespace QueryShapes

namespace Double

/-! ## Doubles in the order of their values -/

/-- The units of a double whose fields read `scale` and, with the leading digit, `k`. -/
theorem units_fields (negative : Bool) {k scale : Nat} (small : k < 2 ^ 53)
    (normal : scale = 0 ∨ 2 ^ 52 ≤ k) :
    units ⟨negative, scale * fractions + k⟩ = k * 2 ^ scale := by
  have width : fractions = 2 ^ 52 := rfl
  by_cases subnormal : k < 2 ^ 52
  · obtain rfl : scale = 0 := by omega
    have exponent : k / fractions = 0 := Nat.div_eq_of_lt (by omega)
    have fraction : k % fractions = k := Nat.mod_eq_of_lt (by omega)
    simp [units, exponent, fraction]
  · -- The leading digit of `k` counts as one more in the exponent.
    have fields : scale * fractions + k = (k - fractions) + fractions * (scale + 1) := by
      rw [Nat.mul_add, Nat.mul_comm fractions scale]
      omega
    have positive : 0 < fractions := by omega
    have exponent : (scale * fractions + k) / fractions = scale + 1 := by
      rw [fields, Nat.add_mul_div_left _ _ positive, Nat.div_eq_of_lt (by omega)]
      omega
    have fraction : (scale * fractions + k) % fractions = k - fractions := by
      rw [fields, Nat.add_mul_mod_self_left, Nat.mod_eq_of_lt (by omega)]
    have whole : fractions + (k - fractions) = k := by omega
    simp [units, exponent, fraction, whole]

/-- Where the digits reach 2^53 they carry into the exponent, which keeps the value. -/
theorem units_carried (negative : Bool) {k scale : Nat} (small : k ≤ 2 ^ 53)
    (normal : scale = 0 ∨ 2 ^ 52 ≤ k) :
    units ⟨negative, scale * fractions + k⟩ = k * 2 ^ scale := by
  obtain below | rfl := Nat.lt_or_eq_of_le small
  · exact units_fields negative below normal
  · have carried : scale * fractions + 2 ^ 53 = (scale + 1) * fractions + 2 ^ 52 := by
      have width : fractions = 2 ^ 52 := rfl
      rw [Nat.add_mul]
      omega
    rw [carried, units_fields negative (by decide) (.inr (Nat.le_refl _)), Nat.pow_succ]
    omega

theorem exists_fields (magnitude : Nat) : ∃ k scale, magnitude = scale * fractions + k ∧
    k < 2 ^ 53 ∧ (scale = 0 ∨ 2 ^ 52 ≤ k) := by
  have width : fractions = 2 ^ 52 := rfl
  have split := Nat.div_add_mod' magnitude fractions
  have fraction : magnitude % fractions < fractions := Nat.mod_lt _ (by omega)
  cases exponent : magnitude / fractions with
  | zero =>
    rw [exponent] at split
    exact ⟨magnitude % fractions, 0, by omega, by omega, .inl rfl⟩
  | succ scale =>
    rw [exponent, Nat.add_mul] at split
    exact ⟨fractions + magnitude % fractions, scale, by omega, by omega, .inr (by omega)⟩

theorem units_strictMono (negative : Bool) : StrictMono fun m => units ⟨negative, m⟩ := by
  apply strictMono_nat_of_lt_succ
  intro magnitude
  obtain ⟨k, scale, rfl, small, normal⟩ := exists_fields magnitude
  rw [Nat.add_assoc, units_fields negative small normal, units_carried negative (by omega) (by omega)]
  exact Nat.mul_lt_mul_of_pos_right (Nat.lt_succ_self k) (Nat.two_pow_pos _)

theorem place_lt_iff (x y : Double) : x.place < y.place ↔ x.signedUnits < y.signedUnits := by
  obtain ⟨xs, xm⟩ := x
  obtain ⟨ys, ym⟩ := y
  have unsigned (negative m) : units ⟨negative, m⟩ = units ⟨false, m⟩ := rfl
  have below : units ⟨false, xm⟩ < units ⟨false, ym⟩ ↔ xm < ym := (units_strictMono false).lt_iff_lt
  have above : units ⟨false, ym⟩ < units ⟨false, xm⟩ ↔ ym < xm := (units_strictMono false).lt_iff_lt
  have positive (m) : 0 < units ⟨false, m⟩ ↔ 0 < m := (units_strictMono false).lt_iff_lt (a := 0)
  have positiveX := positive xm
  have positiveY := positive ym
  cases xs <;> cases ys <;>
    simp only [place, signedUnits, unsigned, Bool.false_eq_true, ↓reduceIte] <;> omega

theorem compare_place (x y : Double) : compare x.place y.place = compare x.signedUnits y.signedUnits :=
  compare_congr (place_lt_iff x y) (place_lt_iff y x)

/-! ## Rounded quotients -/

theorem roundEven_exact (k : Nat) {den : Nat} (h : 0 < den) : roundEven (k * den) den = k := by
  have quotient : k * den / den = k := Nat.mul_div_cancel k h
  have rest : k * den % den = 0 := Nat.mul_mod_left k den
  have nonzero : ¬den = 0 := by omega
  simp [roundEven, quotient, rest, nonzero]

theorem roundEven_eq (num den : Nat) : roundEven num den =
    if den < 2 * (num % den) ∨ den = 2 * (num % den) ∧ num / den % 2 = 1 then num / den + 1
    else num / den := by
  simp [roundEven]

theorem le_roundEven (num den : Nat) : num / den ≤ roundEven num den := by
  rw [roundEven_eq]
  split <;> omega

theorem roundEven_le (num den : Nat) : roundEven num den ≤ num / den + 1 := by
  rw [roundEven_eq]
  split <;> omega

theorem roundEven_mono {a b : Nat} (den : Nat) (h : a ≤ b) : roundEven a den ≤ roundEven b den := by
  obtain below | same := Nat.lt_or_eq_of_le (Nat.div_le_div_right (c := den) h)
  · calc
      roundEven a den ≤ a / den + 1 := roundEven_le a den
      _ ≤ b / den := below
      _ ≤ roundEven b den := le_roundEven b den
  · -- Of one quotient, the larger rest is rounded up if the smaller one is.
    have rests : a % den ≤ b % den := by
      have splitA := Nat.div_add_mod a den
      have splitB := Nat.div_add_mod b den
      rw [same] at splitA
      omega
    rw [roundEven_eq, roundEven_eq, same]
    split <;> split <;> omega

theorem roundEven_scaled (num den : Nat) {factor : Nat} (h : 0 < factor) :
    roundEven (num * factor) (den * factor) = roundEven num den := by
  have quotient : num * factor / (den * factor) = num / den := Nat.mul_div_mul_right num den h
  have rest : 2 * (num * factor % (den * factor)) = 2 * (num % den) * factor := by
    rw [Nat.mul_mod_mul_right, Nat.mul_assoc]
  have above : den * factor < 2 * (num % den) * factor ↔ den < 2 * (num % den) :=
    Nat.mul_lt_mul_right h
  have half : den * factor = 2 * (num % den) * factor ↔ den = 2 * (num % den) :=
    Nat.mul_left_inj (Nat.ne_of_gt h)
  simp only [roundEven_eq, quotient, rest, above, half]

theorem roundEven_error (num : Nat) {den : Nat} (h : 0 < den) :
    2 * num ≤ 2 * (roundEven num den * den) + den ∧
      2 * (roundEven num den * den) ≤ 2 * num + den := by
  have split := Nat.div_add_mod' num den
  have rest := Nat.mod_lt num h
  rw [roundEven_eq]
  split
  · rw [Nat.add_mul]
    omega
  · omega

/-! ## Natural numbers of 53 digits -/

/-- The number of at most 53 binary digits that is nearest, a half going to the even one. -/
def rounded (n : Nat) : Nat := roundEven n (2 ^ excess n) * 2 ^ excess n

theorem rounded_of_dvd {n : Nat} (h : 2 ^ excess n ∣ n) : rounded n = n := by
  have whole : ∀ den, 0 < den → den ∣ n → roundEven n den * den = n := by
    rintro den positive ⟨k, rfl⟩
    rw [Nat.mul_comm den k, roundEven_exact k positive]
  exact whole _ (Nat.two_pow_pos _) h

theorem rounded_exact {n : Nat} (small : n ≤ 2 ^ 53) : rounded n = n := by
  apply rounded_of_dvd
  obtain below | rfl := Nat.lt_or_eq_of_le small
  · have unscaled : excess n = 0 := by
      by_cases zero : n = 0
      · simp [zero, excess]
      · have digits := (Nat.log2_lt zero).mpr below
        unfold excess
        omega
    simp [unscaled]
  · have scale : excess (2 ^ 53) = 1 := by rw [excess, Nat.log2_two_pow]
    rw [scale]
    exact Nat.pow_dvd_pow 2 (by decide)

theorem log2_mono {a b : Nat} (h : a ≤ b) : a.log2 ≤ b.log2 := by
  by_cases zero : a = 0
  · simp [zero]
  · exact (Nat.le_log2 (by omega)).mpr (Nat.le_trans (Nat.log2_self_le zero) h)

theorem roundEven_excess_le (n : Nat) : roundEven n (2 ^ excess n) ≤ 2 ^ 53 := by
  have bound : n < 2 ^ excess n * 2 ^ 53 := by
    rw [← Nat.pow_add]
    refine Nat.lt_of_lt_of_le Nat.lt_log2_self (Nat.pow_le_pow_right (by decide) ?_)
    unfold excess
    omega
  exact Nat.le_trans (roundEven_le _ _) (Nat.div_lt_of_lt_mul bound)

theorem le_roundEven_excess (n : Nat) : excess n = 0 ∨ 2 ^ 52 ≤ roundEven n (2 ^ excess n) := by
  by_cases scaled : excess n = 0
  · exact .inl scaled
  · right
    have nonzero : n ≠ 0 := by
      rintro rfl
      exact scaled (by simp [excess])
    have digits : n.log2 = 52 + excess n := by
      unfold excess at scaled ⊢
      omega
    have bound : 2 ^ 52 * 2 ^ excess n ≤ n := by
      rw [← Nat.pow_add, ← digits]
      exact Nat.log2_self_le nonzero
    exact Nat.le_trans ((Nat.le_div_iff_mul_le (Nat.two_pow_pos _)).mpr bound) (le_roundEven _ _)

theorem rounded_mono : Monotone rounded := by
  intro a b h
  have scales : excess a ≤ excess b := Nat.sub_le_sub_right (log2_mono h) 52
  obtain below | same := Nat.lt_or_eq_of_le scales
  · have large : 2 ^ 52 ≤ roundEven b (2 ^ excess b) := by
      obtain unscaled | large := le_roundEven_excess b
      · omega
      · exact large
    calc
      rounded a ≤ 2 ^ 53 * 2 ^ excess a := Nat.mul_le_mul_right _ (roundEven_excess_le a)
      _ = 2 ^ 52 * 2 ^ (excess a + 1) := by rw [Nat.pow_succ]; omega
      _ ≤ 2 ^ 52 * 2 ^ excess b := Nat.mul_le_mul_left _ (Nat.pow_le_pow_right (by decide) below)
      _ ≤ rounded b := Nat.mul_le_mul_right _ large
  · rw [rounded, rounded, same]
    exact Nat.mul_le_mul_right _ (roundEven_mono _ h)

theorem rounded_error {n : Nat} (fits : n ≤ 2 ^ 63) : n ≤ rounded n + 512 ∧ rounded n ≤ n + 512 := by
  obtain below | rfl := Nat.lt_or_eq_of_le fits
  · have scale : excess n ≤ 10 := by
      by_cases zero : n = 0
      · simp [zero, excess]
      · have digits := (Nat.log2_lt zero).mpr below
        unfold excess
        omega
    have step : 2 ^ excess n ≤ 2 ^ 10 := Nat.pow_le_pow_right (by decide) scale
    have error := roundEven_error n (Nat.two_pow_pos (excess n))
    unfold rounded
    omega
  · have scale : excess (2 ^ 63) = 11 := by rw [excess, Nat.log2_two_pow]
    have exact : rounded (2 ^ 63) = 2 ^ 63 := by
      apply rounded_of_dvd
      rw [scale]
      exact Nat.pow_dvd_pow 2 (by decide)
    omega

theorem log2_scaled {n : Nat} (h : n ≠ 0) (places : Nat) : (n * 2 ^ places).log2 = n.log2 + places := by
  have nonzero : n * 2 ^ places ≠ 0 := Nat.mul_ne_zero h (Nat.ne_of_gt (Nat.two_pow_pos _))
  rw [Nat.log2_eq_iff nonzero]
  constructor
  · rw [Nat.pow_add]
    exact Nat.mul_le_mul_right _ (Nat.log2_self_le h)
  · rw [Nat.add_right_comm, Nat.pow_add]
    exact Nat.mul_lt_mul_of_pos_right Nat.lt_log2_self (Nat.two_pow_pos _)

/-- Rounding looks at the digits alone, wherever the point stands. -/
theorem rounded_scaled (n places : Nat) : rounded (n * 2 ^ places) = rounded n * 2 ^ places := by
  by_cases zero : n = 0
  · simp [zero, rounded, roundEven_eq]
  have digits := log2_scaled zero places
  by_cases long : 52 ≤ n.log2
  · have scale : excess (n * 2 ^ places) = excess n + places := by
      unfold excess
      omega
    rw [rounded, rounded, scale, Nat.pow_add, roundEven_scaled _ _ (Nat.two_pow_pos _), Nat.mul_assoc]
  · have unscaled : excess n = 0 := by
      unfold excess
      omega
    have scale : excess (n * 2 ^ places) ≤ places := by
      unfold excess
      omega
    rw [rounded_of_dvd (Nat.dvd_mul_left_of_dvd (Nat.pow_dvd_pow 2 scale) n),
      rounded_of_dvd (by simp [unscaled])]

/-! ## Integers of 53 digits -/

/-- The integer of at most 53 binary digits that is nearest, a half going to the even one. -/
def significant (n : Int) : Int := if n < 0 then -rounded n.natAbs else rounded n.natAbs

theorem significant_exact {n : Int} (small : n.natAbs ≤ 2 ^ 53) : significant n = n := by
  unfold significant
  rw [rounded_exact small]
  split <;> omega

theorem significant_mono {a b : Int} (h : a ≤ b) : significant a ≤ significant b := by
  unfold significant
  by_cases negativeB : b < 0
  · have magnitudes : rounded b.natAbs ≤ rounded a.natAbs := rounded_mono (by omega)
    rw [if_pos negativeB, if_pos (by omega)]
    omega
  · rw [if_neg negativeB]
    by_cases negativeA : a < 0
    · rw [if_pos negativeA]
      omega
    · have magnitudes : rounded a.natAbs ≤ rounded b.natAbs := rounded_mono (by omega)
      rw [if_neg negativeA]
      omega

theorem significant_error {n : Int} (fits : n.natAbs ≤ 2 ^ 63) : (significant n - n).natAbs ≤ 512 := by
  obtain ⟨above, below⟩ := rounded_error fits
  unfold significant
  split <;> omega

theorem one_eq {places : Nat} (h : 1074 = places) : one = 2 ^ places := by
  unfold one
  rw [h]
  rfl

theorem one_ne_zero : one ≠ 0 := by
  obtain ⟨places, hplaces⟩ : ∃ places, 1074 = places := ⟨_, rfl⟩
  rw [one_eq hplaces]
  exact Nat.ne_of_gt (Nat.two_pow_pos _)

theorem isNaN_ofInt (n : Int) : (ofInt n).isNaN = false := by
  have bound : (ofInt n).magnitude ≤ infinityMagnitude := Nat.min_le_left _ _
  simpa [isNaN] using bound

/-- The fields of a nearest double are the digits that rounding leaves and the scale. -/
theorem units_nearest (negative : Bool) {num count : Nat} (counted : num * one = count)
    (finite : excess count ≤ 2045) : units (nearest negative num 1) = rounded count := by
  have small := roundEven_excess_le count
  have below : excess count * fractions + roundEven count (2 ^ excess count) ≤ infinityMagnitude := by
    have width : fractions = 2 ^ 52 := rfl
    have top : infinityMagnitude = 2047 * 2 ^ 52 := rfl
    have := Nat.mul_le_mul_right fractions finite
    omega
  have fields : nearest negative num 1 =
      ⟨negative, excess count * fractions + roundEven count (2 ^ excess count)⟩ := by
    simp only [nearest, counted, Nat.div_one, Nat.one_mul, Nat.pow_eq, Nat.min_eq_right below]
  rw [fields, units_carried negative small (le_roundEven_excess count), rounded]

theorem units_ofInt {n : Int} (fits : n.natAbs ≤ 2 ^ 63) :
    (ofInt n).units = rounded n.natAbs * one := by
  obtain ⟨places, hplaces⟩ : ∃ places, 1074 = places := ⟨_, rfl⟩
  have finite : excess (n.natAbs * 2 ^ places) ≤ 2045 := by
    by_cases zero : n.natAbs = 0
    · simp [zero, excess]
    · have digits : n.natAbs.log2 < 64 := (Nat.log2_lt zero).mpr (Nat.lt_of_le_of_lt fits (by decide))
      have scaled := log2_scaled zero places
      unfold excess
      omega
  rw [ofInt, units_nearest _ (congrArg _ (one_eq hplaces)) finite, one_eq hplaces, rounded_scaled]

/-- The double of an integer of 64 bits stands for the integer of 53 digits nearest to it. -/
theorem signedUnits_ofInt {n : Int} (fits : n.natAbs ≤ 2 ^ 63) :
    (ofInt n).signedUnits = significant n * one := by
  have sign : (ofInt n).negative = decide (n < 0) := rfl
  rw [signedUnits, units_ofInt fits, sign, significant]
  by_cases below : n < 0
  · simp only [below, decide_true, ↓reduceIte, Int.natCast_mul, Int.neg_mul]
  · simp only [below, decide_false, Bool.false_eq_true, ↓reduceIte, Int.natCast_mul]

end Double

/-! ## Integers as values -/

namespace Value

open Double

theorem natAbs_toInt_le (a : Int64) : a.toInt.natAbs ≤ 2 ^ 63 := by
  have := a.le_toInt
  have := a.toInt_lt
  omega

theorem compare?_integer (a b : Int64) : (integer a).compare? (integer b) =
    some (compare (significant a.toInt) (significant b.toInt)) := by
  have numbers : (integer a).compare? (integer b) =
      some (compare (ofInt a.toInt).place (ofInt b.toInt).place) := by
    simp [compare?, number?, Double.compare?, isNaN_ofInt]
  have positive : 0 < (one : Int) := Int.natCast_pos.mpr (Nat.pos_of_ne_zero Double.one_ne_zero)
  rw [numbers, compare_place, signedUnits_ofInt (natAbs_toInt_le a),
    signedUnits_ofInt (natAbs_toInt_le b)]
  exact congrArg some (compare_congr (Int.mul_lt_mul_right positive) (Int.mul_lt_mul_right positive))

/-- Integers up to an absolute value of 2^53 are loosely equal only to themselves. -/
theorem looselyEquals_integer_iff {m n : Int64} (hm : m.toInt.natAbs ≤ 2 ^ 53)
    (hn : n.toInt.natAbs ≤ 2 ^ 53) :
    (integer m).looselyEquals (integer n) = true ↔ m.toInt = n.toInt := by
  rw [looselyEquals, compare?_integer, significant_exact hm, significant_exact hn]
  simp

end Value

end QueryShapes
