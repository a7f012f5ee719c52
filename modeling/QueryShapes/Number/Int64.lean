/-!
# Integers of 64 bits

- `int64OfInt?`: the integer of 64 bits with a given value.
- `int64OfInt?_eq_some_iff`: there is one exactly for the values of such integers.
-/

namespace QueryShapes

/-- The integer of 64 bits with a value, if the value is in range. -/
def int64OfInt? (n : Int) : Option Int64 :=
  if Int64.minValue.toInt ≤ n ∧ n ≤ Int64.maxValue.toInt then some (Int64.ofInt n) else none

theorem int64OfInt?_eq_some_iff {n : Int} {a : Int64} : int64OfInt? n = some a ↔ a.toInt = n := by
  rw [int64OfInt?]
  split
  · rename_i range
    have exact : (Int64.ofInt n).toInt = n := Int64.toInt_ofInt_of_le range.1 (by
      have := range.2; simp only [Int64.toInt_maxValue] at this; omega)
    constructor
    · rintro ⟨⟩; exact exact
    · rintro rfl; simp
  · rename_i range
    constructor
    · rintro ⟨⟩
    · rintro rfl
      exact absurd ⟨Int64.minValue_le_toInt a, Int64.toInt_le a⟩ range

end QueryShapes
