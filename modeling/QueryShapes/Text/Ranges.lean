/-!
# Sets of characters given by ranges of code points

- `Ranges.contains_iff`: a character is in the set exactly when some listed range spans it.
-/

namespace QueryShapes.Text

/-- A set of characters, as inclusive ranges of code points. -/
abbrev Ranges := List (Nat × Nat)

/-- Some range spans the character. -/
def Ranges.contains (ranges : Ranges) (c : Char) : Bool :=
  ranges.any fun span => span.1 ≤ c.toNat && c.toNat ≤ span.2

theorem Ranges.contains_iff (ranges : Ranges) (c : Char) :
    ranges.contains c = true ↔ ∃ span ∈ ranges, span.1 ≤ c.toNat ∧ c.toNat ≤ span.2 := by
  simp [contains]

end QueryShapes.Text
