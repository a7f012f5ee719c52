import QueryShapes.Value

/-!
# The two orders of values

- `sortOrder_eq_lex`: the sort order compares ranks first, then places, texts and booleans, so it is
  transitive over all kinds at once.
- `looselyEquals_iff`: two values are loosely equal when they stand for one thing; nulls and
  non-numbers stand for nothing. Loose equality is therefore symmetric and transitive, and a value
  that is loosely equal to any other is so to itself.
- `compare?_congr`: loosely equal values compare alike with all others.
-/

namespace QueryShapes

theorem Double.compare?_congr {x y : Double} (h : x.compare? y = some .eq) (z : Double) :
    y.compare? z = x.compare? z := by
  simp only [compare?, Option.ite_none_left_eq_some, Option.some_inj, Bool.or_eq_true, not_or,
    Bool.not_eq_true] at h ⊢
  obtain ⟨⟨hx, hy⟩, same⟩ := h
  rw [hx, hy, Std.LawfulEqOrd.eq_of_compare same]

namespace Value

/-! ## The sort order -/

def sortPlace (v : Value) : Int := (v.number?.map Double.totalPlace).getD 0

def sortText (v : Value) : String := v.text?.getD ""

def sortBoolean (v : Value) : Bool := v.boolean?.getD false

theorem sortOrder_eq_lex :
    sortOrder = compareLex (compareOn rank)
      (compareLex (compareOn sortPlace)
        (compareLex (compareOn sortText) (compareOn sortBoolean))) := by
  funext a b
  cases a <;> cases b <;>
    first
      | rfl
      | simp [sortOrder, compare?, compareLex, compareOn, number?, text?, boolean?, rank, sortPlace,
          sortText, sortBoolean, Double.totalOrder]

instance : Std.TransCmp sortOrder := by
  rw [sortOrder_eq_lex]
  infer_instance

/-! ## Loose equality -/

/-- What a value stands for in comparisons. -/
def meaning? (v : Value) : Option (Int ⊕ String ⊕ Bool) :=
  match v.number?, v.text?, v.boolean? with
  | some x, _, _ => if x.isNaN then none else some (.inl x.place)
  | none, some s, _ => some (.inr (.inl s))
  | none, none, some b => some (.inr (.inr b))
  | none, none, none => none

theorem looselyEquals_iff {a b : Value} :
    a.looselyEquals b = true ↔ ∃ m, a.meaning? = some m ∧ b.meaning? = some m := by
  cases a <;> cases b <;>
    simp [looselyEquals, compare?, number?, text?, boolean?, meaning?, Double.compare?] <;>
    grind

theorem looselyEquals_symm {a b : Value} (h : a.looselyEquals b) : b.looselyEquals a := by
  obtain ⟨m, ha, hb⟩ := looselyEquals_iff.mp h
  exact looselyEquals_iff.mpr ⟨m, hb, ha⟩

theorem looselyEquals_comm (a b : Value) : a.looselyEquals b = b.looselyEquals a :=
  Bool.eq_iff_iff.mpr ⟨looselyEquals_symm, looselyEquals_symm⟩

theorem looselyEquals_trans {a b c : Value} (hab : a.looselyEquals b) (hbc : b.looselyEquals c) :
    a.looselyEquals c := by
  obtain ⟨m, ha, hb⟩ := looselyEquals_iff.mp hab
  obtain ⟨n, hb', hc⟩ := looselyEquals_iff.mp hbc
  obtain rfl : m = n := Option.some_inj.mp (hb.symm.trans hb')
  exact looselyEquals_iff.mpr ⟨m, ha, hc⟩

theorem compare?_of_number {a : Value} {x : Double} (ha : a.number? = some x) (b : Value) :
    a.compare? b = b.number?.bind x.compare? := by
  unfold compare?
  rw [ha]
  cases a with
  | integer | decimal => cases b.number? <;> rfl
  | null | text | date | boolean => cases ha

/-- Loosely equal values compare alike with all others. -/
theorem compare?_congr {a b : Value} (h : a.looselyEquals b) (c : Value) :
    b.compare? c = a.compare? c := by
  have equal : a.compare? b = some .eq := beq_iff_eq.mp h
  cases ha : a.number? with
  | some x =>
    rw [compare?_of_number ha] at equal ⊢
    obtain ⟨y, hb, equal⟩ := Option.bind_eq_some_iff.mp equal
    rw [compare?_of_number hb]
    congr 1
    funext z
    exact Double.compare?_congr equal z
  | none =>
    -- Neither is a number, and texts and booleans are equal as they are.
    have same : a.text? = b.text? ∧ a.boolean? = b.boolean? ∧ b.number? = none := by
      cases a <;> cases b <;> simp [compare?, number?, text?, boolean?] at ha equal ⊢ <;> assumption
    unfold compare?
    rw [ha, same.1, same.2.1, same.2.2]

end Value

end QueryShapes
