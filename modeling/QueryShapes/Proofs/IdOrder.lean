import Mathlib.Data.List.Chain
import QueryShapes.Proofs.RoundedIntegers
import QueryShapes.Store.Sample

/-!
# Ids in storage order

Whether a relation is ordered by id is read off neighbouring rows alone. Comparison is partial: nulls,
non-numbers and values of different kinds do not compare. Where values ascend it is transitive all the
same, so neighbours speak for all rows.

- `isSome_compare?_iff`: values compare if they are comparable and of one kind.
- `compare?_lt_trans`: comparison is transitive where values ascend.
- `isOrderedById_iff_pairwise`: in an ordered relation each id is below those of all later rows.
- `HasKeys`: ids of one comparable kind, no two of them equal.
- `isOrderedById_iff`: a relation is ordered if the ids at any two positions ascend, and the ids of two
  rows or more are then keys.
-/

namespace QueryShapes

/-! ## Values that compare -/

theorem Double.compare?_lt_trans {x y z : Double} (hxy : x.compare? y = some .lt)
    (hyz : y.compare? z = some .lt) : x.compare? z = some .lt := by
  simp only [compare?, Option.ite_none_left_eq_some, Option.some_inj, Bool.or_eq_true, not_or]
    at hxy hyz ⊢
  obtain ⟨⟨hx, _⟩, below⟩ := hxy
  obtain ⟨⟨_, hz⟩, above⟩ := hyz
  exact ⟨⟨hx, hz⟩, Std.TransCmp.lt_trans below above⟩

namespace Value

theorem compare?_lt_trans {a b c : Value} (hab : a.compare? b = some .lt)
    (hbc : b.compare? c = some .lt) : a.compare? c = some .lt := by
  cases a <;> cases b <;> cases c <;>
    simp [compare?, number?, text?, boolean?] at hab hbc ⊢ <;>
    first
      | exact Double.compare?_lt_trans hab hbc
      | exact Std.TransCmp.lt_trans hab hbc

/-- The value compares with those of its kind: it is neither a null nor a non-number. -/
def IsComparable : Value → Prop
  | null => False
  | decimal x => x.isNaN = false
  | integer _ | text _ | date _ | boolean _ => True

section
variable {a b : Value}

theorem isSome_compare?_iff :
    (a.compare? b).isSome ↔ a.IsComparable ∧ b.IsComparable ∧ a.rank = b.rank := by
  cases a <;> cases b <;>
    simp [compare?, number?, text?, boolean?, Double.compare?, Double.isNaN_ofInt, IsComparable, rank]

theorem looselyEquals_self (comparable : a.IsComparable) : a.looselyEquals a := by
  obtain ⟨o, compared⟩ :=
    Option.isSome_iff_exists.mp (isSome_compare?_iff.mpr ⟨comparable, comparable, rfl⟩)
  -- What comes of comparing a value with itself is its own reverse.
  have reversed := compare?_flip a a
  cases o <;> simp [looselyEquals, compared] at reversed ⊢

theorem looselyEquals_of_equals (comparable : a.IsComparable) (equal : a.equals b) :
    a.looselyEquals b := by
  unfold equals at equal
  split at equal
  · exact equal
  · obtain rfl := of_decide_eq_true equal
    exact looselyEquals_self comparable

/-- Values that compare otherwise than as equal are unequal in both senses. -/
theorem unequal_of_compare? {o : Ordering} (compared : a.compare? b = some o) (strict : o ≠ .eq) :
    a.looselyEquals b = false ∧ a.equals b = false := by
  have loose : a.looselyEquals b = false := by simp [looselyEquals, compared, strict]
  refine ⟨loose, Bool.eq_false_iff.mpr fun equal => ?_⟩
  have some : (a.compare? b).isSome := by simp [compared]
  have same := looselyEquals_of_equals (isSome_compare?_iff.mp some).1 equal
  exact Bool.false_ne_true (loose.symm.trans same)

end

end Value

/-! ## Neighbours and all later rows -/

namespace Relation

theorem idsAscend_iff {a b : Row} : idsAscend a b ↔
    ∃ x y, a.get? "id" = some x ∧ b.get? "id" = some y ∧ x.compare? y = some .lt := by
  unfold idsAscend
  cases a.get? "id" <;> cases b.get? "id" <;> simp

theorem idsAscend_trans {a b c : Row} (hab : idsAscend a b) (hbc : idsAscend b c) :
    idsAscend a c := by
  obtain ⟨x, y, hx, hy, below⟩ := idsAscend_iff.mp hab
  obtain ⟨y', z, hy', hz, above⟩ := idsAscend_iff.mp hbc
  obtain rfl := Option.some_inj.mp (hy.symm.trans hy')
  exact idsAscend_iff.mpr ⟨x, z, hx, hz, Value.compare?_lt_trans below above⟩

theorem neighbours_iff_isChain (related : Row → Row → Bool) (rows : List Row) :
    neighbours related rows ↔ rows.IsChain fun a b => related a b := by
  induction rows with
  | nil => simp [neighbours]
  | cons a rows ih =>
    cases rows with
    | nil => simp [neighbours]
    | cons b rest => rw [neighbours, Bool.and_eq_true, List.isChain_cons_cons, ih]

variable {relation : Relation}

theorem isOrderedById_iff_pairwise :
    relation.isOrderedById ↔ relation.rows.Pairwise fun a b => idsAscend a b := by
  let ascends (a b : Row) : Prop := idsAscend a b
  have : Trans ascends ascends ascends := ⟨idsAscend_trans⟩
  exact (neighbours_iff_isChain idsAscend relation.rows).trans List.isChain_iff_pairwise

/-! ## Ids by position -/

/-- The id of the row at a position. -/
def idAt? (relation : Relation) (position : Nat) : Option Value :=
  relation.rows[position]?.bind (·.get? "id")

/-- Of any two rows both have ids, and the id of the earlier compares below that of the later. -/
def AscendsById (relation : Relation) : Prop :=
  ∀ i j, i < j → j < relation.size →
    ∃ x y, relation.idAt? i = some x ∧ relation.idAt? j = some y ∧ x.compare? y = some .lt

/-- The ids tell the rows apart: each row has one, all are comparable values of one kind, and no two are
equal, loosely or otherwise. -/
structure HasKeys (relation : Relation) (kind : Nat) : Prop where
  known : ∀ i < relation.size, ∃ x, relation.idAt? i = some x ∧ x.IsComparable ∧ x.rank = kind
  unequal : ∀ i j x y, i ≠ j → relation.idAt? i = some x → relation.idAt? j = some y →
    (x.compare? y).isSome ∧ x.looselyEquals y = false ∧ x.equals y = false

theorem lt_size_of_idAt? {i : Nat} {x : Value} (h : relation.idAt? i = some x) : i < relation.size := by
  obtain ⟨row, stored, _⟩ := Option.bind_eq_some_iff.mp h
  exact (List.getElem?_eq_some_iff.mp stored).1

theorem isOrderedById_iff_ascendsById : relation.isOrderedById ↔ relation.AscendsById := by
  have idAt (i : Nat) (within : i < relation.rows.length) :
      relation.idAt? i = relation.rows[i].get? "id" := by
    simp [idAt?, within]
  rw [isOrderedById_iff_pairwise, List.pairwise_iff_getElem]
  constructor
  · intro ascend i j before within
    have earlier : i < relation.rows.length := Nat.lt_trans before within
    rw [idAt i earlier, idAt j within]
    exact idsAscend_iff.mp (ascend i j earlier within before)
  · intro ascends i j earlier within before
    have ids := ascends i j before within
    rw [idAt i earlier, idAt j within] at ids
    exact idsAscend_iff.mpr ids

namespace AscendsById

theorem below (ascends : relation.AscendsById) {i j : Nat} {x y : Value} (before : i < j)
    (hx : relation.idAt? i = some x) (hy : relation.idAt? j = some y) : x.compare? y = some .lt := by
  obtain ⟨x', y', hx', hy', below⟩ := ascends i j before (lt_size_of_idAt? hy)
  obtain rfl := Option.some_inj.mp (hx.symm.trans hx')
  obtain rfl := Option.some_inj.mp (hy.symm.trans hy')
  exact below

/-- Ids at different positions compare, one way or the other. -/
theorem differ (ascends : relation.AscendsById) {i j : Nat} {x y : Value} (apart : i ≠ j)
    (hx : relation.idAt? i = some x) (hy : relation.idAt? j = some y) :
    ∃ o, x.compare? y = some o ∧ o ≠ .eq := by
  obtain before | after := Nat.lt_or_gt_of_ne apart
  · exact ⟨.lt, ascends.below before hx hy, by decide⟩
  · refine ⟨.gt, ?_, by decide⟩
    rw [Value.compare?_flip y x, ascends.below after hy hx]
    rfl

/-- With a second row to compare with, the kind of the first id is that of all. -/
theorem exists_kind (ascends : relation.AscendsById) (two : 2 ≤ relation.size) :
    ∃ kind, ∀ i < relation.size,
      ∃ x, relation.idAt? i = some x ∧ x.IsComparable ∧ x.rank = kind := by
  obtain ⟨first, _, hfirst, _, below⟩ := ascends 0 1 Nat.one_pos two
  refine ⟨first.rank, fun i within => ?_⟩
  obtain rfl | later := Nat.eq_zero_or_pos i
  · obtain ⟨comparable, _⟩ := Value.isSome_compare?_iff.mp (Option.isSome_of_eq_some below)
    exact ⟨first, hfirst, comparable, rfl⟩
  · obtain ⟨_, x, _, hx, _⟩ := ascends 0 i later within
    have above := ascends.below later hfirst hx
    obtain ⟨_, comparable, alike⟩ := Value.isSome_compare?_iff.mp (Option.isSome_of_eq_some above)
    exact ⟨x, hx, comparable, alike.symm⟩

end AscendsById

/-- A relation counts as ordered by id if and only if the ids of any two rows ascend, not only those of
neighbours. If it has two rows or more, its ids are then of one comparable kind and pairwise unequal. -/
theorem isOrderedById_iff (relation : Relation) :
    (relation.isOrderedById ↔ relation.AscendsById) ∧
    (relation.isOrderedById → 2 ≤ relation.size → ∃ kind, relation.HasKeys kind) := by
  refine ⟨isOrderedById_iff_ascendsById, fun ordered two => ?_⟩
  have ascends := isOrderedById_iff_ascendsById.mp ordered
  obtain ⟨kind, known⟩ := ascends.exists_kind two
  refine ⟨kind, known, fun i j x y apart hx hy => ?_⟩
  obtain ⟨o, compared, strict⟩ := ascends.differ apart hx hy
  exact ⟨Option.isSome_of_eq_some compared, Value.unequal_of_compare? compared strict⟩

end Relation

/-- Readings that are numbered in between. -/
def Sample.readings : Relation :=
  relation "readings" ["id", "depth"] [[int 1, int 20], [cents 150, int 25], [int 2, int 30]]

theorem Relation.isOrderedById_iff_readings :
    Sample.readings.isOrderedById ∧ 2 ≤ Sample.readings.size ∧ Sample.readings.AscendsById ∧
    ∃ kind, Sample.readings.HasKeys kind := by
  obtain ⟨ascends, keys⟩ := isOrderedById_iff Sample.readings
  have ordered : Sample.readings.isOrderedById := by decide +kernel
  have two : 2 ≤ Sample.readings.size := by decide
  exact ⟨ordered, two, ascends.mp ordered, keys ordered two⟩

/-- A row alone need not have an id, but between two others it does. -/
example : Relation.isOrderedById ⟨"t", [.empty]⟩ ∧
    ¬Relation.isOrderedById ⟨"t", [.ofList [("id", .integer 1)], .ofList [("id", .null)],
      .ofList [("id", .integer 2)]]⟩ := by
  decide

end QueryShapes
