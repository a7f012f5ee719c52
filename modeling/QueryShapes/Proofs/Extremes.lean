import QueryShapes.Proofs.FieldSources
import QueryShapes.Proofs.IntegerSums

/-!
# Least and greatest values, and counts

- `Tuple.known?`: the value that a tuple has for a column, unless it is null.
- `IsExtreme`: a value of the column that no other sorts beyond on one side, or null if there is none.
- `IsExtreme.tied`: two such values of the same tuples are tied in the sort order.
- `extremes_and_counts`: the least and the greatest value of a column are of this kind in every order of
  the tuples, and its count is the number of tuples that have one.
-/

namespace QueryShapes

/-- The value that a tuple has for a column, unless it is null. -/
def Tuple.known? (tuple : Tuple) (column : Column) : Option Value :=
  (tuple.resolve? column).filter fun value => !value.isNull

namespace Aggregate

variable {column : Column} {group : List Tuple}

theorem values_eq_filterMap (function : AggregateFunction) (column : Column) (rounded : Bool)
    (group : List Tuple) :
    Aggregate.values ⟨function, some column, rounded⟩ group = group.filterMap (·.known? column) := by
  simp only [values, Tuple.known?, List.filter_filterMap]

theorem isNull_of_known {t : Tuple} {v : Value} (h : t.known? column = some v) : v.isNull = false := by
  simpa using (Option.filter_eq_some_iff.mp h).2

/-! ## Folds that choose -/

/-- A fold that always chooses what comes first of two comes first of all. -/
theorem foldl_first {r : Value → Value → Prop} (refl : ∀ a, r a a)
    (trans : ∀ {a b c}, r a b → r b c → r a c) {choose : Value → Value → Value}
    (left : ∀ a b, r (choose a b) a) (right : ∀ a b, r (choose a b) b) (first : Value)
    (rest : List Value) : ∀ v ∈ first :: rest, r (rest.foldl choose first) v := by
  induction rest generalizing first with
  | nil => exact List.forall_mem_singleton.mpr (refl first)
  | cons second rest ih =>
    obtain ⟨chosen, others⟩ := List.forall_mem_cons.mp (ih (choose first second))
    intro v hv
    obtain rfl | hv := List.mem_cons.mp hv
    · exact trans chosen (left v second)
    · obtain rfl | hv := List.mem_cons.mp hv
      · exact trans chosen (right first v)
      · exact others v hv

theorem isLE_of_gt {a b : Value} (h : (a.sortOrder b == .gt) = true) : (b.sortOrder a).isLE := by
  rw [Value.sortOrder_flip a b, eq_of_beq h]
  rfl

theorem isLE_of_not_gt {a b : Value} (h : ¬(a.sortOrder b == .gt) = true) : (a.sortOrder b).isLE := by
  rwa [Ordering.isLE_iff_ne_gt, ← beq_iff_eq]

theorem sortOrder_least {values : List Value} {v : Value} (hv : v ∈ values) :
    ((least values).sortOrder v).isLE := by
  cases values with
  | nil => cases hv
  | cons first rest =>
    have refl (a : Value) : (a.sortOrder a).isLE := Std.ReflCmp.isLE_rfl
    refine foldl_first (r := fun a b => (a.sortOrder b).isLE) refl Std.TransCmp.isLE_trans
      (fun a b => ?_) (fun a b => ?_) first rest v hv
    · split
      · exact isLE_of_gt ‹_›
      · exact refl a
    · split
      · exact refl b
      · exact isLE_of_not_gt ‹_›

theorem sortOrder_greatest {values : List Value} {v : Value} (hv : v ∈ values) :
    (v.sortOrder (greatest values)).isLE := by
  cases values with
  | nil => cases hv
  | cons first rest =>
    have refl (a : Value) : (a.sortOrder a).isLE := Std.ReflCmp.isLE_rfl
    refine foldl_first (r := fun a b => (b.sortOrder a).isLE) refl
      (fun first second => Std.TransCmp.isLE_trans second first) (fun a b => ?_) (fun a b => ?_)
      first rest v hv
    · split
      · exact refl a
      · exact isLE_of_not_gt ‹_›
    · split
      · exact isLE_of_gt ‹_›
      · exact refl b

/-! ## Extremes of a column -/

/-- A value that tuples of the group have for the column, such that no other sorts on one side of it;
null where no tuple has a value. -/
structure IsExtreme (side : Ordering) (column : Column) (group : List Tuple) (v : Value) : Prop where
  null_iff : v = .null ↔ ∀ t ∈ group, t.known? column = none
  known : v ≠ .null → ∃ t ∈ group, t.known? column = some v
  unbeaten : ∀ t ∈ group, ∀ w, t.known? column = some w → w.sortOrder v ≠ side

/-- A value chosen among those of the column, with nothing on one side of it. -/
theorem isExtreme_of_cases {side : Ordering} {v : Value}
    (chosen : v ∈ group.filterMap (·.known? column) ∨
      group.filterMap (·.known? column) = [] ∧ v = .null)
    (unbeaten : ∀ w ∈ group.filterMap (·.known? column), w.sortOrder v ≠ side) :
    IsExtreme side column group v where
  null_iff := by
    rw [← List.filterMap_eq_nil_iff]
    obtain chosen | ⟨none, rfl⟩ := chosen
    · obtain ⟨t, _, known⟩ := List.mem_filterMap.mp chosen
      refine iff_of_false (fun null => ?_) (List.ne_nil_of_mem chosen)
      have notNull := isNull_of_known known
      rw [null] at notNull
      cases notNull
    · exact iff_of_true rfl none
  known notNull := List.mem_filterMap.mp (chosen.resolve_right fun none => notNull none.2)
  unbeaten t ht w known := unbeaten w (List.mem_filterMap.mpr ⟨t, ht, known⟩)

theorem least_isExtreme (column : Column) (group : List Tuple) :
    IsExtreme .lt column group (least (group.filterMap (·.known? column))) := by
  refine isExtreme_of_cases (least_cases _) fun w hw below => ?_
  have least := sortOrder_least hw
  rw [Value.sortOrder_flip w, below] at least
  cases least

theorem greatest_isExtreme (column : Column) (group : List Tuple) :
    IsExtreme .gt column group (greatest (group.filterMap (·.known? column))) := by
  refine isExtreme_of_cases (greatest_cases _) fun w hw above => ?_
  have greatest := sortOrder_greatest hw
  rw [above] at greatest
  cases greatest

/-- Neither of two extremes sorts beyond the other. -/
theorem IsExtreme.tied {side : Ordering} {order : List Tuple} {v w : Value} (strict : side ≠ .eq)
    (h : IsExtreme side column group v) (h' : IsExtreme side column order w)
    (same : order.Perm group) : w.sortOrder v = .eq := by
  by_cases null : v = .null
  · have none : w = .null :=
      h'.null_iff.mpr fun t ht => h.null_iff.mp null t (same.mem_iff.mp ht)
    rw [null, none]
    rfl
  · obtain ⟨t, ht, value⟩ := h.known null
    have notNull : w ≠ .null := by
      intro none
      have missing := h'.null_iff.mp none t (same.mem_iff.mpr ht)
      cases missing.symm.trans value
    obtain ⟨t', ht', value'⟩ := h'.known notNull
    have before : w.sortOrder v ≠ side := h.unbeaten t' (same.mem_iff.mp ht') w value'
    have behind : v.sortOrder w ≠ side := h'.unbeaten t (same.mem_iff.mpr ht) v value
    rw [Value.sortOrder_flip w v] at behind
    cases order : w.sortOrder v <;> cases side <;> simp_all

/-- What a call that picks extremes gives in one order of the tuples is tied with what it gives in
another. -/
theorem evaluate_extreme {function : AggregateFunction} {pick : List Value → Value} {side : Ordering}
    (strict : side ≠ .eq)
    (picks : ∀ group, Aggregate.evaluate ⟨function, some column, false⟩ group =
      .ok (pick (Aggregate.values ⟨function, some column, false⟩ group)))
    (extreme : ∀ group, IsExtreme side column group (pick (group.filterMap (·.known? column))))
    (group : List Tuple) :
    ∃ v, Aggregate.evaluate ⟨function, some column, false⟩ group = .ok v ∧
      IsExtreme side column group v ∧ ∀ order, order.Perm group →
        ∃ w, Aggregate.evaluate ⟨function, some column, false⟩ order = .ok w ∧
          w.sortOrder v = .eq := by
  have evaluated (group : List Tuple) : Aggregate.evaluate ⟨function, some column, false⟩ group =
      .ok (pick (group.filterMap (·.known? column))) := by
    rw [picks, values_eq_filterMap]
  refine ⟨_, evaluated group, extreme group, fun order same => ⟨_, evaluated order, ?_⟩⟩
  exact (extreme group).tied strict (extreme order) same

/-! ## Counts -/

/-- The number of tuples that have a value for the column. -/
def knownCount (column : Column) (group : List Tuple) : Nat :=
  group.countP fun t => (t.known? column).isSome

theorem size_column (function : AggregateFunction) (column : Column) (rounded : Bool)
    (group : List Tuple) :
    Aggregate.size ⟨function, some column, rounded⟩ group = knownCount column group := by
  rw [size, values_eq_filterMap, List.length_filterMap_eq_countP]
  rfl

/-- The least value of a column, not rounded. -/
def minOf (column : Column) : Aggregate := ⟨.min, some column, false⟩

/-- The greatest value of a column, not rounded. -/
def maxOf (column : Column) : Aggregate := ⟨.max, some column, false⟩

/-- The least value of a column is one that nothing sorts below, the greatest one that nothing sorts
above, and both are null exactly if no tuple has a value; another order of the tuples gives a value that
is tied with it. The count of the column is the number of tuples that have a value, which is at most
that of all tuples, and so are the integers as long as they have room for these. -/
theorem extremes_and_counts (column : Column) (group : List Tuple) :
    (∃ least, (minOf column).evaluate group = .ok least ∧ IsExtreme .lt column group least ∧
      ∀ order, order.Perm group →
        ∃ other, (minOf column).evaluate order = .ok other ∧ other.sortOrder least = .eq) ∧
    (∃ greatest, (maxOf column).evaluate group = .ok greatest ∧ IsExtreme .gt column group greatest ∧
      ∀ order, order.Perm group →
        ∃ other, (maxOf column).evaluate order = .ok other ∧ other.sortOrder greatest = .eq) ∧
    ∀ rounded, ∃ count all : Int64,
      Aggregate.evaluate ⟨.count, some column, rounded⟩ group = .ok (.integer count) ∧
      Aggregate.evaluate ⟨.count, none, rounded⟩ group = .ok (.integer all) ∧
      count = Int64.ofNat (knownCount column group) ∧ all = Int64.ofNat group.length ∧
      knownCount column group ≤ group.length ∧
      (group.length < 2 ^ 63 →
        count.toInt = knownCount column group ∧ all.toInt = group.length ∧ count.toInt ≤ all.toInt) := by
  refine ⟨?_, ?_, fun rounded => ?_⟩
  · exact evaluate_extreme (by decide) (fun _ => rfl) (least_isExtreme column) group
  · exact evaluate_extreme (by decide) (fun _ => rfl) (greatest_isExtreme column) group
  · have fewer : knownCount column group ≤ group.length := List.countP_le_length
    have column_count := evaluate_count (some column) rounded group
    rw [size_column] at column_count
    refine ⟨_, Int64.ofNat group.length, column_count, evaluate_count none rounded group, rfl, rfl,
      fewer, fun small => ?_⟩
    have counted := Int64.toInt_ofNat_of_lt (n := knownCount column group) (by omega)
    have all := Int64.toInt_ofNat_of_lt small
    omega

/-- A text and a date of the same characters are tied; the one that comes last is taken. -/
theorem extremes_and_counts_tied :
    (Sample.counts [.text "a", .null, .boolean true, .date "a"]).reverse.Perm
      (Sample.counts [.text "a", .null, .boolean true, .date "a"]) ∧
    (Sample.counts [.text "a", .null, .boolean true, .date "a"]).length < 2 ^ 63 ∧
    (maxOf ⟨none, "n"⟩).evaluate (Sample.counts [.text "a", .null, .boolean true, .date "a"]) =
      .ok (.date "a") ∧
    (∃ other, (maxOf ⟨none, "n"⟩).evaluate
      (Sample.counts [.text "a", .null, .boolean true, .date "a"]).reverse = .ok other ∧
        other.sortOrder (.date "a") = .eq) ∧
    ∃ count : Int64, Aggregate.evaluate ⟨.count, some ⟨none, "n"⟩, false⟩
      (Sample.counts [.text "a", .null, .boolean true, .date "a"]) = .ok (.integer count) ∧
        count.toInt = 3 := by
  have small : (Sample.counts [.text "a", .null, .boolean true, .date "a"]).length < 2 ^ 63 := by decide
  have known : knownCount ⟨none, "n"⟩ (Sample.counts [.text "a", .null, .boolean true, .date "a"]) = 3 := by
    decide
  obtain ⟨_, ⟨greatest, evaluated, _, tied⟩, counts⟩ := extremes_and_counts ⟨none, "n"⟩
    (Sample.counts [.text "a", .null, .boolean true, .date "a"])
  obtain ⟨count, _, counted, _, _, _, _, exact⟩ := counts false
  obtain rfl : .date "a" = greatest := Except.ok.inj evaluated
  refine ⟨List.reverse_perm _, small, evaluated, tied _ (List.reverse_perm _), count, counted, ?_⟩
  rw [(exact small).1, known]
  rfl

end Aggregate

end QueryShapes
