import Mathlib.Algebra.BigOperators.Group.List.Basic
import Mathlib.Algebra.Order.BigOperators.Group.List
import Mathlib.Algebra.Ring.Int.Defs
import Mathlib.Data.List.Infix
import QueryShapes.Evaluation.Aggregate
import QueryShapes.Proofs.Success

/-!
# Sums of integers

A sum of integers is added up from the left and stays an integer as long as every running total fits
64 bits. From the first one that does not, the values are added up as doubles.

- `StaysInRange`: every running total fits 64 bits.
- `exactSum?_integers_iff`: what the integer sum is, and when there is one.
- `forall_perm_staysInRange_iff`: no order leaves the range exactly if neither all gains nor all losses
  do together.
- `sum_of_integers`: what the sum of a column of integers is, in every order of the tuples.
-/

namespace QueryShapes

/-- The integer that a value is. -/
def Value.integer? : Value → Option Int64
  | .integer n => some n
  | _ => none

namespace Aggregate

/-! ## Running totals -/

def total (ns : List Int64) : Int := (ns.map Int64.toInt).sum

/-- The value fits 64 bits. -/
def InRange (n : Int) : Prop := Int64.minValue.toInt ≤ n ∧ n ≤ Int64.maxValue.toInt

instance (n : Int) : Decidable (InRange n) := inferInstanceAs (Decidable (_ ∧ _))

/-- Every running total fits 64 bits. -/
def StaysInRange (ns : List Int64) : Prop := ∀ front ∈ ns.inits, InRange (total front)

instance (ns : List Int64) : Decidable (StaysInRange ns) :=
  inferInstanceAs (Decidable (∀ _ ∈ _, _))

@[simp]
theorem total_nil : total [] = 0 := rfl

@[simp]
theorem total_cons (n : Int64) (ns : List Int64) : total (n :: ns) = n.toInt + total ns := by
  simp [total]

theorem total_perm {ms ns : List Int64} (same : ms.Perm ns) : total ms = total ns :=
  (same.map Int64.toInt).sum_eq

theorem inRange_toInt (n : Int64) : InRange n.toInt := ⟨n.minValue_le_toInt, n.toInt_le⟩

/-- There is a checked sum exactly if the sum is in range. -/
theorem exists_checkedAdd?_iff {a b : Int64} :
    (∃ c, checkedAdd? a b = some c) ↔ InRange (a.toInt + b.toInt) := by
  unfold checkedAdd? int64OfInt?
  split
  · rename_i range
    exact ⟨fun _ => range, fun _ => ⟨_, rfl⟩⟩
  · rename_i range
    constructor
    · rintro ⟨_, ⟨⟩⟩
    · exact fun inside => absurd inside range

theorem foldlM_checkedAdd?_iff {start result : Int64} {ns : List Int64} :
    ns.foldlM checkedAdd? start = some result ↔
      (∀ front ∈ ns.inits, InRange (start.toInt + total front)) ∧
        result.toInt = start.toInt + total ns := by
  induction ns generalizing start with
  | nil => simp [inRange_toInt, Int64.toInt_inj, eq_comm]
  | cons n ns ih =>
    rw [List.foldlM_cons, Option.bind_eq_bind, Option.bind_eq_some_iff]
    constructor
    · rintro ⟨next, here, later⟩
      obtain ⟨range, value⟩ := ih.mp later
      have sum := int64OfInt?_eq_some_iff.mp here
      refine ⟨?_, by rw [value, sum, total_cons, Int.add_assoc]⟩
      intro front hfront
      obtain rfl | ⟨front, hfront, rfl⟩ := by simpa using hfront
      · simpa using inRange_toInt start
      · rw [total_cons, ← Int.add_assoc, ← sum]
        exact range front (by simpa using hfront)
    · rintro ⟨range, value⟩
      have first : InRange (start.toInt + n.toInt) := by simpa using range [n] (by simp)
      obtain ⟨next, here⟩ := exists_checkedAdd?_iff.mpr first
      have sum := int64OfInt?_eq_some_iff.mp here
      refine ⟨next, here, ih.mpr ⟨fun front hfront => ?_, by rw [value, sum, total_cons, Int.add_assoc]⟩⟩
      have extended := range (n :: front) (by simpa using hfront)
      rwa [total_cons, ← Int.add_assoc, ← sum] at extended

/-- Integers have an exact sum if every running total fits, and then it is their total. -/
theorem exactSum?_integers_iff {ns : List Int64} {result : Int64} :
    exactSum? (ns.map .integer) = some result ↔ StaysInRange ns ∧ result.toInt = total ns := by
  have integers : exactSum? (ns.map .integer) = ns.foldlM checkedAdd? 0 := by
    rw [exactSum?, List.foldlM_map]
  rw [integers, foldlM_checkedAdd?_iff]
  simp [StaysInRange]

/-! ## Orders -/

def isGain (n : Int64) : Bool := 0 ≤ n.toInt

/-- What the values that are not negative add up to. -/
def gains (ns : List Int64) : Int := total (ns.filter isGain)

/-- What the negative values add up to. -/
def losses (ns : List Int64) : Int := total (ns.filter fun n => !isGain n)

/-- Some of the values lose no more than all losses and gain no more than all gains. -/
theorem total_bounds {front ns : List Int64} (within : front.Sublist ns) :
    losses ns ≤ total front ∧ total front ≤ gains ns := by
  have split (n : Int64) (ns : List Int64) : gains (n :: ns) = max n.toInt 0 + gains ns ∧
      losses (n :: ns) = min n.toInt 0 + losses ns := by
    by_cases gain : 0 ≤ n.toInt
    · simp [gains, losses, isGain, gain]
    · have loss : n.toInt ≤ 0 := by omega
      simp [gains, losses, isGain, gain, loss]
  induction within with
  | slnil => exact ⟨Int.le_refl _, Int.le_refl _⟩
  | cons n _ ih =>
    obtain ⟨gain, loss⟩ := split n _
    rw [gain, loss]
    omega
  | cons_cons n _ ih =>
    obtain ⟨gain, loss⟩ := split n _
    rw [gain, loss, total_cons]
    omega

theorem staysInRange_of_perm {ms ns : List Int64} (same : ms.Perm ns) (gain : InRange (gains ns))
    (loss : InRange (losses ns)) : StaysInRange ms := by
  intro front hfront
  obtain ⟨below, above⟩ := total_bounds ((List.mem_inits front ms).mp hfront).sublist
  have gains_eq : gains ms = gains ns := total_perm (same.filter _)
  have losses_eq : losses ms = losses ns := total_perm (same.filter _)
  unfold InRange at gain loss ⊢
  omega

theorem StaysInRange.front {ms ns : List Int64} (stays : StaysInRange (ms ++ ns)) :
    InRange (total ms) :=
  stays ms ((List.mem_inits ms _).mpr (List.prefix_append ms ns))

/-! ## Columns of integers -/

section
variable (call : Aggregate)

/-- The integer that the argument resolves to. -/
def integerOf? (tuple : Tuple) : Option Int64 :=
  (call.argument.bind tuple.resolve?).bind Value.integer?

/-- The integers of the argument in a group. -/
def integers (group : List Tuple) : List Int64 := group.filterMap call.integerOf?

/-- All values of the argument that are not null are integers. -/
def IsWhole (group : List Tuple) : Prop := ∀ v ∈ call.values group, v.integer?.isSome

instance (group : List Tuple) : Decidable (call.IsWhole group) :=
  inferInstanceAs (Decidable (∀ _ ∈ _, _))

variable {call} {group : List Tuple}

theorem map_integer {values : List Value} (whole : ∀ v ∈ values, v.integer?.isSome) :
    (values.filterMap Value.integer?).map .integer = values := by
  induction values with
  | nil => rfl
  | cons v values ih =>
    obtain ⟨here, rest⟩ := List.forall_mem_cons.mp whole
    cases v with
    | integer n => exact congrArg _ (ih rest)
    | _ => cases here

theorem filterMap_values (call : Aggregate) (group : List Tuple) :
    (call.values group).filterMap Value.integer? = call.integers group := by
  unfold values integers integerOf?
  cases call.argument with
  | none => simp
  | some column =>
    rw [List.filterMap_filter, List.filterMap_filterMap]
    congr 1
    funext t
    rw [Option.bind_some]
    cases t.resolve? column with
    | none => rfl
    | some v => cases v <;> rfl

theorem values_eq_integers (whole : call.IsWhole group) :
    call.values group = (call.integers group).map .integer := by
  rw [← filterMap_values, map_integer whole]

theorem IsWhole.perm {order : List Tuple} (whole : call.IsWhole group) (same : order.Perm group) :
    call.IsWhole order := by
  have values : (call.values order).Perm (call.values group) := by
    unfold values
    split
    · exact (same.filterMap _).filter _
    · exact .refl _
  exact fun v hv => whole v (values.mem_iff.mp hv)

theorem integers_filter {p : Int64 → Bool} {q : Tuple → Bool}
    (agree : ∀ t n, call.integerOf? t = some n → q t = p n) (group : List Tuple) :
    call.integers (group.filter q) = (call.integers group).filter p := by
  unfold integers
  rw [List.filterMap_filter, List.filter_filterMap]
  congr 1
  funext t
  cases integer : call.integerOf? t with
  | none => simp
  | some n => simp [agree t n integer, Option.filter]

/-- The order of the tuples can put all gains first, or all losses. -/
theorem forall_perm_staysInRange_iff (call : Aggregate) (group : List Tuple) :
    (∀ order, order.Perm group → StaysInRange (call.integers order)) ↔
      InRange (gains (call.integers group)) ∧ InRange (losses (call.integers group)) := by
  constructor
  · intro stays
    let gain (t : Tuple) : Bool := (call.integerOf? t).any isGain
    have upper : call.integers (group.filter gain) = (call.integers group).filter isGain :=
      integers_filter (fun t n integer => by simp [gain, integer]) group
    have lower : call.integers (group.filter fun t => !gain t) =
        (call.integers group).filter fun n => !isGain n :=
      integers_filter (fun t n integer => by simp [gain, integer]) group
    have split : (group.filter gain ++ group.filter fun t => !gain t).Perm group :=
      List.filter_append_perm gain group
    have gainsFirst := stays _ split
    have lossesFirst := stays _ (List.perm_append_comm.trans split)
    rw [integers, List.filterMap_append, ← integers, ← integers, upper, lower] at gainsFirst lossesFirst
    exact ⟨gainsFirst.front, lossesFirst.front⟩
  · rintro ⟨gain, loss⟩ order same
    exact staysInRange_of_perm (same.filterMap _) gain loss

end

/-! ## Sums -/

theorem numbers_integers (call : Aggregate) (ns : List Int64) :
    call.numbers (ns.map .integer) = .ok (ns.map fun n => .ofInt n.toInt) := by
  induction ns with
  | nil => rfl
  | cons n ns ih =>
    unfold numbers at ih ⊢
    rw [List.map_cons, List.mapM_cons, ih]
    rfl

/-- The sum is the total while that can be told from running totals, and a sum of doubles otherwise. -/
theorem sum_integers (call : Aggregate) (ns : List Int64) :
    (StaysInRange ns ∧
      ∃ n, n.toInt = total ns ∧ call.sum (ns.map .integer) = .ok (.integer n)) ∨
    (¬StaysInRange ns ∧
      call.sum (ns.map .integer) = .ok (.decimal (decimalSum (ns.map fun n => .ofInt n.toInt)))) := by
  unfold sum
  cases exact : exactSum? (ns.map .integer) with
  | some n =>
    obtain ⟨stays, value⟩ := exactSum?_integers_iff.mp exact
    exact .inl ⟨stays, n, value, rfl⟩
  | none =>
    refine .inr ⟨fun stays => ?_, by rw [numbers_integers]; rfl⟩
    have fits : InRange (total ns) := stays ns ((List.mem_inits ns ns).mpr (List.prefix_refl ns))
    obtain ⟨n, value⟩ : ∃ n : Int64, n.toInt = total ns :=
      ⟨Int64.ofInt (total ns), Int64.toInt_ofInt_of_le fits.1 (Int.lt_of_le_of_lt fits.2 (by decide))⟩
    have summed := exactSum?_integers_iff.mpr ⟨stays, value⟩
    cases exact.symm.trans summed

/-- The sum of a column, not rounded. -/
def sumOf (column : Column) : Aggregate := ⟨.sum, some column, false⟩

/-- The sum of a column of integers. In an order of the tuples in which the running totals fit 64 bits it is
the integer that they add up to, in any other order it is the sum of the values as doubles. All orders are of
the first kind exactly if the gains fit 64 bits and the losses do, and none is if the total does not fit. -/
theorem sum_of_integers (column : Column) {group : List Tuple}
    (whole : (sumOf column).IsWhole group) :
    (∀ order, order.Perm group →
      (StaysInRange ((sumOf column).integers order) →
        ∃ n, n.toInt = total ((sumOf column).integers group) ∧
          (sumOf column).evaluate order = .ok (.integer n)) ∧
      (¬StaysInRange ((sumOf column).integers order) →
        (sumOf column).evaluate order = .ok (.decimal
          (decimalSum (((sumOf column).integers order).map fun n => .ofInt n.toInt)))) ∧
      (∀ n, (sumOf column).evaluate order = .ok (.integer n) →
        n.toInt = total ((sumOf column).integers group)) ∧
      (¬InRange (total ((sumOf column).integers group)) →
        (sumOf column).evaluate order = .ok (.decimal
          (decimalSum (((sumOf column).integers order).map fun n => .ofInt n.toInt))))) ∧
    ((∀ order, order.Perm group → StaysInRange ((sumOf column).integers order)) ↔
      InRange (gains ((sumOf column).integers group)) ∧
        InRange (losses ((sumOf column).integers group))) := by
  refine ⟨fun order same => ?_, forall_perm_staysInRange_iff _ group⟩
  have evaluated : (sumOf column).evaluate order =
      (sumOf column).sum (((sumOf column).integers order).map .integer) := by
    rw [← values_eq_integers (whole.perm same)]
    rfl
  have totals : total ((sumOf column).integers order) = total ((sumOf column).integers group) :=
    total_perm (same.filterMap _)
  rw [evaluated, ← totals]
  obtain ⟨stays, n, value, sum⟩ | ⟨leaves, sum⟩ := sum_integers (sumOf column) _
  · rw [sum]
    refine ⟨fun _ => ⟨n, value, rfl⟩, fun leaves => absurd stays leaves, ?_, fun beyond => ?_⟩
    · rintro m ⟨⟩
      exact value
    · rw [← value] at beyond
      exact absurd (inRange_toInt n) beyond
  · rw [sum]
    refine ⟨fun stays => absurd stays leaves, fun _ => rfl, ?_, fun _ => rfl⟩
    rintro m ⟨⟩

end Aggregate

/-- A tuple for each value of a field `n`. -/
def Sample.counts (values : List Value) : List Tuple :=
  values.map fun value => .single "t" (.ofList [("n", value)])

namespace Aggregate

theorem sum_of_integers_near_limit :
    (sumOf ⟨none, "n"⟩).IsWhole
      (Sample.counts [.integer 9223372036854775000, .null, .integer (-100), .integer 50]) ∧
    ∀ order, order.Perm
        (Sample.counts [.integer 9223372036854775000, .null, .integer (-100), .integer 50]) →
      ∃ n : Int64, n.toInt = 9223372036854774950 ∧
        (sumOf ⟨none, "n"⟩).evaluate order = .ok (.integer n) := by
  have whole : (sumOf ⟨none, "n"⟩).IsWhole
      (Sample.counts [.integer 9223372036854775000, .null, .integer (-100), .integer 50]) := by decide
  obtain ⟨orders, stays⟩ := sum_of_integers ⟨none, "n"⟩ whole
  refine ⟨whole, fun order same => ?_⟩
  exact (orders order same).1 (stays.mpr (by decide) order same)

/-- The total of the greatest integer, one and minus one fits, and the running total does not. The
total of twice the greatest integer and 2049 does not fit, and the doubles that stand for it depend on the
order. -/
theorem sums_depend_on_order :
    InRange (total ((sumOf ⟨none, "n"⟩).integers (Sample.counts
      [.integer 9223372036854775807, .integer 1, .integer (-1)]))) ∧
    (sumOf ⟨none, "n"⟩).evaluate (Sample.counts
      [.integer 9223372036854775807, .integer 1, .integer (-1)]) =
        .ok (.decimal ⟨false, 0x43E0000000000000⟩) ∧
    (sumOf ⟨none, "n"⟩).evaluate (Sample.counts
      [.integer 9223372036854775807, .integer 9223372036854775807, .integer 2049]) =
        .ok (.decimal ⟨false, 0x43F0000000000001⟩) ∧
    (sumOf ⟨none, "n"⟩).evaluate (Sample.counts
      [.integer 2049, .integer 9223372036854775807, .integer 9223372036854775807]) =
        .ok (.decimal ⟨false, 0x43F0000000000000⟩) := by
  decide +kernel

end Aggregate

end QueryShapes
