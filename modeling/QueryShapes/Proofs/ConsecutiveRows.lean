import QueryShapes.Proofs.Product
import QueryShapes.Proofs.Resolution
import QueryShapes.Proofs.RoundedIntegers
import QueryShapes.Proofs.Sorting
import QueryShapes.Proofs.Success
import QueryShapes.Proofs.Windows
import QueryShapes.Sql.Evaluable
import QueryShapes.Store.Sample

/-!
# Joining consecutive rows

- `CountsUp`: ids that count up by one.
- `CountsUp.successive`: of such rows each joins with the next one alone where ids are to be
  consecutive.
- `answer_eq_distinct_projections`: the windows of such rows give what the join gives.
-/

namespace QueryShapes.Adjacency

/-- The integer that a row has for its id. -/
def integerId? (row : Row) : Option Int :=
  match row.get? "id" with
  | some (.integer n) => some n.toInt
  | _ => none

/-- The ids are the integers from `first` on, all below 2^53 in absolute value. -/
def CountsUp (first : Int) : List Row → Prop
  | [] => True
  | row :: rest => (integerId? row = some first ∧ first.natAbs < 2 ^ 53) ∧ CountsUp (first + 1) rest

instance CountsUp.decidable : (first : Int) → (rows : List Row) → Decidable (CountsUp first rows)
  | _, [] => .isTrue trivial
  | first, _ :: rest =>
    have := CountsUp.decidable (first + 1) rest
    inferInstanceAs (Decidable (_ ∧ _))

theorem integerId?_eq_some {row : Row} {n : Int} (h : integerId? row = some n) :
    ∃ i : Int64, row.get? "id" = some (.integer i) ∧ i.toInt = n := by
  unfold integerId? at h
  split at h
  · rename_i i hi
    exact ⟨i, hi, Option.some_inj.mp h⟩
  · cases h

theorem CountsUp.split {first : Int} {before after : List Row}
    (h : CountsUp first (before ++ after)) :
    CountsUp first before ∧ CountsUp (first + before.length) after := by
  induction before generalizing first with
  | nil => exact ⟨trivial, by simpa using h⟩
  | cons row before ih =>
    obtain ⟨here, rest⟩ := h
    obtain ⟨left, right⟩ := ih rest
    refine ⟨⟨here, left⟩, ?_⟩
    have position : first + ((row :: before).length : Int) = first + 1 + before.length := by
      simp only [List.length_cons]
      omega
    rw [position]
    exact right

theorem CountsUp.id_of_mem {first : Int} {rows : List Row} (h : CountsUp first rows) {row : Row}
    (hr : row ∈ rows) : ∃ n, integerId? row = some n ∧ first ≤ n ∧ n < first + rows.length ∧
      n.natAbs < 2 ^ 53 := by
  induction rows generalizing first with
  | nil => cases hr
  | cons head rows ih =>
    obtain ⟨⟨id, small⟩, rest⟩ := h
    simp only [List.length_cons]
    obtain rfl | hr := List.mem_cons.mp hr
    · exact ⟨first, id, by omega, by omega, small⟩
    · obtain ⟨n, hn, lower, upper, small⟩ := ih rest hr
      exact ⟨n, hn, by omega, by omega, small⟩

/-! ## Rows with consecutive ids -/

/-- The id of `a` is loosely equal to that of `b` less one. -/
def precedes (a b : Row) : Bool :=
  bothEqual (a.get? "id") ((b.get? "id").bind (Value.shift? (-1)))

theorem shift?_integer {n : Int64} (small : n.toInt.natAbs < 2 ^ 53) :
    ∃ m, (Value.integer n).shift? (-1) = some (.integer m) ∧ m.toInt = n.toInt - 1 := by
  have less : (Int64.ofInt (n.toInt - 1)).toInt = n.toInt - 1 :=
    Int64.toInt_ofInt_of_le (by omega) (by omega)
  have offset : (-1 : Int64).toInt = -1 := rfl
  refine ⟨Int64.ofInt (n.toInt - 1), ?_, less⟩
  rw [Value.shift?, checkedAdd?, offset, ← Int.sub_eq_add_neg, int64OfInt?_eq_some_iff.mpr less]
  rfl

theorem precedes_iff {a b : Row} {m n : Int} (ha : integerId? a = some m)
    (hb : integerId? b = some n) (smallM : m.natAbs < 2 ^ 53) (smallN : n.natAbs < 2 ^ 53) :
    precedes a b = true ↔ n = m + 1 := by
  obtain ⟨i, hi, rfl⟩ := integerId?_eq_some ha
  obtain ⟨j, hj, rfl⟩ := integerId?_eq_some hb
  obtain ⟨k, hk, less⟩ := shift?_integer smallN
  have reads : precedes a b = (Value.integer i).looselyEquals (.integer k) := by
    simp [precedes, bothEqual, hi, hj, hk]
  rw [reads, Value.looselyEquals_integer_iff (by omega) (by omega), less]
  omega

theorem CountsUp.successive {first : Int} {rows : List Row} (h : CountsUp first rows) :
    Successive precedes rows := by
  rintro before row after rfl
  obtain ⟨earlier, ⟨id, small⟩, later⟩ := h.split
  have none : before.filter (precedes row) = [] := by
    refine List.filter_eq_nil_iff.mpr fun b hb => ?_
    obtain ⟨n, hn, _, below, smallN⟩ := earlier.id_of_mem hb
    rw [precedes_iff id hn small smallN]
    omega
  have self : ¬precedes row row := by
    rw [precedes_iff id id small small]
    omega
  rw [List.filter_append, none, List.nil_append, List.filter_cons_of_neg self]
  match after with
  | [] => rfl
  | next :: others =>
    obtain ⟨⟨nextId, smallNext⟩, beyond⟩ := later
    have follows : precedes row next := (precedes_iff id nextId small smallNext).mpr rfl
    have rest : others.filter (precedes row) = [] := by
      refine List.filter_eq_nil_iff.mpr fun b hb => ?_
      obtain ⟨n, hn, above, _, smallN⟩ := beyond.id_of_mem hb
      rw [precedes_iff id hn small smallN]
      omega
    rw [List.filter_cons_of_pos follows, rest]
    rfl

/-! ## The join -/

/-- `SELECT DISTINCT a.f FROM t a, t b, t c WHERE a.id = b.id - 1 AND b.id = c.id - 1
AND a.f = b.f AND b.f = c.f` -/
def consecutive (table field a b c : String) : Query where
  distinct := true
  items := [.column ⟨some a, field⟩ none]
  sources := [⟨table, some a, .base, []⟩, ⟨table, some b, .cross, []⟩, ⟨table, some c, .cross, []⟩]
  filter := [
    ⟨.column ⟨some a, "id"⟩, .eq, .shifted ⟨some b, "id"⟩ (-1)⟩,
    ⟨.column ⟨some b, "id"⟩, .eq, .shifted ⟨some c, "id"⟩ (-1)⟩,
    ⟨.column ⟨some a, field⟩, .eq, .column ⟨some b, field⟩⟩,
    ⟨.column ⟨some b, field⟩, .eq, .column ⟨some c, field⟩⟩]
  groupBy := []
  orderBy := []
  limit := none

/-- The tuple of three rows. -/
def chain (a b c : String) (w : Row × Row × Row) : Tuple := ⟨[(a, w.1), (b, w.2.1), (c, w.2.2)]⟩

theorem product?_consecutive {store : Store} {table : String} {relation : Relation}
    (found : store.relation? table = some relation) (field a b c : String) :
    Query.product? store (consecutive table field a b c).sources =
      some ((relation.rows.product (relation.rows.product relation.rows)).map (chain a b c)) := by
  simp [Query.product?, consecutive, found, List.product, List.map_flatMap, List.map_map,
    Function.comp_def, Source.binding, Tuple.single, Tuple.append, chain, ← List.map_eq_flatMap]

theorem satisfies_precedes {t : Tuple} {p q : String} {x y : Row} (hx : t.row? p = some x)
    (hy : t.row? q = some y) :
    t.satisfies ⟨.column ⟨some p, "id"⟩, .eq, .shifted ⟨some q, "id"⟩ (-1)⟩ = precedes x y := by
  rw [Tuple.satisfies_eq, Tuple.evaluate?, Tuple.evaluate?, Tuple.resolve?_qualified hx,
    Tuple.resolve?_qualified hy, precedes]

/-- Both rows have the field, with loosely equal values. -/
def alike (field : String) (a b : Row) : Bool := bothEqual (a.get? field) (b.get? field)

theorem satisfies_alike {t : Tuple} {p q : String} {x y : Row} (hx : t.row? p = some x)
    (hy : t.row? q = some y) (field : String) :
    t.satisfies ⟨.column ⟨some p, field⟩, .eq, .column ⟨some q, field⟩⟩ = alike field x y := by
  rw [Tuple.satisfies_eq, Tuple.evaluate?, Tuple.evaluate?, Tuple.resolve?_qualified hx,
    Tuple.resolve?_qualified hy, alike]

theorem isSome_shared? (field : String) (w : Row × Row × Row) :
    (shared? field w).isSome = (alike field w.1 w.2.1 && alike field w.2.1 w.2.2) := by
  obtain ⟨x, y, z⟩ := w
  simp only [shared?, alike, bothEqual]
  cases x.get? field <;> cases y.get? field <;> cases z.get? field <;> simp
  split <;> simp_all

section
variable {table field a b c : String}

theorem recognize?_consecutive (hab : a ≠ b) :
    recognize? (consecutive table field a b c) = some (table, field, field) := by
  simp [recognize?, consecutive, Query.isSelfJoin, Query.isPlain, Query.hasAggregates,
    SelectItem.aggregate?, Query.predicates, links, Predicate.columnEquality?, hab]

theorem project_chain {w : Row × Row × Row} {v : Value} (shared : shared? field w = some v) :
    (chain a b c w).project (consecutive table field a b c).items = .ok (.ofList [(field, v)]) := by
  have bound : (chain a b c w).row? a = some w.1 := by simp [chain, Tuple.row?]
  have value : (chain a b c w).resolve? ⟨some a, field⟩ = some v := by
    rw [Tuple.resolve?_qualified bound, shared?_eq_some shared]
  apply Tuple.project_eq_ofList _ _ [[(field, v)]]
  simp [consecutive, Tuple.contribution, value, pure, Except.pure, bind, Except.bind]

theorem project_windows (ws : List (Row × Row × Row)) :
    ((ws.filter fun w => (shared? field w).isSome).map (chain a b c)).mapM
      (Tuple.project (consecutive table field a b c).items) =
        .ok ((ws.filterMap (shared? field)).map fun v => .ofList [(field, v)]) := by
  have projected : ∀ w ∈ ws.filter (fun w => (shared? field w).isSome),
      (Tuple.project (consecutive table field a b c).items ∘ chain a b c) w =
        .ok (.ofList [(field, (w.1.get? field).getD .null)]) := by
    intro w hw
    obtain ⟨v, shared⟩ := Option.isSome_iff_exists.mp (List.mem_filter.mp hw).2
    rw [Function.comp, project_chain shared, shared?_eq_some shared]
    rfl
  rw [List.mapM_map, mapM_eq_ok projected]
  congr 1
  apply map_filter_isSome
  intro w v shared
  rw [shared?_eq_some shared]
  rfl

variable (hab : a ≠ b) (hbc : b ≠ c) (hac : a ≠ c)
include hab hbc hac

/-- The conditions ask for consecutive rows that share a value. -/
theorem satisfiesAll_chain (w : Row × Row × Row) :
    Tuple.satisfiesAll (consecutive table field a b c).conjuncts (chain a b c w) =
      ((precedes w.1 w.2.1 && precedes w.2.1 w.2.2) && (shared? field w).isSome) := by
  have first : (chain a b c w).row? a = some w.1 := by simp [chain, Tuple.row?]
  have second : (chain a b c w).row? b = some w.2.1 := by simp [chain, Tuple.row?, hab]
  have third : (chain a b c w).row? c = some w.2.2 := by simp [chain, Tuple.row?, hbc, hac]
  rw [isSome_shared?, ← satisfies_precedes first second, ← satisfies_precedes second third,
    ← satisfies_alike first second, ← satisfies_alike second third]
  simp [Query.conjuncts, consecutive, Tuple.satisfiesAll, Bool.and_assoc]

theorem tuples?_consecutive {store : Store} {relation : Relation}
    (found : store.relation? table = some relation) {first : Int}
    (counts : CountsUp first relation.rows) :
    (consecutive table field a b c).tuples? store =
      some (((windows relation.rows).filter fun w => (shared? field w).isSome).map
        (chain a b c)) := by
  have unconditioned : ∀ source ∈ (consecutive table field a b c).sources.tail,
      source.conditions = [] := by simp [consecutive]
  have inner : (consecutive table field a b c).sources.tail.any (·.kind = .left) = false := by
    simp [consecutive]
  rw [Query.tuples?_eq _ store rfl (Query.settled_of_unconditioned _ unconditioned), inner,
    Query.selected?, product?_consecutive found, ← filter_triples counts.successive,
    List.filter_filter, Option.map_some, List.filter_map]
  simp only [Bool.false_eq_true, ↓reduceIte]
  congr 2
  apply List.filter_congr
  intro w _
  rw [Bool.and_comm]
  exact satisfiesAll_chain hab hbc hac w

end

/-- Over rows whose ids count up, the answer to the join of three consecutive rows consists of the
projections of the joined tuples without those that are loosely equal to an earlier one. -/
theorem answer_eq_distinct_projections {store : Store} {table : String} {relation : Relation}
    (found : store.relation? table = some relation) {first : Int}
    (counts : CountsUp first relation.rows) (field : String) {a b c : String} (hab : a ≠ b)
    (hbc : b ≠ c) (hac : a ≠ c) :
    ∃ (tuples : List Tuple) (values : List Value),
      (consecutive table field a b c).tuples? store = some tuples ∧
      tuples.mapM (Tuple.project (consecutive table field a b c).items) =
        .ok (values.map fun v => .ofList [(field, v)]) ∧
      answer? (consecutive table field a b c) store =
        .ok (some ((values.eraseDupsBy Value.looselyEquals).map fun v => .ofList [(field, v)])) := by
  refine ⟨_, (windows relation.rows).filterMap (shared? field),
    tuples?_consecutive hab hbc hac found counts, project_windows _, ?_⟩
  have unlimited : (consecutive table field a b c).limit = none := rfl
  rw [answer?, recognize?_consecutive hab]
  simp only [found, Option.map_some, runs, foldl_addNew, Query.cut_of_unlimited unlimited]

theorem answer_eq_distinct_projections_logs :
    (Query.ofText? "SELECT DISTINCT l1.num FROM logs l1, logs l2, logs l3
      WHERE l1.id = l2.id - 1 AND l2.id = l3.id - 1 AND l1.num = l2.num
        AND l2.num = l3.num").toOption = some (consecutive "logs" "num" "l1" "l2" "l3") ∧
    Sample.store.relation? "logs" = some Sample.logs ∧ CountsUp 1 Sample.logs.rows ∧
    ∃ (tuples : List Tuple) (values : List Value),
      (consecutive "logs" "num" "l1" "l2" "l3").tuples? Sample.store = some tuples ∧
      answer? (consecutive "logs" "num" "l1" "l2" "l3") Sample.store =
        .ok (some ((values.eraseDupsBy Value.looselyEquals).map fun v => .ofList [("num", v)])) := by
  have found : Sample.store.relation? "logs" = some Sample.logs := rfl
  have counts : CountsUp 1 Sample.logs.rows := by decide
  obtain ⟨tuples, values, joined, _, answered⟩ := answer_eq_distinct_projections found counts "num"
    (show "l1" ≠ "l2" by decide) (show "l2" ≠ "l3" by decide) (show "l1" ≠ "l3" by decide)
  exact ⟨by decide +kernel, found, counts, tuples, values, joined, answered⟩

end QueryShapes.Adjacency
