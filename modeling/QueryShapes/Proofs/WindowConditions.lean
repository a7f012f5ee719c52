import Mathlib.Data.List.OfFn
import QueryShapes.Proofs.ConsecutiveRows
import QueryShapes.Proofs.IdOrder
import QueryShapes.Proofs.KeyJoin
import QueryShapes.Proofs.Rows

/-!
# The conditions that windows decide

A query over consecutive rows is answered without a look at its conditions, beyond the one equality
that it is recognized by. What can be said of the others is due to the rows of a window alone: they
share the field, and where ids ascend in storage order, theirs do.

- `Tuple.along`: the tuple that gives each source, in order, one of the listed rows.
- `mem_of_answer?`: a value of an answer is shared by a window.
- `arranged`: the tuple that gives each source the row at some place of a window.
- `outcome?`: how the operands of a condition compare in all windows, by the places of their rows.
- `satisfies_of_outcome?`: so windows decide the conditions on the field and on plain ids.
- `satisfies_constant`, `satisfies_sums`: a condition between the field and a constant is decided by the
  shared value, and one between integer ids, with constants added, by their sums.
-/

namespace QueryShapes

/-! ## One row for each source -/

namespace Query

/-- The number of the source that a column belongs to; a bare name belongs to the first source. -/
def place? (query : Query) (column : Column) : Option Nat :=
  query.sources.findIdx? fun source => column.qualifier.all (source.binding = ·)

theorem place?_bare {query : Query} (bound : query.sources ≠ []) (name : String) :
    query.place? ⟨none, name⟩ = some 0 := by
  obtain ⟨first, rest, sources⟩ := List.exists_cons_of_ne_nil bound
  simp [place?, sources, List.findIdx?_cons]

end Query

namespace Tuple

/-- The tuple of the listed rows, each under the binding of the source at its place. -/
def along (sources : List Source) (rows : List Row) : Tuple :=
  ⟨(sources.map Source.binding).zip rows⟩

theorem along_cons (source : Source) (sources : List Source) (row : Row) (rows : List Row) :
    along (source :: sources) (row :: rows) =
      (single source.binding row).append (along sources rows) :=
  rfl

theorem row?_along (sources : List Source) (rows : List Row) (name : String) :
    (along sources rows).row? name =
      (sources.findIdx? (·.binding = name)).bind (rows[·]?) := by
  induction sources generalizing rows with
  | nil => rfl
  | cons source sources ih =>
    cases rows with
    | nil => simp [along, row?]
    | cons row rows =>
      rw [along_cons, row?_single_append, List.findIdx?_cons, ih]
      by_cases here : source.binding = name <;> simp [here, Option.bind_map]

/-- A qualified column reads the row of its source. -/
theorem resolve?_along_qualified (query : Query) (rows : List Row) (qualifier name : String) :
    (along query.sources rows).resolve? ⟨some qualifier, name⟩ =
      ((query.place? ⟨some qualifier, name⟩).bind (rows[·]?)).bind (·.get? name) := by
  simp only [resolve?, row?_along, Query.place?, Option.all_some]

theorem resolve?_along {query : Query} {rows : List Row} {column : Column} {i : Nat} {row : Row}
    {value : Value} (placed : query.place? column = some i) (bound : rows[i]? = some row)
    (holds : row.get? column.name = some value) :
    (along query.sources rows).resolve? column = some value := by
  obtain ⟨qualifier, name⟩ := column
  cases qualifier with
  | some qualifier => rw [resolve?_along_qualified, placed, Option.bind_some, bound, Option.bind_some, holds]
  | none =>
    -- A bare column belongs to the first source, and its row has the field.
    cases sources : query.sources with
    | nil => simp [Query.place?, sources] at placed
    | cons source rest =>
      obtain rfl : 0 = i := by simpa [Query.place?, sources, List.findIdx?_cons] using placed
      cases rows with
      | nil => cases bound
      | cons first rows =>
        obtain rfl := Option.some_inj.mp bound
        rw [along_cons, resolve?_bare_of_first (by simp [holds]), holds]

theorem satisfies_of_evaluate? {t : Tuple} {p : Predicate} {u v : Value}
    (left : t.evaluate? p.left = some u) (right : t.evaluate? p.right = some v) :
    t.satisfies p = (u.compare? v).any p.op.holds := by
  simp only [satisfies, left, right]

end Tuple

/-- The tuples of sources that all read one relation. -/
theorem Query.exists_product {store : Store} {sources : List Source} {relation : Relation}
    (found : ∀ source ∈ sources, store.relation? source.table = some relation) :
    ∃ tuples, product? store sources = some tuples ∧ ∀ t, t ∈ tuples ↔
      ∃ rows, rows.length = sources.length ∧ rows ⊆ relation.rows ∧ t = Tuple.along sources rows := by
  induction sources with
  | nil =>
    refine ⟨[⟨[]⟩], rfl, fun t => ?_⟩
    simp [Tuple.along]
  | cons source rest ih =>
    obtain ⟨tails, combined, within⟩ := ih fun s hs => found s (List.mem_cons_of_mem _ hs)
    refine ⟨relation.rows.flatMap fun row => tails.map (Tuple.single source.binding row).append,
      by simp [product?, found source List.mem_cons_self, combined], fun t => ?_⟩
    rw [List.mem_flatMap]
    constructor
    · rintro ⟨row, here, joined⟩
      obtain ⟨tail, member, rfl⟩ := List.mem_map.mp joined
      obtain ⟨rows, length, stored, rfl⟩ := (within tail).mp member
      exact ⟨row :: rows, by simp [length], List.cons_subset.mpr ⟨here, stored⟩, rfl⟩
    · rintro ⟨rows, length, stored, rfl⟩
      cases rows with
      | nil => cases length
      | cons row rows =>
        obtain ⟨here, later⟩ := List.cons_subset.mp stored
        refine ⟨row, here, List.mem_map.mpr ⟨_, (within _).mpr ⟨rows, ?_, later, rfl⟩, rfl⟩⟩
        simpa using length

namespace Adjacency

/-! ## The rows of a window -/

def rowsOf (w : Row × Row × Row) : List Row := [w.1, w.2.1, w.2.2]

/-- The row at a place of the window. -/
def rowAt (w : Row × Row × Row) (i : Fin 3) : Row := (rowsOf w).get i

@[simp]
theorem rowAt_zero (w : Row × Row × Row) : rowAt w 0 = w.1 := rfl

@[simp]
theorem rowAt_one (w : Row × Row × Row) : rowAt w 1 = w.2.1 := rfl

@[simp]
theorem rowAt_two (w : Row × Row × Row) : rowAt w 2 = w.2.2 := rfl

theorem mem_rowsOf_iff {w : Row × Row × Row} {row : Row} : row ∈ rowsOf w ↔ ∃ i, rowAt w i = row :=
  List.mem_iff_get

theorem exists_split_of_mem_windows {α : Type} {items : List α} {w : α × α × α}
    (h : w ∈ windows items) :
    ∃ before after, items = before ++ w.1 :: w.2.1 :: w.2.2 :: after := by
  fun_induction windows items with
  | case1 a b c rest ih =>
    obtain rfl | later := List.mem_cons.mp h
    · exact ⟨[], rest, rfl⟩
    · obtain ⟨before, after, split⟩ := ih later
      exact ⟨a :: before, after, by rw [split, List.cons_append]⟩
  | case2 => cases h

section
variable {relation : Relation} {w : Row × Row × Row}

theorem rowsOf_sublist (h : w ∈ windows relation.rows) : (rowsOf w).Sublist relation.rows := by
  obtain ⟨before, after, split⟩ := exists_split_of_mem_windows h
  rw [split]
  exact (List.sublist_append_left (rowsOf w) after).trans (List.sublist_append_right before _)

theorem rowsOf_subset (h : w ∈ windows relation.rows) : rowsOf w ⊆ relation.rows :=
  (rowsOf_sublist h).subset

theorem rowsOf_ascend (ordered : relation.isOrderedById) (h : w ∈ windows relation.rows) :
    (rowsOf w).Pairwise fun a b => Relation.idsAscend a b :=
  (Relation.isOrderedById_iff_pairwise.mp ordered).sublist (rowsOf_sublist h)

/-- Ids that ascend compare as the places of their rows do. -/
theorem compare?_ids (ascend : (rowsOf w).Pairwise fun a b => Relation.idsAscend a b) (i j : Fin 3) :
    ∃ u v, (rowAt w i).get? "id" = some u ∧ (rowAt w j).get? "id" = some v ∧
      u.compare? v = some (compare i j) := by
  have below (i j : Fin 3) (before : i < j) := List.pairwise_iff_get.mp ascend i j before
  have ordered (i j : Fin 3) (before : i < j) : ∃ u v, (rowAt w i).get? "id" = some u ∧
      (rowAt w j).get? "id" = some v ∧ u.compare? v = some .lt :=
    Relation.idsAscend_iff.mp (below i j before)
  obtain before | rfl | after := lt_trichotomy i j
  · rw [compare_lt_iff_lt.mpr before]
    exact ordered i j before
  · -- Having an id that compares with another row's, the row compares with itself.
    obtain ⟨u, hu, comparable⟩ : ∃ u, (rowAt w i).get? "id" = some u ∧ u.IsComparable := by
      obtain rfl | later := (Fin.zero_le i).eq_or_lt
      · obtain ⟨u, _, hu, _, compared⟩ := ordered 0 1 (by decide)
        exact ⟨u, hu, (Value.isSome_compare?_iff.mp (Option.isSome_of_eq_some compared)).1⟩
      · obtain ⟨_, u, _, hu, compared⟩ := ordered 0 i later
        exact ⟨u, hu, (Value.isSome_compare?_iff.mp (Option.isSome_of_eq_some compared)).2.1⟩
    rw [compare_eq_iff_eq.mpr rfl]
    exact ⟨u, u, hu, hu, beq_iff_eq.mp (Value.looselyEquals_self comparable)⟩
  · obtain ⟨v, u, hv, hu, compared⟩ := ordered j i after
    rw [compare_gt_iff_gt.mpr after]
    exact ⟨u, v, hu, hv, by rw [Value.compare?_flip v u, compared]; rfl⟩

/-- Where ids count up, the ids of a window do. -/
theorem exists_count {first : Int} (counts : CountsUp first relation.rows)
    (h : w ∈ windows relation.rows) :
    ∃ n : Int, ∀ i : Fin 3, integerId? (rowAt w i) = some (n + i) ∧ (n + i).natAbs < 2 ^ 53 := by
  obtain ⟨before, after, split⟩ := exists_split_of_mem_windows h
  rw [split] at counts
  obtain ⟨firstId, secondId, thirdId, _⟩ := counts.split.2
  refine ⟨first + before.length, fun i => ?_⟩
  match i with
  | 0 => simpa using firstId
  | 1 => simpa using secondId
  | 2 => simpa [Int.add_assoc] using thirdId

end

/-- Every row of a window that shares a value has it, up to loose equality; the first row has the very
value. -/
theorem exists_shared {field : String} {w : Row × Row × Row} {v : Value}
    (h : shared? field w = some v) (i : Fin 3) :
    ∃ u, (rowAt w i).get? field = some u ∧ v.looselyEquals u ∧ (i = 0 → u = v) := by
  obtain ⟨hv, y, z, hy, hz, hvy, hyz⟩ := shared?_eq_some_iff.mp h
  have hvv := Value.looselyEquals_trans hvy (Value.looselyEquals_symm hvy)
  have hvz := Value.looselyEquals_trans hvy hyz
  match i with
  | 0 => exact ⟨v, hv, hvv, fun _ => rfl⟩
  | 1 => exact ⟨y, hy, hvy, by simp⟩
  | 2 => exact ⟨z, hz, hvz, by simp⟩

/-! ## Answers -/

theorem recognize?_eq_some {query : Query} {table field output : String}
    (h : recognize? query = some (table, field, output)) :
    ∃ column label, query.items = [.column column label] ∧ field = column.name ∧
      output = label.getD column.name ∧ query.sources.length = 3 ∧
      ∀ source ∈ query.sources, source.table = table := by
  unfold recognize? at h
  split at h
  · rename_i first second third column label sources items
    split at h
    · rename_i self
      obtain ⟨rfl, rfl, rfl⟩ : first.table = table ∧ column.name = field ∧
          label.getD column.name = output := by simpa using h
      have same : query.isSelfJoin := self.1
      refine ⟨column, label, items, rfl, rfl, by simp [sources], ?_⟩
      simpa [Query.isSelfJoin, sources] using same
    · cases h
  · cases h

theorem mem_foldl_addNew {values found : List Value} {v : Value}
    (h : v ∈ values.foldl addNew found) : v ∈ found ∨ v ∈ values := by
  induction values generalizing found with
  | nil => exact .inl h
  | cons value values ih =>
    obtain earlier | later := ih h
    · unfold addNew at earlier
      split at earlier
      · exact .inl earlier
      · exact (List.mem_append.mp earlier).imp_right fun here =>
          List.mem_cons.mpr (.inl (List.mem_singleton.mp here))
    · exact .inr (List.mem_cons_of_mem _ later)

theorem mem_runs {field : String} {rows : List Row} {v : Value} (h : v ∈ runs field rows) :
    ∃ w ∈ windows rows, shared? field w = some v := by
  obtain none | found := mem_foldl_addNew h
  · cases none
  · exact List.mem_filterMap.mp found

theorem mem_of_answer? {query : Query} {store : Store} {answers : List Row}
    (h : answer? query store = .ok (some answers)) :
    ∃ table field output relation, recognize? query = some (table, field, output) ∧
      store.relation? table = some relation ∧
      ∀ row ∈ answers, ∃ w ∈ windows relation.rows, ∃ value, shared? field w = some value ∧
        row = .ofList [(output, value)] := by
  unfold answer? at h
  split at h
  · rename_i table field output recognized
    obtain ⟨relation, found, rfl⟩ := Option.map_eq_some_iff.mp (Except.ok.inj h)
    refine ⟨table, field, output, relation, recognized, found, ?_⟩
    intro row hrow
    obtain ⟨value, hvalue, rfl⟩ := List.mem_map.mp (Query.mem_of_mem_cut hrow)
    obtain ⟨w, hw, shared⟩ := mem_runs hvalue
    exact ⟨w, hw, value, shared, rfl⟩
  · cases Except.ok.inj h

/-! ## Arranged rows -/

/-- The tuple that gives each source the row at some place of the window. -/
def arranged (query : Query) (w : Row × Row × Row) (place : Fin 3 → Fin 3) : Tuple :=
  Tuple.along query.sources (List.ofFn fun source => rowAt w (place source))

/-- The place of the row that a column reads. -/
def placeOf? (query : Query) (place : Fin 3 → Fin 3) (column : Column) : Option (Fin 3) :=
  (query.place? column).bind ((List.ofFn place)[·]?)

/-- How the operands of a condition compare in all windows of ascending ids that share the field: its
values are level, and plain ids compare as the places of their rows do. -/
def outcome? (query : Query) (field : String) (place : Fin 3 → Fin 3) (p : Predicate) :
    Option Ordering :=
  match p.left, p.right with
  | .column x, .column y => do
    let i ← placeOf? query place x
    let j ← placeOf? query place y
    if x.name = field ∧ y.name = field then some .eq
    else if x.name = "id" ∧ y.name = "id" then some (compare i j)
    else none
  | .literal u, .literal v => u.compare? v
  | _, _ => none

/-- The place of the id that an operand reads, and the constant that it adds. -/
def idSum? (query : Query) (place : Fin 3 → Fin 3) : Operand → Option (Fin 3 × Int)
  | .column c => if c.name = "id" then (placeOf? query place c).map (·, 0) else none
  | .shifted c offset =>
    if c.name = "id" then (placeOf? query place c).map (·, offset.toInt) else none
  | .literal _ => none

section
variable {query : Query} {relation : Relation} {field : String} {w : Row × Row × Row} {value : Value}
  {place : Fin 3 → Fin 3} {p : Predicate}

theorem ofFn_rowAt (w : Row × Row × Row) (place : Fin 3 → Fin 3) :
    (List.ofFn fun source => rowAt w (place source)) = (List.ofFn place).map (rowAt w) :=
  List.map_ofFn.symm

theorem resolve?_arranged {column : Column} {i : Fin 3} {v : Value}
    (placed : placeOf? query place column = some i) (holds : (rowAt w i).get? column.name = some v) :
    (arranged query w place).resolve? column = some v := by
  obtain ⟨source, owner, here⟩ := Option.bind_eq_some_iff.mp placed
  refine Tuple.resolve?_along owner ?_ holds
  rw [ofFn_rowAt, List.getElem?_map, here, Option.map_some]

/-- A column as an operand has the value that its row has. -/
theorem evaluate?_arranged {operand : Operand} {column : Column} (reads : operand = .column column)
    {i : Fin 3} {v : Value} (placed : placeOf? query place column = some i) {name : String}
    (named : column.name = name) (holds : (rowAt w i).get? name = some v) :
    (arranged query w place).evaluate? operand = some v := by
  rw [reads]
  exact resolve?_arranged placed (named ▸ holds)

theorem satisfies_of_outcome? (ascend : (rowsOf w).Pairwise fun a b => Relation.idsAscend a b)
    (shared : shared? field w = some value) {o : Ordering}
    (decided : outcome? query field place p = some o) :
    (arranged query w place).satisfies p = p.op.holds o := by
  unfold outcome? at decided
  split at decided
  · rename_i x y left right
    obtain ⟨i, hi, decided⟩ := Option.bind_eq_some_iff.mp decided
    obtain ⟨j, hj, decided⟩ := Option.bind_eq_some_iff.mp decided
    split at decided
    · rename_i names
      obtain rfl := Option.some_inj.mp decided
      obtain ⟨u, hu, alike, _⟩ := exists_shared shared i
      obtain ⟨v, hv, alike', _⟩ := exists_shared shared j
      have equal := Value.looselyEquals_trans (Value.looselyEquals_symm alike) alike'
      rw [Tuple.satisfies_of_evaluate? (evaluate?_arranged left hi names.1 hu)
        (evaluate?_arranged right hj names.2 hv), beq_iff_eq.mp equal, Option.any_some]
    · split at decided
      · rename_i names
        obtain rfl := Option.some_inj.mp decided
        obtain ⟨u, v, hu, hv, compared⟩ := compare?_ids ascend i j
        rw [Tuple.satisfies_of_evaluate? (evaluate?_arranged left hi names.1 hu)
          (evaluate?_arranged right hj names.2 hv), compared, Option.any_some]
      · cases decided
  · rename_i u v left right
    have hu : (arranged query w place).evaluate? p.left = some u := by rw [left]; rfl
    have hv : (arranged query w place).evaluate? p.right = some v := by rw [right]; rfl
    rw [Tuple.satisfies_of_evaluate? hu hv, decided, Option.any_some]
  · cases decided

theorem satisfies_constant (shared : shared? field w = some value) {x : Column} {op : Comparison}
    {c : Value} (compares : p.columnVsLiteral? = some (x, op, c)) (named : x.name = field)
    (placed : (placeOf? query place x).isSome) :
    (arranged query w place).satisfies p = (value.compare? c).any op.holds := by
  obtain ⟨i, hi⟩ := Option.isSome_iff_exists.mp placed
  obtain ⟨u, hu, alike, _⟩ := exists_shared shared i
  have direct (op : Comparison) : (arranged query w place).satisfies ⟨.column x, op, .literal c⟩ =
      (value.compare? c).any op.holds := by
    rw [Tuple.satisfies_of_evaluate? (evaluate?_arranged rfl hi named hu) rfl,
      Value.compare?_congr alike]
  obtain ⟨left, op', right⟩ := p
  cases left <;> cases right <;> cases compares
  · exact direct _
  · rw [← direct, ← Tuple.satisfies_swapped]
    rfl

/-- An id with a constant added is an integer, as long as the sum is small. -/
theorem exists_sum {ids : Fin 3 → Int} (integers : ∀ i, integerId? (rowAt w i) = some (ids i))
    {operand : Operand} {i : Fin 3} {d : Int} (reads : idSum? query place operand = some (i, d))
    (small : (ids i + d).natAbs ≤ 2 ^ 53) :
    ∃ a : Int64, (arranged query w place).evaluate? operand = some (.integer a) ∧
      a.toInt = ids i + d := by
  cases operand with
  | literal => cases reads
  | column c =>
    obtain ⟨named, reads⟩ := Option.ite_none_right_eq_some.mp reads
    obtain ⟨_, placed, same⟩ := Option.map_eq_some_iff.mp reads
    cases same
    obtain ⟨a, ha, exact⟩ := integerId?_eq_some (integers i)
    exact ⟨a, resolve?_arranged placed (named ▸ ha), by rw [exact, Int.add_zero]⟩
  | shifted c offset =>
    obtain ⟨named, reads⟩ := Option.ite_none_right_eq_some.mp reads
    obtain ⟨_, placed, same⟩ := Option.map_eq_some_iff.mp reads
    cases same
    obtain ⟨a, ha, exact⟩ := integerId?_eq_some (integers i)
    have sum : (Int64.ofInt (ids i + offset.toInt)).toInt = ids i + offset.toInt :=
      Int64.toInt_ofInt_of_le (by omega) (by omega)
    refine ⟨_, ?_, sum⟩
    rw [Tuple.evaluate?, resolve?_arranged placed (named ▸ ha), Option.bind_some, Value.shift?,
      checkedAdd?, exact, int64OfInt?_eq_some_iff.mpr sum, Option.map_some]

theorem satisfies_sums {ids : Fin 3 → Int} (integers : ∀ i, integerId? (rowAt w i) = some (ids i))
    {i j : Fin 3} {d e : Int} (left : idSum? query place p.left = some (i, d))
    (right : idSum? query place p.right = some (j, e)) (small : (ids i + d).natAbs ≤ 2 ^ 53)
    (small' : (ids j + e).natAbs ≤ 2 ^ 53) :
    (arranged query w place).satisfies p = p.op.holds (compare (ids i + d) (ids j + e)) := by
  obtain ⟨a, ha, sum⟩ := exists_sum integers left small
  obtain ⟨b, hb, sum'⟩ := exists_sum integers right small'
  rw [Tuple.satisfies_of_evaluate? ha hb, Value.compare?_integer, sum, sum',
    Double.significant_exact small, Double.significant_exact small', Option.any_some]

end

end Adjacency
end QueryShapes
