import Mathlib.Data.Fin.VecNotation
import Mathlib.Data.Fintype.Pi
import QueryShapes.Proofs.WindowConditions

/-!
# The conditions that answers keep

A condition is kept by an answer over consecutive rows if each value is projected from a joined tuple that
meets it.

- `Supports`: what is known of the window that a value is read from, whichever of its rows each source is
  given.
- `AlwaysMet`: some arrangement of a window meets all conditions of a query, whatever the window holds.
- `not_loses_iff`: over all stores of ordered relations, exactly the queries of this kind, and those that
  answer nothing, lose no condition.
- `answers_keep_conditions`: what the answers of a query keep.
- `answers_drop_conditions`: conditions on ids, gaps between ids and unbound columns are lost.
-/

namespace QueryShapes

namespace Adjacency

/-! ## Windows that support a value -/

/-- A value is read from a window of stored rows: they ascend by id and share the value. Whichever of the
rows each source is given, the tuple is joined, and the window decides what the tuple meets. -/
structure Supports (query : Query) (relation : Relation) (tuples : List Tuple) (column : Column)
    (row : Row) (w : Row × Row × Row) (value : Value) : Prop where
  stored : w ∈ windows relation.rows
  first : w.1.get? column.name = some value
  ascend : (rowsOf w).Pairwise fun a b => Relation.idsAscend a b
  joined : ∀ place, arranged query w place ∈ tuples
  level : ∀ place, (placeOf? query place column).isSome →
    ∃ u, (arranged query w place).resolve? column = some u ∧ value.looselyEquals u
  projected : ∀ place, placeOf? query place column = some 0 →
    (arranged query w place).project query.items = .ok row
  /-- Conditions on the field and on plain ids, by the places of the rows. -/
  decided : ∀ place p o, outcome? query column.name place p = some o →
    (arranged query w place).satisfies p = p.op.holds o
  /-- Conditions between the field and a constant, by the value. -/
  constant : ∀ place p x op c, p.columnVsLiteral? = some (x, op, c) → x.name = column.name →
    (placeOf? query place x).isSome →
    (arranged query w place).satisfies p = (value.compare? c).any op.holds
  /-- Conditions on integer ids, with constants added, by the sums. -/
  sums : ∀ ids : Fin 3 → Int, (∀ i, integerId? (rowAt w i) = some (ids i)) → ∀ place p i j d e,
    idSum? query place p.left = some (i, d) → idSum? query place p.right = some (j, e) →
    (ids i + d).natAbs ≤ 2 ^ 53 → (ids j + e).natAbs ≤ 2 ^ 53 →
    (arranged query w place).satisfies p = p.op.holds (compare (ids i + d) (ids j + e))
  /-- The same where ids count up, by the distance of the places and the constants. -/
  counted : ∀ start, CountsUp start relation.rows →
    ∃ n : Int, (∀ i : Fin 3, integerId? (rowAt w i) = some (n + i) ∧ (n + i).natAbs < 2 ^ 53) ∧
      ∀ place p i j d e, idSum? query place p.left = some (i, d) →
        idSum? query place p.right = some (j, e) →
        (n + i + d).natAbs ≤ 2 ^ 53 → (n + j + e).natAbs ≤ 2 ^ 53 →
        (arranged query w place).satisfies p = p.op.holds (compare (i + d) (j + e))

section
variable {query : Query} {relation : Relation} {column : Column} {label : Option String}
  {w : Row × Row × Row} {value : Value}

theorem project_column (t : Tuple) (items : query.items = [.column column label]) :
    t.project query.items =
      .ok (.ofList [(label.getD column.name, (t.resolve? column).getD .null)]) := by
  rw [items]
  exact Tuple.project_eq_ofList _ _ [[(label.getD column.name, (t.resolve? column).getD .null)]] rfl

theorem supports_of_shared (three : query.sources.length = 3) {tuples : List Tuple}
    (within : ∀ t, t ∈ tuples ↔ ∃ rows, rows.length = query.sources.length ∧ rows ⊆ relation.rows ∧
      t = Tuple.along query.sources rows)
    (ordered : relation.isOrderedById) (items : query.items = [.column column label])
    (hw : w ∈ windows relation.rows) (shared : shared? column.name w = some value) :
    Supports query relation tuples column (.ofList [(label.getD column.name, value)]) w value where
  stored := hw
  first := shared?_eq_some shared
  ascend := rowsOf_ascend ordered hw
  joined place := by
    refine (within _).mpr ⟨_, by simp [three], fun row member => ?_, rfl⟩
    obtain ⟨source, rfl⟩ := List.mem_ofFn.mp member
    exact rowsOf_subset hw (mem_rowsOf_iff.mpr ⟨_, rfl⟩)
  level place placed := by
    obtain ⟨i, hi⟩ := Option.isSome_iff_exists.mp placed
    obtain ⟨u, hu, alike, _⟩ := exists_shared shared i
    exact ⟨u, resolve?_arranged hi hu, alike⟩
  projected place placed := by
    rw [project_column _ items, resolve?_arranged placed (w := w) (shared?_eq_some shared)]
    rfl
  decided _ _ _ decided := satisfies_of_outcome? (rowsOf_ascend ordered hw) shared decided
  constant _ _ _ _ _ compares named placed := satisfies_constant shared compares named placed
  sums _ integers _ _ _ _ _ _ left right := satisfies_sums integers left right
  counted start counts := by
    obtain ⟨n, integers⟩ := exists_count counts hw
    refine ⟨n, fun i => ⟨(integers i).1, (integers i).2⟩, ?_⟩
    intro place p i j d e left right small small'
    rw [satisfies_sums (fun i => (integers i).1) left right small small']
    congr 1
    exact compare_congr (by omega) (by omega)

end

/-- Each value of an answer is read from a window. -/
theorem exists_supports {query : Query} {store : Store} {answers : List Row}
    (ordered : ∀ relation ∈ store.relations, relation.isOrderedById)
    (answered : answer? query store = .ok (some answers)) :
    ∃ table relation tuples column label,
      (∀ source ∈ query.sources, source.table = table) ∧
      store.relation? table = some relation ∧
      Query.product? store query.sources = some tuples ∧
      query.items = [.column column label] ∧
      ∀ row ∈ answers, ∃ value w, row = .ofList [(label.getD column.name, value)] ∧
        shared? column.name w = some value ∧ Supports query relation tuples column row w value := by
  obtain ⟨table, _, _, relation, recognized, found, read⟩ := mem_of_answer? answered
  obtain ⟨column, label, items, rfl, rfl, three, same⟩ := recognize?_eq_some recognized
  have ascending := ordered relation (List.mem_of_find?_eq_some found)
  have each : ∀ source ∈ query.sources, store.relation? source.table = some relation := by
    intro source member
    rw [same source member, found]
  obtain ⟨tuples, product, within⟩ := Query.exists_product each
  refine ⟨table, relation, tuples, column, label, same, found, product, items, ?_⟩
  intro row hrow
  obtain ⟨w, hw, value, shared, rfl⟩ := read row hrow
  exact ⟨value, w, rfl, shared, supports_of_shared three within ascending items hw shared⟩

/-! ## Conditions that are lost -/

/-- Once a query is recognized, further conditions have no say in its answer. -/
theorem answer?_of_more_conditions {query : Query} (recognized : (recognize? query).isSome)
    (more : List Predicate) (store : Store) :
    answer? { query with filter := query.filter ++ more } store = answer? query store := by
  have same : recognize? { query with filter := query.filter ++ more } = recognize? query := by
    obtain ⟨distinct, items, sources, filter, groupBy, orderBy, limit⟩ := query
    unfold recognize? at recognized
    split at recognized
    · rename_i first second third column label hsources hitems
      obtain rfl := hsources
      obtain rfl := hitems
      split at recognized
      · rename_i asked
        obtain ⟨self, plain, linked⟩ := asked
        have linked' : (Query.predicates ⟨distinct, [.column column label], [first, second, third],
            filter ++ more, groupBy, orderBy, limit⟩).any (links column.name) := by
          simp only [Query.predicates, List.any_append, Bool.or_eq_true] at linked ⊢
          exact linked.imp_left .inl
        exact (if_pos ⟨self, plain, linked'⟩).trans (if_pos ⟨self, plain, linked⟩).symm
      · cases recognized
    · cases recognized
  rw [answer?, same, answer?]
  rfl

/-- For some row of the answer, every joined tuple that it is projected from fails a condition. -/
def Loses (query : Query) (store : Store) : Prop :=
  ∃ answers tuples, answer? query store = .ok (some answers) ∧
    Query.product? store query.sources = some tuples ∧
    ∃ row ∈ answers, ∀ t ∈ tuples, t.project query.items = .ok row →
      ∃ p ∈ query.predicates, t.satisfies p = false

def loses (query : Query) (store : Store) : Bool :=
  match (answer? query store).toOption.join, Query.product? store query.sources with
  | some answers, some tuples => answers.any fun row => tuples.all fun t =>
    (t.project query.items).toOption = some row → query.predicates.any (!t.satisfies ·)
  | _, _ => false

theorem loses_iff {query : Query} {store : Store} : loses query store ↔ Loses query store := by
  have projects (t : Tuple) (row : Row) :
      (t.project query.items).toOption = some row ↔ t.project query.items = .ok row := by
    cases t.project query.items <;> simp [Except.toOption]
  have answers (rows : List Row) : (answer? query store).toOption.join = some rows ↔
      answer? query store = .ok (some rows) := by
    cases answer? query store <;> simp [Except.toOption]
  unfold loses Loses
  split
  · rename_i rows tuples answered product
    simp [(answers rows).mp answered, product, projects, imp_iff_not_or]
  · rename_i missing
    simp only [Bool.false_eq_true, false_iff]
    rintro ⟨rows, tuples, answered, product, _⟩
    exact missing rows tuples ((answers rows).mpr answered) product

/-! ## Conditions that are always met -/

/-- Some arrangement takes the projected column from the first row and meets all conditions, whatever the
window holds. -/
def AlwaysMet (query : Query) (column : Column) : Prop :=
  ∃ place : Fin 3 → Fin 3, placeOf? query place column = some 0 ∧
    ∀ p ∈ query.predicates, (outcome? query column.name place p).any p.op.holds

instance (query : Query) (column : Column) : Decidable (AlwaysMet query column) :=
  inferInstanceAs (Decidable (∃ _ : Fin 3 → Fin 3, _ ∧ _))

/-! ## Probes

Two windows tell which conditions are always met. One has texts for ids and shares a number, the other has
numbers and shares a text, and neither has further fields. -/

/-- Ids that ascend and values that are level, for the rows of a window. -/
structure Probe where
  ids : Fin 3 → Value
  values : Fin 3 → Value
  ascend : ∀ i j, (ids i).compare? (ids j) = some (compare i j)
  level : ∀ i j, (values i).compare? (values j) = some .eq

namespace Probe

variable (probe : Probe) (field table : String)

def row (i : Fin 3) : Row := .ofList [("id", probe.ids i), (field, probe.values i)]

def window : Row × Row × Row := (probe.row field 0, probe.row field 1, probe.row field 2)

/-- The store of one relation that holds the window. -/
def store : Store := ⟨[⟨table, rowsOf (probe.window field)⟩]⟩

theorem rowAt_window (i : Fin 3) : rowAt (probe.window field) i = probe.row field i := by
  match i with
  | 0 | 1 | 2 => rfl

variable {field} (apart : field ≠ "id")
include apart

theorem get?_row (i : Fin 3) (name : String) : (probe.row field i).get? name =
    if name = "id" then some (probe.ids i) else if name = field then some (probe.values i) else none := by
  rw [row, Row.get?_ofList]
  by_cases id : name = "id"
  · simp [id, Row.lookup_field, apart.symm]
  · by_cases named : name = field <;> simp [id, named, Row.lookup_field, apart]

theorem get?_id (i : Fin 3) : (probe.row field i).get? "id" = some (probe.ids i) := by
  simp [probe.get?_row apart]

theorem get?_field (i : Fin 3) : (probe.row field i).get? field = some (probe.values i) := by
  simp [probe.get?_row apart, apart]

theorem eq_of_get? {i : Fin 3} {v : Value} {name : String}
    (holds : (rowAt (probe.window field) i).get? name = some v) :
    name = "id" ∧ v = probe.ids i ∨ name = field ∧ v = probe.values i := by
  rw [rowAt_window, probe.get?_row apart] at holds
  split at holds
  · exact .inl ⟨‹_›, (Option.some_inj.mp holds).symm⟩
  · obtain ⟨named, same⟩ := Option.ite_none_right_eq_some.mp holds
    exact .inr ⟨named, (Option.some_inj.mp same).symm⟩

theorem ordered_store : ∀ relation ∈ (probe.store field table).relations, relation.isOrderedById := by
  intro relation member
  obtain rfl := List.mem_singleton.mp member
  have below (i j : Fin 3) (before : i < j) :
      Relation.idsAscend (rowAt (probe.window field) i) (rowAt (probe.window field) j) := by
    rw [rowAt_window, rowAt_window, Relation.idsAscend_iff]
    refine ⟨_, _, probe.get?_id apart i, probe.get?_id apart j, ?_⟩
    rw [probe.ascend, compare_lt_iff_lt.mpr before]
  exact Relation.isOrderedById_iff_pairwise.mpr (List.pairwise_iff_get.mpr below)

theorem shared?_window : shared? field (probe.window field) = some (probe.values 0) :=
  shared?_eq_some_iff.mpr ⟨probe.get?_field apart 0, _, _, probe.get?_field apart 1,
    probe.get?_field apart 2, beq_iff_eq.mpr (probe.level 0 1), beq_iff_eq.mpr (probe.level 1 2)⟩

theorem runs_window : runs field (rowsOf (probe.window field)) = [probe.values 0] := by
  have only : windows (rowsOf (probe.window field)) = [probe.window field] := rfl
  rw [runs, only, List.filterMap_cons, probe.shared?_window apart]
  rfl

end Probe

/-! ### What a probe tells -/

section
variable {query : Query} {table field output : String} {place : Fin 3 → Fin 3}

theorem exists_place {w : Row × Row × Row} {rows : List Row} (length : rows.length = 3)
    (stored : rows ⊆ rowsOf w) :
    ∃ place : Fin 3 → Fin 3, rows = List.ofFn fun source => rowAt w (place source) := by
  obtain ⟨a, b, c, rfl⟩ := List.length_eq_three.mp length
  obtain ⟨ha, hb, hc⟩ : a ∈ rowsOf w ∧ b ∈ rowsOf w ∧ c ∈ rowsOf w := by simpa using stored
  obtain ⟨i, rfl⟩ := mem_rowsOf_iff.mp ha
  obtain ⟨j, rfl⟩ := mem_rowsOf_iff.mp hb
  obtain ⟨k, rfl⟩ := mem_rowsOf_iff.mp hc
  exact ⟨![i, j, k], by simp [List.ofFn_succ]⟩

/-- If no condition is lost over a probe, some arrangement of its window gives the answered value and meets
all conditions. -/
theorem Probe.exists_arrangement (probe : Probe) (apart : field ≠ "id")
    (recognized : recognize? query = some (table, field, output)) (limit : query.limit ≠ some 0)
    (kept : ¬Loses query (probe.store field table)) :
    ∃ place, (arranged query (probe.window field) place).project query.items =
        .ok (.ofList [(output, probe.values 0)]) ∧
      ∀ p ∈ query.predicates, (arranged query (probe.window field) place).satisfies p := by
  obtain ⟨_, _, _, _, _, three, same⟩ := recognize?_eq_some recognized
  have found : (probe.store field table).relation? table =
      some ⟨table, rowsOf (probe.window field)⟩ := by
    simp [store, Store.relation?]
  have answered : answer? query (probe.store field table) =
      .ok (some (query.cut [.ofList [(output, probe.values 0)]])) := by
    simp only [answer?, recognized, found, Option.map_some, probe.runs_window apart, List.map_cons,
      List.map_nil]
  have each : ∀ source ∈ query.sources, (probe.store field table).relation? source.table =
      some ⟨table, rowsOf (probe.window field)⟩ := by
    intro source member
    rw [same source member, found]
  obtain ⟨tuples, product, within⟩ := Query.exists_product each
  by_contra missing
  refine kept ⟨_, tuples, answered, product, _, query.mem_cut_singleton limit _, fun t ht projects => ?_⟩
  obtain ⟨rows, length, stored, rfl⟩ := (within t).mp ht
  obtain ⟨place, rfl⟩ := exists_place (length.trans three) stored
  by_contra met
  refine missing ⟨place, projects, fun p hp => ?_⟩
  by_contra fails
  exact met ⟨p, hp, Bool.eq_false_iff.mpr fails⟩

/-- A column that resolves reads the id or the field of a row. -/
theorem Probe.resolve?_eq_some (probe : Probe) (apart : field ≠ "id") {column : Column} {v : Value}
    (bound : query.sources ≠ [])
    (h : (arranged query (probe.window field) place).resolve? column = some v) :
    ∃ i, placeOf? query place column = some i ∧
      (column.name = "id" ∧ v = probe.ids i ∨ column.name = field ∧ v = probe.values i) := by
  obtain ⟨qualifier, name⟩ := column
  cases qualifier with
  | some qualifier =>
    rw [arranged, Tuple.resolve?_along_qualified, ofFn_rowAt] at h
    obtain ⟨row, here, holds⟩ := Option.bind_eq_some_iff.mp h
    obtain ⟨source, owner, there⟩ := Option.bind_eq_some_iff.mp here
    rw [List.getElem?_map] at there
    obtain ⟨i, hi, rfl⟩ := Option.map_eq_some_iff.mp there
    exact ⟨i, Option.bind_eq_some_iff.mpr ⟨source, owner, hi⟩, probe.eq_of_get? apart holds⟩
  | none =>
    -- All rows have the same fields, so the first one is read.
    obtain ⟨entry, member, holds⟩ := List.exists_of_findSome?_eq_some h
    obtain ⟨source, here⟩ := List.mem_ofFn.mp (List.of_mem_zip member).2
    rw [← here] at holds
    have placed : placeOf? query place ⟨none, name⟩ = some (place 0) := by
      rw [placeOf?, Query.place?_bare bound]
      simp
    refine ⟨place 0, placed, ?_⟩
    obtain ⟨id, _⟩ | ⟨named, _⟩ := probe.eq_of_get? apart holds
    · have first := resolve?_arranged (w := probe.window field) placed (v := probe.ids (place 0))
        (by rw [probe.rowAt_window, id, probe.get?_id apart])
      exact .inl ⟨id, Option.some_inj.mp (h.symm.trans first)⟩
    · have first := resolve?_arranged (w := probe.window field) placed (v := probe.values (place 0))
        (by rw [probe.rowAt_window, named, probe.get?_field apart])
      exact .inr ⟨named, Option.some_inj.mp (h.symm.trans first)⟩

end

/-! ### Two probes -/

/-- Texts for ids, and one number in two kinds of values. -/
def textIds : Probe where
  ids := ![.text "a", .text "b", .text "c"]
  values := ![.integer 1, .decimal (.ofInt 1), .decimal (.ofInt 1)]
  ascend := by decide +kernel
  level := by decide +kernel

/-- Numbers for ids, and a text. -/
def numberIds : Probe where
  ids := ![.integer 0, .integer 1, .integer 2]
  values := fun _ => .text ""
  ascend := by decide +kernel
  level := by decide +kernel

/-- What an operand reads, if it has a value over both probes: an id, the field or a constant. Constants
are not added, because texts have no sums. -/
inductive ReadsBoth (query : Query) (field : String) (place : Fin 3 → Fin 3) :
    Operand → Value → Value → Prop
  | id {c : Column} {i : Fin 3} {v : Value} : c.name = "id" → placeOf? query place c = some i →
    v.rank = 2 → ReadsBoth query field place (.column c) (textIds.ids i) v
  | field {c : Column} {i : Fin 3} {v : Value} : c.name = field → placeOf? query place c = some i →
    v.rank = 3 → ReadsBoth query field place (.column c) (textIds.values i) v
  | literal (v : Value) : ReadsBoth query field place (.literal v) v v

section
variable {query : Query} {field : String} {place place' : Fin 3 → Fin 3}

theorem rank_textIds (i : Fin 3) : (textIds.ids i).rank = 3 ∧ (textIds.values i).rank = 2 := by
  match i with
  | 0 | 1 | 2 => exact ⟨rfl, rfl⟩

/-- The first value is of a kind of its own. -/
theorem textIds_values_eq_first {i : Fin 3} (same : textIds.values i = textIds.values 0) : i = 0 := by
  match i with
  | 0 => rfl
  | 1 | 2 => cases same

theorem rank_numberIds (i : Fin 3) : (numberIds.ids i).rank = 2 := by
  match i with
  | 0 | 1 | 2 => rfl

/-- Only numbers have sums. -/
theorem rank_of_shift? {offset : Int64} {u v : Value} (h : u.shift? offset = some v) : u.rank = 2 := by
  cases u with
  | integer | decimal => rfl
  | null | text | date | boolean => cases h

theorem readsBoth_of_evaluate? (bound : query.sources ≠ []) (apart : field ≠ "id") {operand : Operand}
    {u v : Value} (h : (arranged query (textIds.window field) place).evaluate? operand = some u)
    (h' : (arranged query (numberIds.window field) place').evaluate? operand = some v) :
    ReadsBoth query field place operand u v := by
  cases operand with
  | literal c =>
    obtain rfl := Option.some_inj.mp h
    obtain rfl := Option.some_inj.mp h'
    exact .literal c
  | column c =>
    obtain ⟨i, placed, here⟩ := textIds.resolve?_eq_some apart bound h
    obtain ⟨j, _, there⟩ := numberIds.resolve?_eq_some apart bound h'
    obtain ⟨id, rfl⟩ | ⟨named, rfl⟩ := here
    · obtain ⟨_, rfl⟩ | ⟨named, _⟩ := there
      · exact .id id placed (rank_numberIds j)
      · exact absurd (named.symm.trans id) apart
    · obtain ⟨id, _⟩ | ⟨_, rfl⟩ := there
      · exact absurd (named.symm.trans id) apart
      · exact .field named placed rfl
  | shifted c offset =>
    obtain ⟨u', resolved, sum⟩ := Option.bind_eq_some_iff.mp h
    obtain ⟨v', resolved', sum'⟩ := Option.bind_eq_some_iff.mp h'
    have number := rank_of_shift? sum
    have number' := rank_of_shift? sum'
    obtain ⟨i, _, here⟩ := textIds.resolve?_eq_some apart bound resolved
    obtain ⟨j, _, there⟩ := numberIds.resolve?_eq_some apart bound resolved'
    obtain ⟨_, rfl⟩ | ⟨named, rfl⟩ := here
    · rw [(rank_textIds i).1] at number
      cases number
    · obtain ⟨id, _⟩ | ⟨_, rfl⟩ := there
      · exact absurd (named.symm.trans id) apart
      · cases number'

/-- A condition that is met over both probes is decided, and so that it is met. -/
theorem outcome?_of_met (bound : query.sources ≠ []) (apart : field ≠ "id") {p : Predicate}
    (met : (arranged query (textIds.window field) place).satisfies p)
    (met' : (arranged query (numberIds.window field) place').satisfies p) :
    (outcome? query field place p).any p.op.holds := by
  obtain ⟨u, v, o, left, right, compared, holds⟩ := Tuple.satisfies_iff.mp met
  obtain ⟨u', v', o', left', right', compared', _⟩ := Tuple.satisfies_iff.mp met'
  obtain ⟨-, -, kind⟩ := Value.isSome_compare?_iff.mp (Option.isSome_of_eq_some compared)
  obtain ⟨-, -, kind'⟩ := Value.isSome_compare?_iff.mp (Option.isSome_of_eq_some compared')
  suffices decided : outcome? query field place p = some o by simp [decided, holds]
  have readsLeft := readsBoth_of_evaluate? bound apart left left'
  have readsRight := readsBoth_of_evaluate? bound apart right right'
  unfold outcome?
  generalize p.left = l, p.right = r at readsLeft readsRight
  cases readsLeft with
  | id named placed rank =>
    rw [(rank_textIds _).1] at kind
    cases readsRight with
    | id named' placed' _ =>
      rw [textIds.ascend] at compared
      simpa [placed, placed', named, named', apart.symm] using compared
    | field => rw [(rank_textIds _).2] at kind; cases kind
    | literal => rw [← kind, rank] at kind'; cases kind'
  | field named placed rank =>
    rw [(rank_textIds _).2] at kind
    cases readsRight with
    | id => rw [(rank_textIds _).1] at kind; cases kind
    | field named' placed' _ =>
      rw [textIds.level] at compared
      simpa [placed, placed', named, named'] using compared
    | literal => rw [← kind, rank] at kind'; cases kind'
  | literal =>
    cases readsRight with
    | id _ _ rank => rw [(rank_textIds _).1] at kind; rw [kind, rank] at kind'; cases kind'
    | field _ _ rank => rw [(rank_textIds _).2] at kind; rw [kind, rank] at kind'; cases kind'
    | literal => exact compared

end

/-- Over all stores of ordered relations, a recognized query loses no condition if and only if it answers
nothing, because of its limit or because ids are never shared, or its conditions are always met. -/
theorem not_loses_iff {query : Query} {table output : String} {column : Column} {label : Option String}
    (recognized : recognize? query = some (table, column.name, output))
    (items : query.items = [.column column label]) :
    (∀ store : Store, (∀ relation ∈ store.relations, relation.isOrderedById) → ¬Loses query store) ↔
      query.limit = some 0 ∨ column.name = "id" ∨ AlwaysMet query column := by
  obtain ⟨column', label', items', named, rfl, three, same⟩ := recognize?_eq_some recognized
  obtain ⟨rfl, rfl⟩ : column = column' ∧ label = label' := by simpa [items] using items'
  have bound : query.sources ≠ [] := by
    intro none
    simp [none] at three
  constructor
  · intro kept
    by_cases limit : query.limit = some 0
    · exact .inl limit
    by_cases apart : column.name = "id"
    · exact .inr (.inl apart)
    obtain ⟨place, projected, met⟩ := textIds.exists_arrangement apart recognized limit
      (kept _ (textIds.ordered_store table apart))
    obtain ⟨place', _, met'⟩ := numberIds.exists_arrangement apart recognized limit
      (kept _ (numberIds.ordered_store table apart))
    refine .inr (.inr ⟨place, ?_, fun p hp => outcome?_of_met bound apart (met p hp) (met' p hp)⟩)
    rw [project_column _ items] at projected
    have value : ((arranged query (textIds.window column.name) place).resolve? column).getD .null =
        textIds.values 0 := List.singleton_inj.mp (congrArg Row.values (Except.ok.inj projected))
    cases resolved : (arranged query (textIds.window column.name) place).resolve? column with
    | none =>
      rw [resolved] at value
      cases value
    | some u =>
      rw [resolved, Option.getD_some] at value
      obtain ⟨i, placed, ⟨id, _⟩ | ⟨_, rfl⟩⟩ := textIds.resolve?_eq_some apart bound resolved
      · exact absurd id apart
      · rw [placed, textIds_values_eq_first value]
  · rintro cause store ordered ⟨answers, tuples, answered, product, row, hrow, lost⟩
    obtain ⟨_, relation, tuples', column', label', _, _, product', items'', read⟩ :=
      exists_supports ordered answered
    obtain ⟨rfl, rfl⟩ : column = column' ∧ label = label' := by simpa [items] using items''
    obtain rfl := Option.some_inj.mp (product.symm.trans product')
    obtain ⟨value, w, rfl, shared, supports⟩ := read row hrow
    obtain limit | id | ⟨place, placed, met⟩ := cause
    · unfold answer? at answered
      rw [recognized] at answered
      obtain ⟨_, _, rfl⟩ := Option.map_eq_some_iff.mp (Except.ok.inj answered)
      simp [Query.cut, limit] at hrow
    · obtain ⟨u, v, hu, hv, compared⟩ := compare?_ids supports.ascend 0 1
      rw [id] at shared
      obtain ⟨u', hu', alike, _⟩ := exists_shared shared 0
      obtain ⟨v', hv', alike', _⟩ := exists_shared shared 1
      obtain rfl := Option.some_inj.mp (hu.symm.trans hu')
      obtain rfl := Option.some_inj.mp (hv.symm.trans hv')
      have equal := Value.looselyEquals_trans (Value.looselyEquals_symm alike) alike'
      rw [Value.looselyEquals, compared] at equal
      cases equal
    · obtain ⟨p, hp, fails⟩ := lost _ (supports.joined place) (supports.projected place placed)
      obtain ⟨o, decided, holds⟩ := (Option.any_eq_true _ _).mp (met p hp)
      rw [supports.decided place p o decided, holds] at fails
      cases fails

/-- Rows that share a value can always be given to the sources in the order of their ids. -/
example : AlwaysMet
    { consecutive "logs" "num" "a" "b" "c" with filter := [
      ⟨.column ⟨some "a", "num"⟩, .eq, .column ⟨some "b", "num"⟩⟩,
      ⟨.column ⟨some "a", "id"⟩, .lt, .column ⟨some "b", "id"⟩⟩] } ⟨some "a", "num"⟩ := by
  decide +kernel

/-! ## Answers -/

/-- Where ids ascend in storage order, each value of an answer is read from a window that supports it.
Further conditions would not change the answer. Over all such stores, the query loses no condition if and
only if it answers nothing or its conditions are always met. -/
theorem answers_keep_conditions {query : Query} {store : Store} {answers : List Row}
    (ordered : ∀ relation ∈ store.relations, relation.isOrderedById)
    (answered : answer? query store = .ok (some answers)) :
    ∃ table relation tuples column label,
      (∀ source ∈ query.sources, source.table = table) ∧
      store.relation? table = some relation ∧
      Query.product? store query.sources = some tuples ∧
      query.items = [.column column label] ∧
      (∀ row ∈ answers, ∃ value w, row = .ofList [(label.getD column.name, value)] ∧
        Supports query relation tuples column row w value) ∧
      (∀ more, answer? { query with filter := query.filter ++ more } store = .ok (some answers)) ∧
      ((∀ store : Store, (∀ relation ∈ store.relations, relation.isOrderedById) → ¬Loses query store) ↔
        query.limit = some 0 ∨ column.name = "id" ∨ AlwaysMet query column) := by
  obtain ⟨table, relation, tuples, column, label, same, found, product, items, read⟩ :=
    exists_supports ordered answered
  obtain ⟨_, _, _, _, recognized, _⟩ := mem_of_answer? answered
  obtain ⟨column', label', items', rfl, rfl, _⟩ := recognize?_eq_some recognized
  obtain ⟨rfl, rfl⟩ : column = column' ∧ label = label' := by simpa [items] using items'
  refine ⟨table, relation, tuples, column, label, same, found, product, items, ?_, ?_,
    not_loses_iff recognized items⟩
  · intro row hrow
    obtain ⟨value, w, read, _, supports⟩ := read row hrow
    exact ⟨value, w, read, supports⟩
  · intro more
    rw [answer?_of_more_conditions (Option.isSome_of_eq_some recognized), answered]

end Adjacency

/-- `SELECT a.num FROM logs a JOIN logs b ON a.id + 1 = b.id JOIN logs c ON b.id + 1 = c.id
WHERE a.num = b.num AND b.num = c.num AND a.id = c.id - 2` -/
def Sample.chained : Query where
  distinct := false
  items := [.column ⟨some "a", "num"⟩ none]
  sources := [⟨"logs", some "a", .base, []⟩,
    ⟨"logs", some "b", .inner, [⟨.shifted ⟨some "a", "id"⟩ 1, .eq, .column ⟨some "b", "id"⟩⟩]⟩,
    ⟨"logs", some "c", .inner, [⟨.shifted ⟨some "b", "id"⟩ 1, .eq, .column ⟨some "c", "id"⟩⟩]⟩]
  filter := [⟨.column ⟨some "a", "num"⟩, .eq, .column ⟨some "b", "num"⟩⟩,
    ⟨.column ⟨some "b", "num"⟩, .eq, .column ⟨some "c", "num"⟩⟩,
    ⟨.column ⟨some "a", "id"⟩, .eq, .shifted ⟨some "c", "id"⟩ (-2)⟩]
  groupBy := []
  orderBy := []
  limit := none

namespace Adjacency

theorem answers_keep_conditions_logs :
    (Query.ofText? "SELECT a.num FROM logs a JOIN logs b ON a.id + 1 = b.id
      JOIN logs c ON b.id + 1 = c.id WHERE a.num = b.num AND b.num = c.num
        AND a.id = c.id - 2").toOption = some Sample.chained ∧
    (∀ relation ∈ Sample.store.relations, relation.isOrderedById) ∧
    answer? Sample.chained Sample.store = .ok (some [.ofList [("num", .integer 1)]]) ∧
    CountsUp 1 Sample.logs.rows ∧
    ∃ tuples w, Supports Sample.chained Sample.logs tuples ⟨some "a", "num"⟩
        (.ofList [("num", .integer 1)]) w (.integer 1) ∧
      ∀ p ∈ Sample.chained.predicates, (arranged Sample.chained w id).satisfies p := by
  have ordered : ∀ relation ∈ Sample.store.relations, relation.isOrderedById := by decide +kernel
  have computed : (answer? Sample.chained Sample.store).toOption =
      some (some [.ofList [("num", .integer 1)]]) := by decide +kernel
  have answered := ok_of_toOption computed
  have counts : CountsUp 1 Sample.logs.rows := by decide
  obtain ⟨table, relation, tuples, column, label, same, found, _, items, each, _⟩ :=
    answers_keep_conditions ordered answered
  obtain ⟨value, w, row, supports⟩ := each _ List.mem_cons_self
  obtain rfl : "logs" = table := same _ List.mem_cons_self
  obtain rfl : Sample.logs = relation := Option.some_inj.mp found
  obtain ⟨rfl, rfl⟩ : ⟨some "a", "num"⟩ = column ∧ none = label := by
    simpa [Sample.chained] using items
  obtain rfl : .integer 1 = value := List.singleton_inj.mp (congrArg Row.values row)
  refine ⟨by decide +kernel, ordered, answered, counts, tuples, w, supports, ?_⟩
  obtain ⟨n, near, sums⟩ := supports.counted 1 counts
  have second := (near 1).2
  have third := (near 2).2
  have first := (near 0).2
  intro p hp
  simp only [Sample.chained, Query.predicates, List.flatMap_cons, List.flatMap_nil, List.nil_append,
    List.append_nil, List.cons_append, List.mem_cons, List.not_mem_nil, or_false] at hp
  obtain rfl | rfl | rfl | rfl | rfl := hp
  · exact supports.decided id _ .eq (by decide)
  · exact supports.decided id _ .eq (by decide)
  · refine sums id _ 0 2 0 (-2) ?_ ?_ ?_ ?_
    exacts [by decide, by decide, by omega, by omega]
  · exact sums id _ 0 1 1 0 (by decide) (by decide) (by omega) (by omega)
  · exact sums id _ 1 2 1 0 (by decide) (by decide) (by omega) (by omega)

theorem exists_loses {text : String} {store : Store}
    (h : (Query.ofText? text).toOption.any (loses · store)) :
    ∃ query, Query.ofText? text = .ok query ∧ Loses query store := by
  obtain ⟨query, read, lost⟩ := (Option.any_eq_true _ _).mp h
  exact ⟨query, ok_of_toOption read, loses_iff.mp lost⟩

end Adjacency

namespace Sample

/-- Logs without the third. -/
def gappedLogs : Store :=
  ⟨[relation "logs" ["id", "num"] [[int 1, int 1], [int 2, int 1], [int 4, int 1]]]⟩

/-- Logs that hold one number in two kinds of values. -/
def mixedLogs : Store :=
  ⟨[relation "logs" ["id", "num"] [[int 1, int 1], [int 2, cents 100], [int 3, cents 100]]]⟩

end Sample

namespace Adjacency

/-- What is lost over ordered relations: a condition that no row meets, the gap between ids, a
qualifier that no source is bound to, and the kind of a value that a later source has. -/
theorem answers_drop_conditions :
    (∀ store ∈ [Sample.gappedLogs, Sample.mixedLogs], ∀ relation ∈ store.relations,
      relation.isOrderedById) ∧
    (∃ query, Query.ofText? "SELECT DISTINCT a.num FROM logs a, logs b, logs c
      WHERE a.num = b.num AND a.id > 100" = .ok query ∧ Loses query Sample.gappedLogs) ∧
    (∃ query, Query.ofText? "SELECT DISTINCT a.num FROM logs a, logs b, logs c
      WHERE a.id = b.id - 1 AND b.id = c.id - 1 AND a.num = b.num AND b.num = c.num" = .ok query ∧
      Loses query Sample.gappedLogs) ∧
    (∃ query, Query.ofText? "SELECT DISTINCT x.num FROM logs a, logs b, logs c
      WHERE a.num = b.num" = .ok query ∧ Loses query Sample.gappedLogs) ∧
    (∃ query, Query.ofText? "SELECT DISTINCT b.num FROM logs a, logs b, logs c
      WHERE a.num = b.num AND a.id < b.id" = .ok query ∧ Loses query Sample.mixedLogs) := by
  refine ⟨by decide +kernel, exists_loses ?_, exists_loses ?_, exists_loses ?_, exists_loses ?_⟩ <;>
    decide +kernel

end Adjacency
end QueryShapes
