import Mathlib.Data.List.Pairwise
import QueryShapes.Proofs.QualifiedJoins

/-!
# Rows of tied keys

A key join reads its sources in the order in which they are written and then sorts stably, so the order
of tied rows depends on which source stands first.

- `Joins`: the joined rows of a key join with the places that the parent's and the child's rows are
  stored at.
- `tiedByChild_iff`: tied rows are answered in the order of the places in the first source. They stand
  in the order of the child's places if the child is that source, and otherwise exactly if tied rows of
  different parents are stored in the same order as these.
-/

namespace QueryShapes

/-! ## Places -/

/-- The row that is stored at a place of the source's relation. -/
def Source.stored? (store : Store) (source : Source) (place : Nat) : Option Row :=
  (store.relation? source.table).bind (·.rows[place]?)

namespace Query

variable {store : Store}

/-- The selected tuples come in the order of the places of their rows. -/
theorem selected?_places {query : Query} {tuples : List Tuple}
    (selected : query.selected? store = some tuples) :
    ∃ places : List (List Nat), places.Pairwise (List.Lex (· < ·)) ∧
      (∀ place, place ∈ places ↔ ∃ tuple, tupleAt? store query.sources place = some tuple ∧
        ∀ p ∈ query.conjuncts, tuple.satisfies p) ∧
      places.map (tupleAt? store query.sources) = tuples.map some := by
  obtain ⟨product, combined, rfl⟩ := Option.map_eq_some_iff.mp selected
  obtain ⟨places, ascend, complete, placed⟩ := product?_places combined
  let meets (tuple? : Option Tuple) : Bool := tuple?.any (Tuple.satisfiesAll query.conjuncts)
  refine ⟨places.filter (meets ∘ tupleAt? store query.sources), ascend.filter _, ?_, ?_⟩
  · intro place
    rw [List.mem_filter, complete]
    cases stands : tupleAt? store query.sources place <;>
      simp [meets, stands, Tuple.satisfiesAll]
  · rw [← List.filter_map, placed, List.filter_map]
    rfl

theorem tupleAt?_pair {first second : Source} {places : List Nat} {tuple : Tuple} :
    tupleAt? store [first, second] places = some tuple ↔ ∃ i j a b, places = [i, j] ∧
      first.stored? store i = some a ∧ second.stored? store j = some b ∧
      tuple = ⟨[(first.binding, a), (second.binding, b)]⟩ := by
  match places with
  | [] => simp [tupleAt?]
  | [i] => simp [tupleAt?]
  | i :: j :: k :: rest => simp [tupleAt?]
  | [i, j] =>
    simp only [tupleAt?, Source.stored?, Option.bind_eq_bind, Option.bind_eq_some_iff, Option.pure_def,
      Option.some_inj]
    constructor
    · rintro ⟨r, hr, a, ha, _, ⟨s, hs, b, hb, _, rfl, rfl⟩, rfl⟩
      exact ⟨i, j, a, b, rfl, ⟨r, hr, ha⟩, ⟨s, hs, hb⟩, rfl⟩
    · rintro ⟨_, _, a, b, same, ⟨r, hr, ha⟩, ⟨s, hs, hb⟩, rfl⟩
      obtain ⟨rfl, rfl⟩ : i = _ ∧ j = _ := by simpa using same
      exact ⟨r, hr, a, ha, _, ⟨s, hs, b, hb, _, rfl, rfl⟩, rfl⟩

end Query

/-! ## Joined rows -/

/-- A joined tuple with the row that is projected from it, and the places that the rows of the parent and
of the child are stored at. -/
structure JoinedRow where
  parent : Nat
  child : Nat
  tuple : Tuple
  row : Row

namespace JoinedRow

def key (order : SortKey) (entry : JoinedRow) : Value := JoinSort.key order entry.tuple entry.row

/-- Sorting does not tell the two apart. -/
def Tied (order : SortKey) (a b : JoinedRow) : Prop := (a.key order).sortOrder (b.key order) = .eq

theorem Tied.symm {order : SortKey} {a b : JoinedRow} (tied : a.Tied order b) : b.Tied order a :=
  Std.OrientedCmp.eq_symm tied

end JoinedRow

namespace KeyJoin

variable (join : KeyJoin) (query : Query)

/-- The child is the first source. -/
def childFirst : Bool := query.sources.head? = some join.child

/-- The places of a joined row in the order of the sources. -/
def places (entry : JoinedRow) : List Nat :=
  if join.childFirst query then [entry.child, entry.parent] else [entry.parent, entry.child]

/-- The first row comes before the second in the order of the sources. -/
def Precedes (a b : JoinedRow) : Prop := List.Lex (· < ·) (join.places query a) (join.places query b)

/-- The joined row of two places in the order of the sources. -/
def joinedRow (i j : Nat) (tuple : Tuple) (row : Row) : JoinedRow :=
  if join.childFirst query then ⟨j, i, tuple, row⟩ else ⟨i, j, tuple, row⟩

/-- `entries` are the joined rows on which all conditions hold, in the order of their places. -/
structure Joins (store : Store) (entries : List JoinedRow) : Prop where
  parent : ∀ entry ∈ entries,
    entry.tuple.row? join.parent.binding = join.parent.stored? store entry.parent
  child : ∀ entry ∈ entries,
    entry.tuple.row? join.child.binding = join.child.stored? store entry.child
  projected : ∀ entry ∈ entries, entry.tuple.project query.items = .ok entry.row
  placed : ∀ entry ∈ entries,
    Query.tupleAt? store query.sources (join.places query entry) = some entry.tuple
  ascend : entries.Pairwise (join.Precedes query)
  complete : ∀ places, places ∈ entries.map (join.places query) ↔
    ∃ tuple, Query.tupleAt? store query.sources places = some tuple ∧
      ∀ p ∈ query.conjuncts, tuple.satisfies p

variable {join query}

theorem places_joinedRow (i j : Nat) (tuple : Tuple) (row : Row) :
    join.places query (join.joinedRow query i j tuple row) = [i, j] := by
  unfold places joinedRow
  split <;> rfl

theorem precedes_iff {a b : JoinedRow} : join.Precedes query a b ↔
    if join.childFirst query then a.child < b.child ∨ a.child = b.child ∧ a.parent < b.parent
    else a.parent < b.parent ∨ a.parent = b.parent ∧ a.child < b.child := by
  unfold Precedes places
  split <;> simp [List.cons_lex_cons_iff]

/-- The two sources are the parent and the child, in one order or the other. -/
theorem Reads.sources_eq {first joined : Source} {parentKey childKey : Column}
    (reads : Reads query join first joined parentKey childKey) :
    query.sources = if join.childFirst query then [join.child, join.parent]
      else [join.parent, join.child] := by
  have parent := Query.mem_sources_of_sourceOf reads.parent
  have child := Query.mem_sources_of_sourceOf reads.child
  have apart : join.parent ≠ join.child := fun same => reads.bindings (congrArg Source.binding same)
  rw [reads.sources] at parent child
  cases childFirst : join.childFirst query with
  | true =>
    have first_eq : first = join.child := by simpa [KeyJoin.childFirst, reads.sources] using childFirst
    rw [reads.sources]
    grind
  | false =>
    have first_ne : first ≠ join.child := by simpa [KeyJoin.childFirst, reads.sources] using childFirst
    rw [reads.sources]
    grind

/-- The tuple at the places of a joined row holds the parent's and the child's stored rows. -/
theorem Reads.rows_of_placed {first joined : Source} {parentKey childKey : Column}
    (reads : Reads query join first joined parentKey childKey) {store : Store} {entry : JoinedRow}
    (placed : Query.tupleAt? store query.sources (join.places query entry) = some entry.tuple) :
    entry.tuple.row? join.parent.binding = join.parent.stored? store entry.parent ∧
      entry.tuple.row? join.child.binding = join.child.stored? store entry.child := by
  have apart := reads.bindings
  rw [reads.sources_eq, places] at placed
  split at placed
  · obtain ⟨_, _, childRow, parentRow, same, hchild, hparent, tuple⟩ := Query.tupleAt?_pair.mp placed
    obtain ⟨rfl, rfl⟩ : entry.child = _ ∧ entry.parent = _ := by simpa using same
    simp [tuple, Tuple.row?, hchild, hparent, apart.symm]
  · obtain ⟨_, _, parentRow, childRow, same, hparent, hchild, tuple⟩ := Query.tupleAt?_pair.mp placed
    obtain ⟨rfl, rfl⟩ : entry.parent = _ ∧ entry.child = _ := by simpa using same
    simp [tuple, Tuple.row?, hchild, hparent, apart]

/-- Tuples at places are joined rows, whatever rows are projected from them. -/
theorem exists_joinedRows (join : KeyJoin) {store : Store} {first joined : Source}
    (sources : query.sources = [first, joined]) {places : List (List Nat)}
    {pairs : List (Tuple × Row)}
    (placed : places.map (Query.tupleAt? store query.sources) = (pairs.map Prod.fst).map some) :
    ∃ entries : List JoinedRow, entries.map (join.places query) = places ∧
      entries.map (fun entry => (entry.tuple, entry.row)) = pairs := by
  induction pairs generalizing places with
  | nil => exact ⟨[], by simpa using placed.symm, rfl⟩
  | cons pair pairs ih =>
    obtain ⟨place, rest, rfl, here, later⟩ := List.map_eq_cons_iff.mp placed
    obtain ⟨entries, rfl, rfl⟩ := ih later
    rw [sources] at here
    obtain ⟨i, j, _, _, rfl, _⟩ := Query.tupleAt?_pair.mp here
    refine ⟨join.joinedRow query i j pair.1 pair.2 :: entries, ?_, ?_⟩
    · rw [List.map_cons, places_joinedRow]
    · unfold joinedRow
      split <;> rfl

end KeyJoin

/-! ## Tied rows -/

namespace JoinSort

/-- Of two tied rows, the one of the earlier child comes first. -/
def TiedByChild (order : SortKey) (entries : List JoinedRow) : Prop :=
  entries.Pairwise fun a b => a.Tied order b → a.child ≤ b.child

/-- Tied rows of different parents have their children stored in the order of the parents. -/
def ParentsInStep (order : SortKey) (entries : List JoinedRow) : Prop :=
  ∀ a ∈ entries, ∀ b ∈ entries, a.Tied order b → a.parent < b.parent → a.child ≤ b.child

theorem tiedByChild_of_childrenFirst {order : SortKey} {entries : List JoinedRow}
    (stand : entries.Pairwise fun a b => a.Tied order b →
      a.child < b.child ∨ a.child = b.child ∧ a.parent < b.parent) :
    TiedByChild order entries := by
  refine stand.imp fun {a b} stand tied => ?_
  obtain earlier | ⟨same, _⟩ := stand tied
  · exact Nat.le_of_lt earlier
  · exact Nat.le_of_eq same

/-- Where tied rows stand in the order of the parents and, for one parent, of the children, they stand in
the order of the children exactly if both orders agree. -/
theorem tiedByChild_iff_parentsInStep {order : SortKey} {entries : List JoinedRow}
    (stand : entries.Pairwise fun a b => a.Tied order b →
      a.parent < b.parent ∨ a.parent = b.parent ∧ a.child < b.child) :
    TiedByChild order entries ↔ ParentsInStep order entries := by
  constructor
  · intro byChild
    let inStep (a b : JoinedRow) : Prop := a.Tied order b → a.parent < b.parent → a.child ≤ b.child
    -- A row of a later parent cannot stand before its tied row of an earlier one.
    have bothWays : entries.Pairwise fun a b => inStep a b ∧ inStep b a := by
      refine (stand.and byChild).imp fun {a b} h => ⟨fun tied _ => h.2 tied, fun tied earlier => ?_⟩
      obtain later | ⟨same, _⟩ := h.1 tied.symm <;> omega
    have symmetric : Std.Symm fun a b => inStep a b ∧ inStep b a := ⟨fun _ _ h => h.symm⟩
    have self : ∀ a ∈ entries, inStep a a ∧ inStep a a :=
      fun a _ => ⟨fun _ earlier => absurd earlier (Nat.lt_irrefl _),
        fun _ earlier => absurd earlier (Nat.lt_irrefl _)⟩
    intro a ha b hb
    exact (List.Pairwise.forall_of_forall self bothWays ha hb).1
  · intro inStep
    refine stand.imp_of_mem fun {a b} ha hb stand tied => ?_
    obtain ascend | ⟨_, ascend⟩ := stand tied
    · exact inStep a ha b hb tied ascend
    · exact Nat.le_of_lt ascend

section
variable {query : Query} {store : Store}

/-- The sorted pairs of key and row, as joined rows at their places. -/
theorem exists_joins_of_projectKeyed {join : KeyJoin} {key : Tuple → Row → Value}
    {tuples : List Tuple} {keyed : List (Value × Row)}
    (recognized : KeyJoin.ofQuery? query = some join) (selected : query.selected? store = some tuples)
    (h : query.projectKeyed key tuples = .ok keyed) :
    ∃ entries, join.Joins query store entries ∧
      keyed = entries.map fun entry => (key entry.tuple entry.row, entry.row) := by
  obtain ⟨first, joined, parentKey, childKey, reads⟩ := KeyJoin.ofQuery?_reads recognized
  obtain ⟨pairs, selects, rfl⟩ := Query.selects_of_projectKeyed selected h
  obtain ⟨places, ascend, complete, placed⟩ := Query.selected?_places selects.tuples
  obtain ⟨entries, rfl, rfl⟩ := join.exists_joinedRows reads.sources placed
  rw [List.pairwise_map] at ascend
  rw [List.map_map, List.map_map, List.map_map] at placed
  have placedEach := List.map_inj_left.mp placed
  refine ⟨entries, ⟨?_, ?_, ?_, placedEach, ascend, complete⟩, by rw [List.map_map]; rfl⟩
  · exact fun entry member => (reads.rows_of_placed (placedEach entry member)).1
  · exact fun entry member => (reads.rows_of_placed (placedEach entry member)).2
  · exact fun entry member => selects.rows _ (List.mem_map_of_mem member)

/-- A key join is answered with the joined rows, sorted by descending keys and cut. Tied rows stand in the
order of the sources. They stand in the order of the child's stored rows exactly if the child is the first
source, or if tied rows of different parents have their children stored in the order of the parents. -/
theorem tiedByChild_iff {rows : List Row} (answered : answer? query store = .ok (some rows)) :
    ∃ join order entries ordered, KeyJoin.ofQuery? query = some join ∧ query.orderBy = [order] ∧
      join.Joins query store entries ∧ Descends (JoinedRow.key order) ordered entries ∧
      rows = (query.cut ordered).map JoinedRow.row ∧
      (query.cut ordered).Pairwise (fun a b => a.Tied order b → join.Precedes query a b) ∧
      (TiedByChild order (query.cut ordered) ↔
        join.childFirst query ∨ ParentsInStep order (query.cut ordered)) := by
  obtain ⟨join, order, tuples, keyed, recognized, orderBy, selected, hkeyed, rfl⟩ :=
    answer?_eq_some answered
  obtain ⟨entries, joins, rfl⟩ := exists_joins_of_projectKeyed recognized selected hkeyed
  obtain ⟨ordered, descends, sorted⟩ :=
    sortDescending_descends (JoinedRow.key order) entries JoinedRow.row
  have stand : (query.cut ordered).Pairwise fun a b => a.Tied order b → join.Precedes query a b :=
    (descends.tied joins.ascend).sublist (query.cut_sublist ordered)
  refine ⟨join, order, entries, ordered, recognized, orderBy, joins, descends, ?_, stand, ?_⟩
  · rw [← query.cut_map, ← sorted]
    rfl
  · simp only [KeyJoin.precedes_iff] at stand
    cases childFirst : join.childFirst query with
    | true =>
      simp only [childFirst, if_true] at stand
      simpa using tiedByChild_of_childrenFirst stand
    | false =>
      simp only [childFirst, Bool.false_eq_true, if_false] at stand
      simpa using tiedByChild_iff_parentsInStep stand

end

end JoinSort

/-- Two employees of one salary; the first one works in the second department. -/
def Sample.peers : Store := ⟨[
  relation "departments" ["id", "name"] [[int 1, .text "Sales"], [int 2, .text "HR"]],
  relation "employees" ["id", "name", "department_id", "salary"] [
    [int 1, .text "Alice", int 2, int 100], [int 2, .text "Bob", int 1, int 100]]]⟩

/-- `SELECT e.name FROM departments d JOIN employees e ON e.department_id = d.id
ORDER BY e.salary DESC` -/
def Sample.peersByDepartment : Query where
  distinct := false
  items := [.column ⟨some "e", "name"⟩ none]
  sources := [⟨"departments", some "d", .base, []⟩, ⟨"employees", some "e", .inner,
    [⟨.column ⟨some "e", "department_id"⟩, .eq, .column ⟨some "d", "id"⟩⟩]⟩]
  filter := []
  groupBy := []
  orderBy := [⟨⟨some "e", "salary"⟩, true⟩]
  limit := none

/-- The same with `FROM employees e JOIN departments d`. -/
def Sample.peersByEmployee : Query :=
  { Sample.peersByDepartment with
    sources := [⟨"employees", some "e", .base, []⟩, ⟨"departments", some "d", .inner,
      [⟨.column ⟨some "e", "department_id"⟩, .eq, .column ⟨some "d", "id"⟩⟩]⟩] }

/-- The row that is projected for an employee of that name. -/
def Sample.named (name : String) : Row := ⟨[("name", .text name)], by simp⟩

namespace JoinSort

theorem tiedByChild_iff_peers :
    (∃ rows, answer? Sample.peersByDepartment Sample.peers = .ok (some rows) ∧
      ∃ order ordered, rows = ordered.map JoinedRow.row ∧
        (TiedByChild order ordered ↔ ParentsInStep order ordered)) ∧
    ∃ rows, answer? Sample.peersByEmployee Sample.peers = .ok (some rows) ∧
      ∃ order ordered, rows = ordered.map JoinedRow.row ∧ TiedByChild order ordered := by
  obtain ⟨unordered, hunordered⟩ := exists_ok_some
    (answer? Sample.peersByDepartment Sample.peers) (by decide +kernel)
  obtain ⟨inOrder, hinOrder⟩ := exists_ok_some
    (answer? Sample.peersByEmployee Sample.peers) (by decide +kernel)
  refine ⟨⟨unordered, hunordered, ?_⟩, ⟨inOrder, hinOrder, ?_⟩⟩
  · obtain ⟨join, order, _, ordered, recognized, _, _, _, rows, _, iff⟩ := tiedByChild_iff hunordered
    obtain rfl := Option.some_inj.mp recognized
    exact ⟨order, ordered, rows, iff.trans (or_iff_right (by decide))⟩
  · obtain ⟨join, order, _, ordered, recognized, _, _, _, rows, _, iff⟩ := tiedByChild_iff hinOrder
    obtain rfl := Option.some_inj.mp recognized
    exact ⟨order, ordered, rows, iff.mpr (.inl (by decide))⟩

set_option maxRecDepth 8000 in
/-- Alice and Bob are stored in this order and earn the same, but departments come first. -/
theorem ties_out_of_child_order :
    Store.ofRelations Sample.peers.relations = .ok Sample.peers ∧
    (KeyJoin.ofQuery? Sample.peersByDepartment).map (·.child.table) = some "employees" ∧
    (Sample.peers.rows? "employees").map (List.map fun row => (row.get? "name", row.get? "salary")) =
      some [(some (.text "Alice"), some (Sample.int 100)), (some (.text "Bob"), some (Sample.int 100))] ∧
    answer? Sample.peersByDepartment Sample.peers =
      .ok (some [Sample.named "Bob", Sample.named "Alice"]) ∧
    answer? Sample.peersByEmployee Sample.peers =
      .ok (some [Sample.named "Alice", Sample.named "Bob"]) := by
  have tied : (Sample.int 100).sortOrder (Sample.int 100) = .eq := by decide
  have unchanged (a b : Row) :
      [a, b] = sortDescending [(Sample.int 100, a), (Sample.int 100, b)] := by
    simp [sortDescending, List.mergeSort, List.MergeSort.Internal.splitInTwo, tied]
  refine ⟨rfl, rfl, rfl, ?_, ?_⟩
  · rw [unchanged]
    rfl
  · rw [unchanged]
    rfl

end JoinSort

end QueryShapes
