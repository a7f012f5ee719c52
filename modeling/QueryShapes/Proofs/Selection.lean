import QueryShapes.Proofs.KeyJoin
import QueryShapes.Proofs.ParsedQuery
import QueryShapes.Proofs.Sorting
import QueryShapes.Shape.DateRange
import QueryShapes.Shape.JoinSort
import QueryShapes.Shape.Threshold
import QueryShapes.Store.Sample

/-!
# Answers as selections from the product

Three shapes answer with the projected tuples of the product that meet all conditions. Thresholds
leave them in the order of the product; date ranges and key joins sort them stably by descending
keys. Conditions of the first source are not tested; a query that was read has none.

- `Selects`: the tuples that meet conditions, each with the row that is projected from it.
- `answers_are_selections`: what the three shapes answer if the first source has no conditions, and that
  they answer the same if it has.
- `answer_misses_first_condition`: so such conditions are missed.
-/

namespace QueryShapes

/-- `pairs` are the tuples of the product that meet all of the conditions, in the order of the product,
each with its projected row. -/
structure Selects (query : Query) (conditions : List Predicate) (store : Store)
    (pairs : List (Tuple × Row)) : Prop where
  tuples : (Query.product? store query.sources).map (·.filter (Tuple.satisfiesAll conditions)) =
    some (pairs.map Prod.fst)
  rows : ∀ pair ∈ pairs, pair.1.project query.items = .ok pair.2

/-- `rows` are the rows of the selected tuples, sorted stably by descending keys. -/
def SortedSelection (query : Query) (conditions : List Predicate) (store : Store)
    (key : Tuple → Row → Value) (rows : List Row) : Prop :=
  ∃ pairs ordered, Selects query conditions store pairs ∧
    Descends (fun pair => key pair.1 pair.2) ordered pairs ∧ rows = ordered.map Prod.snd

namespace Query

variable {query : Query} {store : Store} {tuples : List Tuple}

theorem selects_of_mapM {rows : List Row} (selected : query.selected? store = some tuples)
    (h : tuples.mapM (Tuple.project query.items) = .ok rows) :
    ∃ pairs, Selects query query.conjuncts store pairs ∧ pairs.map Prod.snd = rows := by
  obtain ⟨pairs, rfl, rfl, projected⟩ := exists_pairs_of_mapM h
  exact ⟨pairs, ⟨selected, projected⟩, rfl⟩

theorem selects_of_projectKeyed {key : Tuple → Row → Value} {keyed : List (Value × Row)}
    (selected : query.selected? store = some tuples)
    (h : query.projectKeyed key tuples = .ok keyed) :
    ∃ pairs, Selects query query.conjuncts store pairs ∧
      keyed = pairs.map fun pair => (key pair.1 pair.2, pair.2) := by
  obtain ⟨keyedPairs, rfl, rfl, projected⟩ := exists_pairs_of_mapM h
  have shape : ∀ x ∈ keyedPairs, x.1.project query.items = .ok x.2.2 ∧ x.2.1 = key x.1 x.2.2 := by
    intro x hx
    obtain ⟨row, hrow, hx⟩ := bind_eq_ok_iff.mp (projected x hx)
    rw [← Except.ok.inj hx]
    exact ⟨hrow, rfl⟩
  refine ⟨keyedPairs.map fun x => (x.1, x.2.2), ⟨?_, ?_⟩, ?_⟩
  · simpa [selected?, List.map_map, Function.comp_def] using selected
  · intro pair hpair
    obtain ⟨x, hx, rfl⟩ := List.mem_map.mp hpair
    exact (shape x hx).1
  · rw [List.map_map]
    apply List.map_congr_left
    intro x hx
    exact Prod.ext (shape x hx).2 rfl

/-- Sorting the projected tuples by their keys. -/
theorem sortedSelection_of_projectKeyed {key : Tuple → Row → Value} {keyed : List (Value × Row)}
    (selected : query.selected? store = some tuples)
    (h : query.projectKeyed key tuples = .ok keyed) :
    SortedSelection query query.conjuncts store key (sortDescending keyed) := by
  obtain ⟨pairs, selects, rfl⟩ := selects_of_projectKeyed selected h
  obtain ⟨ordered, descends, sorted⟩ :=
    sortDescending_descends (fun pair : Tuple × Row => key pair.1 pair.2) pairs Prod.snd
  exact ⟨pairs, ordered, selects, descends, sorted⟩

theorem tuples?_of_single {source : Source} (sources : query.sources = [source]) :
    query.tuples? store = query.selected? store := by
  rw [tuples?_eq query store sources trivial]
  rfl

/-- The first source of a query that was read has no conditions. -/
theorem firstUnconditioned_of_ofText {text : String} (h : Query.ofText? text = .ok query) :
    query.FirstUnconditioned := by
  obtain ⟨first, rest, sources, _, unconditioned⟩ := ofText?_sources h
  simp [FirstUnconditioned, sources, unconditioned]

end Query

/-! ## One shape after another -/

section
variable {query : Query} {store : Store} {rows : List Row}

theorem Threshold.answer_selects (h : Threshold.answer? query store = .ok (some rows)) :
    ∃ pairs, Selects query query.conjuncts store pairs ∧
      rows = query.cut (pairs.map Prod.snd) := by
  unfold Threshold.answer? at h
  split at h
  · rename_i tuples recognized bound
    obtain ⟨projected, hprojected, h⟩ := bind_eq_ok_iff.mp h
    obtain rfl := Option.some_inj.mp (Except.ok.inj h)
    unfold Threshold.recognizes at recognized
    split at recognized
    · rename_i sources _
      rw [Query.tuples?_of_single sources] at bound
      obtain ⟨pairs, selects, rfl⟩ := Query.selects_of_mapM bound hprojected
      exact ⟨pairs, selects, rfl⟩
    · cases recognized
  · cases h

theorem DateRange.dateColumn?_eq_some {p : Predicate} {column : Column}
    (h : DateRange.dateColumn? p = some column) :
    ∃ date, p.columnVsLiteral? = some (column, .gt, .date date) := by
  unfold DateRange.dateColumn? at h
  split at h
  · rename_i date comparison
    obtain rfl := Option.some_inj.mp h
    exact ⟨date, comparison⟩
  · cases h

theorem DateRange.recognize?_eq_some {column : Column} (h : DateRange.recognize? query = some column) :
    (∃ source, query.sources = [source]) ∧
      ∃ p date, query.filter = [p] ∧ p.columnVsLiteral? = some (column, .gt, .date date) := by
  unfold DateRange.recognize? at h
  split at h
  · rename_i source p sources filter
    obtain ⟨date, comparison⟩ := DateRange.dateColumn?_eq_some (Option.filter_eq_some_iff.mp h).1
    exact ⟨⟨source, sources⟩, p, date, filter, comparison⟩
  · cases h

theorem DateRange.answer_selects (h : DateRange.answer? query store = .ok (some rows)) :
    ∃ p column date, query.filter = [p] ∧ p.columnVsLiteral? = some (column, .gt, .date date) ∧
      ∃ sorted, SortedSelection query query.conjuncts store (DateRange.key column) sorted ∧
        rows = query.cut sorted := by
  unfold DateRange.answer? at h
  split at h
  · rename_i column tuples recognized bound
    obtain ⟨keyed, hkeyed, h⟩ := bind_eq_ok_iff.mp h
    obtain rfl := Option.some_inj.mp (Except.ok.inj h)
    obtain ⟨⟨source, sources⟩, p, date, filter, comparison⟩ := DateRange.recognize?_eq_some recognized
    rw [Query.tuples?_of_single sources] at bound
    exact ⟨p, column, date, filter, comparison, _,
      Query.sortedSelection_of_projectKeyed bound hkeyed, rfl⟩
  · cases h

theorem JoinSort.recognize?_eq_some {order : SortKey} (h : JoinSort.recognize? query = some order) :
    query.orderBy = [order] ∧ ∃ join, KeyJoin.ofQuery? query = some join := by
  unfold JoinSort.recognize? at h
  split at h
  · rename_i plain
    split at h
    · rename_i only orderBy
      split at h
      · obtain rfl := Option.some_inj.mp h
        exact ⟨orderBy, Option.isSome_iff_exists.mp plain.2⟩
      · cases h
    · cases h
  · cases h

/-- All that an answer says: which key join was recognized, and what was sorted. -/
theorem JoinSort.answer?_eq_some (h : JoinSort.answer? query store = .ok (some rows)) :
    ∃ join order tuples keyed, KeyJoin.ofQuery? query = some join ∧ query.orderBy = [order] ∧
      query.selected? store = some tuples ∧
      query.projectKeyed (JoinSort.key order) tuples = .ok keyed ∧
      rows = query.cut (sortDescending keyed) := by
  unfold JoinSort.answer? at h
  split at h
  · rename_i order tuples recognized bound
    obtain ⟨keyed, hkeyed, h⟩ := bind_eq_ok_iff.mp h
    obtain ⟨orderBy, join, recognizedJoin⟩ := JoinSort.recognize?_eq_some recognized
    obtain ⟨_, _, _, _, reads⟩ := KeyJoin.ofQuery?_reads recognizedJoin
    rw [reads.tuples?_eq] at bound
    split at h
    · cases h
    · obtain rfl := Option.some_inj.mp (Except.ok.inj h)
      exact ⟨join, order, tuples, keyed, recognizedJoin, orderBy, bound, hkeyed, rfl⟩
  · cases h

theorem JoinSort.answer_selects (h : JoinSort.answer? query store = .ok (some rows)) :
    ∃ order, query.orderBy = [order] ∧
      ∃ sorted, SortedSelection query query.conjuncts store (JoinSort.key order) sorted ∧
        rows = query.cut sorted := by
  obtain ⟨_, order, _, keyed, _, orderBy, selected, hkeyed, rfl⟩ := JoinSort.answer?_eq_some h
  exact ⟨order, orderBy, _, Query.sortedSelection_of_projectKeyed selected hkeyed, rfl⟩

end

/-! ## The first source -/

section
variable (query : Query) (conditions : List Predicate) (store : Store)

theorem Threshold.answer?_conditionFirst :
    answer? (query.conditionFirst conditions) store = answer? query store := by
  have same : recognizes (query.conditionFirst conditions) = recognizes query := by
    unfold recognizes Query.conditionFirst
    match query.sources, query.filter with
    | [], _ | [_], [] | [_], [_] | [_], _ :: _ :: _ | _ :: _ :: _, _ => rfl
  rw [answer?, same, Query.tuples?_conditionFirst]
  rfl

theorem DateRange.answer?_conditionFirst :
    answer? (query.conditionFirst conditions) store = answer? query store := by
  have same : recognize? (query.conditionFirst conditions) = recognize? query := by
    unfold recognize? Query.conditionFirst
    match query.sources, query.filter with
    | [], _ | [_], [] | [_], [_] | [_], _ :: _ :: _ | _ :: _ :: _, _ => rfl
  rw [answer?, same, Query.tuples?_conditionFirst]
  rfl

theorem JoinSort.answer?_conditionFirst :
    answer? (query.conditionFirst conditions) store = answer? query store := by
  have same : recognize? (query.conditionFirst conditions) = recognize? query := by
    rw [recognize?, KeyJoin.isSome_ofQuery?_conditionFirst]
    rfl
  rw [answer?, same, Query.tuples?_conditionFirst]
  rfl

end

/-! ## All three shapes -/

/-- Without a limit, what is answered is the projection of exactly the tuples of the product that meet all
conditions, in the order of the product or sorted stably by descending keys, if the first source has no
conditions, as in every query that was read. A date range is keyed by the compared column, a key join by
its ordering's column or else by the output field of that name. Conditions of the first source would not
change an answer. -/
theorem answers_are_selections {query : Query} (free : query.FirstUnconditioned)
    (unlimited : query.limit = none) (store : Store) (rows : List Row) :
    (Threshold.answer? query store = .ok (some rows) →
      ∃ pairs, Selects query query.predicates store pairs ∧ rows = pairs.map Prod.snd) ∧
    (DateRange.answer? query store = .ok (some rows) →
      ∃ p column date, query.filter = [p] ∧ p.columnVsLiteral? = some (column, .gt, .date date) ∧
        SortedSelection query query.predicates store
          (fun tuple _ => (tuple.resolve? column).getD .null) rows) ∧
    (JoinSort.answer? query store = .ok (some rows) →
      ∃ order, query.orderBy = [order] ∧
        SortedSelection query query.predicates store (fun tuple row =>
          ((tuple.resolve? order.target).or (row.get? order.target.name)).getD .null) rows) ∧
    (∀ conditions,
      Threshold.answer? (query.conditionFirst conditions) store = Threshold.answer? query store ∧
      DateRange.answer? (query.conditionFirst conditions) store = DateRange.answer? query store ∧
      JoinSort.answer? (query.conditionFirst conditions) store = JoinSort.answer? query store) ∧
    ∀ text tree, Query.ofText? text = .ok tree → tree.FirstUnconditioned := by
  rw [← free.conjuncts_eq]
  refine ⟨fun h => ?_, fun h => ?_, fun h => ?_, fun conditions => ⟨?_, ?_, ?_⟩, ?_⟩
  · obtain ⟨pairs, selects, rfl⟩ := Threshold.answer_selects h
    exact ⟨pairs, selects, Query.cut_of_unlimited unlimited _⟩
  · obtain ⟨p, column, date, filter, comparison, sorted, selection, rfl⟩ := DateRange.answer_selects h
    rw [Query.cut_of_unlimited unlimited]
    exact ⟨p, column, date, filter, comparison, selection⟩
  · obtain ⟨order, orderBy, sorted, selection, rfl⟩ := JoinSort.answer_selects h
    rw [Query.cut_of_unlimited unlimited]
    exact ⟨order, orderBy, selection⟩
  · exact Threshold.answer?_conditionFirst query conditions store
  · exact DateRange.answer?_conditionFirst query conditions store
  · exact JoinSort.answer?_conditionFirst query conditions store
  · exact fun _ _ => Query.firstUnconditioned_of_ofText

/-- `SELECT name FROM employees WHERE salary > 70000` -/
def Sample.wellPaid : Query where
  distinct := false
  items := [.column ⟨none, "name"⟩ none]
  sources := [⟨"employees", none, .base, []⟩]
  filter := [⟨.column ⟨none, "salary"⟩, .gt, .literal (.integer 70000)⟩]
  groupBy := []
  orderBy := []
  limit := none

/-- `SELECT name FROM employees WHERE hire_date > '2021-01-01'` -/
def Sample.newcomers : Query :=
  { Sample.wellPaid with
    filter := [⟨.column ⟨none, "hire_date"⟩, .gt, .literal (.date "2021-01-01")⟩] }

/-- `SELECT e.name, d.name AS department FROM employees e JOIN departments d
ON e.department_id = d.id WHERE d.id > 1 ORDER BY e.salary DESC` -/
def Sample.earners : Query where
  distinct := false
  items := [.column ⟨some "e", "name"⟩ none, .column ⟨some "d", "name"⟩ (some "department")]
  sources := [⟨"employees", some "e", .base, []⟩, ⟨"departments", some "d", .inner,
    [⟨.column ⟨some "e", "department_id"⟩, .eq, .column ⟨some "d", "id"⟩⟩]⟩]
  filter := [⟨.column ⟨some "d", "id"⟩, .gt, .literal (.integer 1)⟩]
  groupBy := []
  orderBy := [⟨⟨some "e", "salary"⟩, true⟩]
  limit := none

theorem answers_are_selections_sample :
    (Sample.wellPaid.FirstUnconditioned ∧ Sample.newcomers.FirstUnconditioned ∧
      Sample.earners.FirstUnconditioned) ∧
    (∃ rows, Threshold.answer? Sample.wellPaid Sample.store = .ok (some rows) ∧
      ∃ pairs, Selects Sample.wellPaid Sample.wellPaid.predicates Sample.store pairs ∧
        rows = pairs.map Prod.snd) ∧
    (∃ rows, DateRange.answer? Sample.newcomers Sample.store = .ok (some rows) ∧
      ∃ column, SortedSelection Sample.newcomers Sample.newcomers.predicates Sample.store
        (fun tuple _ => (tuple.resolve? column).getD .null) rows) ∧
    ∃ rows, JoinSort.answer? Sample.earners Sample.store = .ok (some rows) ∧
      SortedSelection Sample.earners Sample.earners.predicates Sample.store (fun tuple row =>
        ((tuple.resolve? ⟨some "e", "salary"⟩).or (row.get? "salary")).getD .null) rows := by
  have freePaid : Sample.wellPaid.FirstUnconditioned := by decide
  have freeRecent : Sample.newcomers.FirstUnconditioned := by decide
  have freeSorted : Sample.earners.FirstUnconditioned := by decide
  obtain ⟨paid, hpaid⟩ := exists_ok_some (Threshold.answer? Sample.wellPaid Sample.store)
    (by decide +kernel)
  obtain ⟨recent, hrecent⟩ := exists_ok_some (DateRange.answer? Sample.newcomers Sample.store)
    (by decide +kernel)
  obtain ⟨sorted, hsorted⟩ := exists_ok_some (JoinSort.answer? Sample.earners Sample.store)
    (by decide +kernel)
  refine ⟨⟨freePaid, freeRecent, freeSorted⟩,
    ⟨paid, hpaid, (answers_are_selections freePaid rfl _ paid).1 hpaid⟩, ⟨recent, hrecent, ?_⟩,
    ⟨sorted, hsorted, ?_⟩⟩
  · obtain ⟨_, column, _, _, _, selection⟩ :=
      (answers_are_selections freeRecent rfl _ recent).2.1 hrecent
    exact ⟨column, selection⟩
  · obtain ⟨order, orderBy, selection⟩ :=
      (answers_are_selections freeSorted rfl _ sorted).2.2.1 hsorted
    obtain rfl := List.singleton_inj.mp orderBy
    exact selection

/-- The well paid, from a source that is to have only ids above 100. -/
def Sample.wellPaidLate : Query :=
  Sample.wellPaid.conditionFirst [⟨.column ⟨none, "id"⟩, .gt, .literal (.integer 100)⟩]

/-- Rows are answered, but none is projected from a tuple that meets the condition of the first source. -/
theorem answer_misses_first_condition :
    Sample.wellPaidLate.limit = none ∧
    ∃ rows, Threshold.answer? Sample.wellPaidLate Sample.store = .ok (some rows) ∧ rows.length = 3 ∧
      ¬∃ pairs, Selects Sample.wellPaidLate Sample.wellPaidLate.predicates Sample.store pairs ∧
        rows = pairs.map Prod.snd := by
  obtain ⟨rows, answered⟩ := exists_ok_some (Threshold.answer? Sample.wellPaidLate Sample.store)
    (by decide +kernel)
  have size : ((Threshold.answer? Sample.wellPaidLate Sample.store).toOption.join).map List.length =
      some 3 := by decide +kernel
  rw [answered] at size
  have three : rows.length = 3 := Option.some_inj.mp size
  refine ⟨rfl, rows, answered, three, ?_⟩
  rintro ⟨pairs, selects, rfl⟩
  have none : ((Query.product? Sample.store Sample.wellPaidLate.sources).map
      (·.filter (Tuple.satisfiesAll Sample.wellPaidLate.predicates))).map List.length = some 0 := by
    decide +kernel
  rw [selects.tuples] at none
  have empty : (pairs.map Prod.fst).length = 0 := Option.some_inj.mp none
  rw [List.length_map] at empty three
  omega

end QueryShapes
