import Mathlib.Data.List.Forall2
import QueryShapes.Proofs.Selection

/-!
# Joins on qualified columns

A join condition is tested on the rows joined so far, the filter on complete tuples. Where the columns
of join conditions are qualified by what is already joined, that makes no difference.

- `Tuple.satisfies_append`: a condition on columns of bound rows is not affected by further rows, even
  if these are bound under a name that is already taken.
- `settled_of_qualified`: so qualified join conditions are settled.
- `product?_places`: the product in the order of the places that its rows are stored at.
- `tuples?_qualified`: the joined tuples are those at the places where all conditions hold, and it
  does not matter which of the conditions stand in the filter, if the first source has none.
- `tuples?_miss_first_condition`: a condition of the first source is not tested, so it matters whether it
  stands there or in the filter.
-/

namespace QueryShapes

/-! ## Conditions on bound rows -/

/-- The column that an operand reads. -/
def Operand.column? : Operand → Option Column
  | .column c | .shifted c _ => some c
  | .literal _ => none

def Predicate.columns (p : Predicate) : List Column :=
  p.left.column?.toList ++ p.right.column?.toList

/-- Every column of the condition is qualified by one of the bindings. -/
def Predicate.QualifiedBy (bindings : List String) (p : Predicate) : Prop :=
  ∀ column ∈ p.columns, ∃ binding ∈ bindings, column.qualifier = some binding

instance (bindings : List String) (p : Predicate) : Decidable (p.QualifiedBy bindings) :=
  inferInstanceAs (Decidable (∀ _ ∈ _, _))

namespace Tuple

variable {t : Tuple} (u : Tuple)

/-- The first row of a name is found before those that are bound later. -/
theorem row?_append {binding : String} (bound : binding ∈ t.bindings) :
    (t.append u).row? binding = t.row? binding := by
  obtain ⟨entry, hentry, rfl⟩ := List.mem_map.mp bound
  have found : (t.entries.find? (·.1 = entry.1)).isSome :=
    List.find?_isSome.mpr ⟨entry, hentry, by simp⟩
  obtain ⟨first, hfirst⟩ := Option.isSome_iff_exists.mp found
  simp [row?, append, List.find?_append, hfirst]

theorem resolve?_append {column : Column} {binding : String} (bound : binding ∈ t.bindings)
    (qualified : column.qualifier = some binding) :
    (t.append u).resolve? column = t.resolve? column := by
  simp only [resolve?, qualified, row?_append u bound]

theorem evaluate?_append {operand : Operand}
    (qualified : ∀ column ∈ operand.column?, ∃ binding ∈ t.bindings, column.qualifier = some binding) :
    (t.append u).evaluate? operand = t.evaluate? operand := by
  cases operand with
  | literal v => rfl
  | column c =>
    obtain ⟨binding, bound, named⟩ := qualified c rfl
    exact resolve?_append u bound named
  | shifted c offset =>
    obtain ⟨binding, bound, named⟩ := qualified c rfl
    exact congrArg (·.bind (Value.shift? offset)) (resolve?_append u bound named)

theorem satisfies_append {p : Predicate} (qualified : p.QualifiedBy t.bindings) :
    (t.append u).satisfies p = t.satisfies p := by
  have left : (t.append u).evaluate? p.left = t.evaluate? p.left := by
    apply evaluate?_append
    intro column read
    exact qualified column (List.mem_append_left _ (Option.mem_toList.mpr read))
  have right : (t.append u).evaluate? p.right = t.evaluate? p.right := by
    apply evaluate?_append
    intro column read
    exact qualified column (List.mem_append_right _ (Option.mem_toList.mpr read))
  rw [satisfies, left, right, satisfies]

theorem satisfiesAll_perm {ps qs : List Predicate} (same : ps.Perm qs) :
    satisfiesAll ps = satisfiesAll qs := by
  funext t
  exact same.all_eq

end Tuple

/-! ## Qualified join conditions -/

namespace Query

/-- After sources of the bindings `earlier`, every column of a join condition is qualified by the
binding of the source that is joined or of one before it. -/
def JoinsQualified (earlier : List String) : List Source → Prop
  | [] => True
  | source :: rest =>
    (∀ p ∈ source.conditions, p.QualifiedBy (earlier ++ [source.binding])) ∧
      JoinsQualified (earlier ++ [source.binding]) rest

instance JoinsQualified.decidable :
    (earlier : List String) → (sources : List Source) → Decidable (JoinsQualified earlier sources)
  | _, [] => .isTrue trivial
  | earlier, source :: rest =>
    have := JoinsQualified.decidable (earlier ++ [source.binding]) rest
    inferInstanceAs (Decidable (_ ∧ _))

theorem settled_of_qualified {earlier : List String} {rest : List Source}
    (qualified : JoinsQualified earlier rest) : Settled earlier rest := by
  induction rest generalizing earlier with
  | nil => trivial
  | cons source rest ih =>
    obtain ⟨here, later⟩ := qualified
    refine ⟨?_, ih later⟩
    intro t u ht _
    rw [Bool.eq_iff_iff, Tuple.satisfiesAll, Tuple.satisfiesAll, List.all_eq_true, List.all_eq_true]
    refine forall₂_congr fun p hp => ?_
    rw [Tuple.satisfies_append u (ht ▸ here p hp)]

/-! ## Places -/

/-- The tuple of the rows that are stored at the given places, one of each source's relation. -/
def tupleAt? (store : Store) : List Source → List Nat → Option Tuple
  | [], [] => some ⟨[]⟩
  | source :: rest, place :: places => do
    let relation ← store.relation? source.table
    let row ← relation.rows[place]?
    let tail ← tupleAt? store rest places
    return (Tuple.single source.binding row).append tail
  | _, _ => none

/-- To range over the places of a list is to range over its items. -/
theorem flatMap_getElem?_range {α β : Type} (l : List α) (f : Option α → List β) :
    ((List.range l.length).flatMap fun place => f l[place]?) = l.flatMap fun item => f (some item) := by
  have items : (List.range l.length).map (l[·]?) = l.map some := by
    apply List.ext_getElem
    · simp
    · intro place _ _
      simp
  rw [← List.flatMap_map (l[·]?) f, items, List.flatMap_map]

/-- Lists of places that continue each of the first places come in lexicographic order. -/
theorem pairwise_lex_continued {heads : List Nat} {tails : List (List Nat)}
    (headsAscend : heads.Pairwise (· < ·)) (tailsAscend : tails.Pairwise (List.Lex (· < ·))) :
    (heads.flatMap fun head => tails.map (head :: ·)).Pairwise (List.Lex (· < ·)) := by
  rw [List.pairwise_flatMap]
  constructor
  · intro head _
    rw [List.pairwise_map]
    exact tailsAscend.imp .cons
  · refine headsAscend.imp fun {a b} ascend => ?_
    intro x hx y hy
    obtain ⟨_, _, rfl⟩ := List.mem_map.mp hx
    obtain ⟨_, _, rfl⟩ := List.mem_map.mp hy
    exact .rel ascend

theorem tupleAt?_cons {store : Store} {source : Source} {relation : Relation}
    (found : store.relation? source.table = some relation) (rest : List Source) (place : Nat)
    (places : List Nat) :
    tupleAt? store (source :: rest) (place :: places) = relation.rows[place]?.bind fun row =>
      (tupleAt? store rest places).map (Tuple.single source.binding row).append := by
  simp only [tupleAt?, found, Option.bind_eq_bind, Option.bind_some, Option.pure_def]
  congr 1
  funext row
  exact Option.map_eq_bind.symm

theorem isSome_tupleAt?_cons {store : Store} {source : Source} {relation : Relation}
    (found : store.relation? source.table = some relation) (rest : List Source) (place : Nat)
    (places : List Nat) :
    (tupleAt? store (source :: rest) (place :: places)).isSome ↔
      place < relation.rows.length ∧ (tupleAt? store rest places).isSome := by
  rw [tupleAt?_cons found]
  cases stored : relation.rows[place]? with
  | none =>
    have beyond : ¬place < relation.rows.length := by
      simpa using List.getElem?_eq_none_iff.mp stored
    simp [beyond]
  | some row =>
    have within : place < relation.rows.length := (List.getElem?_eq_some_iff.mp stored).1
    simp [within]

/-- The product runs through all places in lexicographic order. -/
theorem product?_places {store : Store} {sources : List Source} {tuples : List Tuple}
    (h : product? store sources = some tuples) :
    ∃ places : List (List Nat), places.Pairwise (List.Lex (· < ·)) ∧
      (∀ place, place ∈ places ↔ (tupleAt? store sources place).isSome) ∧
      places.map (tupleAt? store sources) = tuples.map some := by
  induction sources generalizing tuples with
  | nil =>
    obtain rfl := Option.some_inj.mp h
    refine ⟨[[]], List.pairwise_singleton _ _, ?_, rfl⟩
    intro place
    cases place <;> simp [tupleAt?]
  | cons source rest ih =>
    simp only [product?, Option.bind_eq_bind, Option.bind_eq_some_iff, Option.pure_def,
      Option.some_inj] at h
    obtain ⟨relation, found, tails, htails, rfl⟩ := h
    obtain ⟨tailPlaces, ascend, complete, placed⟩ := ih htails
    refine ⟨(List.range relation.rows.length).flatMap fun head => tailPlaces.map (head :: ·),
      pairwise_lex_continued List.pairwise_lt_range ascend, ?_, ?_⟩
    · intro place
      cases place with
      | nil => simp [tupleAt?]
      | cons head place => simp [isSome_tupleAt?_cons found, complete]
    · let extended (row? : Option Row) : List (Option Tuple) :=
        tailPlaces.map fun place => row?.bind fun row =>
          (tupleAt? store rest place).map (Tuple.single source.binding row).append
      have extended_row (row : Row) :
          extended (some row) = tails.map (some ∘ (Tuple.single source.binding row).append) := by
        calc
          _ = (tailPlaces.map (tupleAt? store rest)).map
              (Option.map (Tuple.single source.binding row).append) := by simp [extended]
          _ = _ := by
            rw [placed, List.map_map]
            rfl
      calc
        _ = (List.range relation.rows.length).flatMap fun head => extended relation.rows[head]? := by
          simp only [List.map_flatMap, List.map_map, extended, Function.comp_def,
            tupleAt?_cons found]
        _ = relation.rows.flatMap fun row => extended (some row) :=
          flatMap_getElem?_range relation.rows extended
        _ = _ := by
          simp only [extended_row, List.map_flatMap, List.map_map]

theorem exists_product_of_known {store : Store} {sources : List Source}
    (known : ∀ source ∈ sources, (store.relation? source.table).isSome) :
    ∃ tuples, product? store sources = some tuples := by
  induction sources with
  | nil => exact ⟨_, rfl⟩
  | cons source rest ih =>
    obtain ⟨relation, found⟩ := Option.isSome_iff_exists.mp (known source List.mem_cons_self)
    obtain ⟨tails, htails⟩ := ih fun s hs => known s (List.mem_cons_of_mem _ hs)
    exact ⟨_, by simp only [product?, found, htails]; rfl⟩

/-! ## Moving conditions to the filter -/

end Query

/-- The source with some of its join conditions taken away. The join may become one of another kind, but
not an outer one. -/
structure Source.Eases (source eased : Source) : Prop where
  table : eased.table = source.table
  label : eased.label = source.label
  kind : eased.kind = .left → source.kind = .left
  conditions : eased.conditions.Sublist source.conditions

theorem Source.Eases.binding {source eased : Source} (h : source.Eases eased) :
    eased.binding = source.binding := by
  rw [Source.binding, Source.binding, h.table, h.label]

namespace Query

/-- Join conditions of the query, some or all of them, stand in the filter of the other query. -/
structure MovesConditions (query moved : Query) : Prop where
  sources : List.Forall₂ Source.Eases query.sources moved.sources
  predicates : moved.predicates.Perm query.predicates

theorem JoinsQualified.eased {earlier : List String} {sources eased : List Source}
    (qualified : JoinsQualified earlier sources) (eases : List.Forall₂ Source.Eases sources eased) :
    JoinsQualified earlier eased := by
  induction eases generalizing earlier with
  | nil => trivial
  | cons here _ ih =>
    obtain ⟨conditions, later⟩ := qualified
    refine ⟨fun p hp => ?_, ?_⟩
    · rw [here.binding]
      exact conditions p (here.conditions.subset hp)
    · rw [here.binding]
      exact ih later

theorem product?_eased (store : Store) {sources eased : List Source}
    (eases : List.Forall₂ Source.Eases sources eased) :
    product? store eased = product? store sources := by
  induction eases with
  | nil => rfl
  | cons here _ ih => simp only [product?, here.table, here.binding, ih]

theorem inner_eased {sources eased : List Source} (eases : List.Forall₂ Source.Eases sources eased)
    (inner : ∀ source ∈ sources, source.kind ≠ .left) : ∀ source ∈ eased, source.kind ≠ .left := by
  induction eases with
  | nil => exact inner
  | cons here _ ih =>
    obtain ⟨first, rest⟩ := List.forall_mem_cons.mp inner
    exact List.forall_mem_cons.mpr ⟨fun outer => first (here.kind outer), ih rest⟩

theorem FirstUnconditioned.moved {query moved : Query} (free : query.FirstUnconditioned)
    (moves : query.MovesConditions moved) : moved.FirstUnconditioned := by
  have eases := moves.sources
  unfold FirstUnconditioned at free ⊢
  generalize query.sources = sources, moved.sources = eased at free eases ⊢
  cases eases with
  | nil => exact free
  | cons here _ =>
    have fewer := here.conditions
    rw [free _ rfl, List.sublist_nil] at fewer
    simpa using fewer

theorem selected?_moved (store : Store) {query moved : Query} (free : query.FirstUnconditioned)
    (moves : query.MovesConditions moved) : moved.selected? store = query.selected? store := by
  have conjuncts : moved.conjuncts.Perm query.conjuncts := by
    rw [free.conjuncts_eq, (free.moved moves).conjuncts_eq]
    exact moves.predicates
  rw [selected?, selected?, product?_eased store moves.sources, Tuple.satisfiesAll_perm conjuncts]

/-! ## The joined tuples -/

theorem tuples?_eq_selected (store : Store) {query : Query} (bound : query.sources ≠ [])
    (inner : ∀ source ∈ query.sources, source.kind ≠ .left)
    (qualified : JoinsQualified [] query.sources) :
    query.tuples? store = query.selected? store := by
  obtain ⟨first, rest, sources⟩ := List.exists_cons_of_ne_nil bound
  rw [sources] at inner qualified
  have joined : rest.any (·.kind = .left) = false := by
    simpa using fun source hs => inner source (List.mem_cons_of_mem _ hs)
  rw [tuples?_eq query store sources (settled_of_qualified qualified.2), joined]
  rfl

/-- The same conditions select the same tuples, wherever they stand. -/
theorem tuples?_moved (store : Store) {query moved : Query} (free : query.FirstUnconditioned)
    (moves : query.MovesConditions moved) (inner : ∀ source ∈ query.sources, source.kind ≠ .left)
    (qualified : JoinsQualified [] query.sources) : moved.tuples? store = query.tuples? store := by
  have size := moves.sources.length_eq
  by_cases bound : query.sources = []
  · have boundMoved : moved.sources = [] := by simpa [bound] using size.symm
    simp only [tuples?, bound, boundMoved]
  · have boundMoved : moved.sources ≠ [] := by
      intro none
      exact bound (by simpa [none] using size)
    calc
      moved.tuples? store = moved.selected? store :=
        tuples?_eq_selected store boundMoved (inner_eased moves.sources inner)
          (qualified.eased moves.sources)
      _ = query.selected? store := selected?_moved store free moves
      _ = query.tuples? store := (tuples?_eq_selected store bound inner qualified).symm

/-- If the first source has no conditions, as in every query that was read, the joined tuples are those of
the product on which all conditions hold, in the order of the places of their rows and each once, and they
are the same when join conditions are moved to the filter. Conditions of the first source would not change
them. -/
theorem tuples?_qualified {store : Store} {query : Query} (free : query.FirstUnconditioned)
    (known : ∀ source ∈ query.sources, (store.relation? source.table).isSome)
    (inner : ∀ source ∈ query.sources, source.kind ≠ .left)
    (qualified : JoinsQualified [] query.sources) :
    (query.sources ≠ [] →
      ∃ (tuples : List Tuple) (places : List (List Nat)), query.tuples? store = some tuples ∧
        tuples.map some = places.map (tupleAt? store query.sources) ∧
        places.Pairwise (List.Lex (· < ·)) ∧
        ∀ place, place ∈ places ↔ ∃ tuple, tupleAt? store query.sources place = some tuple ∧
          ∀ p ∈ query.predicates, tuple.satisfies p) ∧
    (∀ moved, query.MovesConditions moved → moved.tuples? store = query.tuples? store) ∧
    (∀ conditions, (query.conditionFirst conditions).tuples? store = query.tuples? store) ∧
    ∀ text tree, Query.ofText? text = .ok tree → tree.sources ≠ [] ∧ tree.FirstUnconditioned := by
  refine ⟨fun bound => ?_, fun moved moves => tuples?_moved store free moves inner qualified,
    fun conditions => tuples?_conditionFirst query conditions store,
    fun text tree read => ⟨?_, firstUnconditioned_of_ofText read⟩⟩
  · obtain ⟨product, combined⟩ := exists_product_of_known known
    obtain ⟨places, ascend, complete, placed⟩ := product?_places combined
    let meets (tuple? : Option Tuple) : Bool := tuple?.any (Tuple.satisfiesAll query.predicates)
    refine ⟨product.filter (Tuple.satisfiesAll query.predicates),
      places.filter (meets ∘ tupleAt? store query.sources), ?_, ?_, ascend.filter _, ?_⟩
    · rw [tuples?_eq_selected store bound inner qualified, selected?, combined, free.conjuncts_eq]
      rfl
    · rw [← List.filter_map, placed, List.filter_map]
      rfl
    · intro place
      rw [List.mem_filter, complete]
      cases stands : tupleAt? store query.sources place <;>
        simp [meets, stands, Tuple.satisfiesAll]
  · obtain ⟨first, rest, sources, _⟩ := ofText?_sources read
    rw [sources]
    exact List.cons_ne_nil _ _

end Query

/-- `SELECT e.name, p.name FROM departments d JOIN employees e ON e.department_id = d.id AND
e.salary > 70000 JOIN projects p ON p.department_id = d.id WHERE p.id < 3` -/
def Sample.staffing : Query where
  distinct := false
  items := [.column ⟨some "e", "name"⟩ none, .column ⟨some "p", "name"⟩ (some "project")]
  sources := [⟨"departments", some "d", .base, []⟩,
    ⟨"employees", some "e", .inner,
      [⟨.column ⟨some "e", "department_id"⟩, .eq, .column ⟨some "d", "id"⟩⟩,
        ⟨.column ⟨some "e", "salary"⟩, .gt, .literal (.integer 70000)⟩]⟩,
    ⟨"projects", some "p", .inner,
      [⟨.column ⟨some "p", "department_id"⟩, .eq, .column ⟨some "d", "id"⟩⟩]⟩]
  filter := [⟨.column ⟨some "p", "id"⟩, .lt, .literal (.integer 3)⟩]
  groupBy := []
  orderBy := []
  limit := none

/-- The same with `FROM departments d JOIN employees e ON e.salary > 70000 CROSS JOIN projects p` and the
other conditions after `WHERE`. -/
def Sample.staffingMoved : Query :=
  { Sample.staffing with
    sources := [⟨"departments", some "d", .base, []⟩,
      ⟨"employees", some "e", .inner,
        [⟨.column ⟨some "e", "salary"⟩, .gt, .literal (.integer 70000)⟩]⟩,
      ⟨"projects", some "p", .cross, []⟩]
    filter := [⟨.column ⟨some "p", "department_id"⟩, .eq, .column ⟨some "d", "id"⟩⟩,
      ⟨.column ⟨some "e", "department_id"⟩, .eq, .column ⟨some "d", "id"⟩⟩,
      ⟨.column ⟨some "p", "id"⟩, .lt, .literal (.integer 3)⟩] }

namespace Query

theorem staffing_moves : Sample.staffing.MovesConditions Sample.staffingMoved where
  sources := .cons ⟨rfl, rfl, id, .slnil⟩ (.cons ⟨rfl, rfl, id, .cons _ (.refl _)⟩
    (.cons ⟨rfl, rfl, by simp, List.nil_sublist _⟩ .nil))
  predicates := by decide

theorem tuples?_qualified_staffing :
    Sample.staffing.FirstUnconditioned ∧
    (∀ source ∈ Sample.staffing.sources, (Sample.store.relation? source.table).isSome) ∧
    (∀ source ∈ Sample.staffing.sources, source.kind ≠ .left) ∧
    JoinsQualified [] Sample.staffing.sources ∧
    Sample.staffing.MovesConditions Sample.staffingMoved ∧
    Sample.staffing.sources ≠ [] ∧
    ∃ tuples, Sample.staffing.tuples? Sample.store = some tuples ∧ tuples.length = 4 ∧
      Sample.staffingMoved.tuples? Sample.store = some tuples := by
  have free : Sample.staffing.FirstUnconditioned := by decide
  have known : ∀ source ∈ Sample.staffing.sources,
      (Sample.store.relation? source.table).isSome := by decide
  have inner : ∀ source ∈ Sample.staffing.sources, source.kind ≠ .left := by decide
  have qualified : JoinsQualified [] Sample.staffing.sources := by decide
  have bound : Sample.staffing.sources ≠ [] := by simp [Sample.staffing]
  obtain ⟨selects, moves, _⟩ := tuples?_qualified free known inner qualified
  obtain ⟨tuples, _, joined, _⟩ := selects bound
  have size : (Sample.staffing.tuples? Sample.store).map List.length = some 4 := by decide +kernel
  rw [joined] at size
  exact ⟨free, known, inner, qualified, staffing_moves, bound, tuples, joined, Option.some_inj.mp size,
    (moves _ staffing_moves).trans joined⟩

end Query

/-- `d.id > 100`, which no department meets. -/
def Sample.lateDepartment : Predicate := ⟨.column ⟨some "d", "id"⟩, .gt, .literal (.integer 100)⟩

/-- Staffing with that condition on the first source. -/
def Sample.lateStaffing : Query := Sample.staffing.conditionFirst [Sample.lateDepartment]

/-- The same with the condition after `WHERE`. -/
def Sample.lateStaffingMoved : Query :=
  { Sample.staffing with filter := Sample.lateDepartment :: Sample.staffing.filter }

namespace Query

theorem lateStaffing_moves : Sample.lateStaffing.MovesConditions Sample.lateStaffingMoved where
  sources := .cons ⟨rfl, rfl, id, List.nil_sublist _⟩ (.cons ⟨rfl, rfl, id, .refl _⟩
    (.cons ⟨rfl, rfl, id, .refl _⟩ .nil))
  predicates := by decide

/-- Tuples are joined that do not meet the condition of the first source; in the filter it is tested. -/
theorem tuples?_miss_first_condition :
    (∀ source ∈ Sample.lateStaffing.sources, (Sample.store.relation? source.table).isSome) ∧
    (∀ source ∈ Sample.lateStaffing.sources, source.kind ≠ .left) ∧
    JoinsQualified [] Sample.lateStaffing.sources ∧
    Sample.lateDepartment ∈ Sample.lateStaffing.predicates ∧
    (∃ tuples, Sample.lateStaffing.tuples? Sample.store = some tuples ∧ tuples.length = 4 ∧
      ∀ t ∈ tuples, t.satisfies Sample.lateDepartment = false) ∧
    Sample.lateStaffing.MovesConditions Sample.lateStaffingMoved ∧
    Sample.lateStaffingMoved.tuples? Sample.store = some [] := by
  refine ⟨by decide, by decide, by decide, by decide, ?_, lateStaffing_moves, ?_⟩
  · have computed : (Sample.lateStaffing.tuples? Sample.store).any (fun tuples =>
        tuples.length = 4 ∧ ∀ t ∈ tuples, t.satisfies Sample.lateDepartment = false) := by
      decide +kernel
    obtain ⟨tuples, joined, fails⟩ := (Option.any_eq_true _ _).mp computed
    obtain ⟨four, missed⟩ := of_decide_eq_true fails
    exact ⟨tuples, joined, four, missed⟩
  · have computed : (Sample.lateStaffingMoved.tuples? Sample.store).any List.isEmpty := by
      decide +kernel
    obtain ⟨tuples, joined, none⟩ := (Option.any_eq_true _ _).mp computed
    rw [joined, List.isEmpty_iff.mp none]

end Query

end QueryShapes
