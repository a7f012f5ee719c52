import QueryShapes.Proofs.Renaming
import QueryShapes.Proofs.ShapePriority

/-!
# Renamed bindings

Relations and fields are data, and bindings are only names for the rows of a tuple. A shape that is
asked about a query with other bindings recognizes and answers it in the same way, as long as the
bindings are kept apart. An aggregate without a label is the exception: its output field is named by
the argument as it is written.

- `sourceOf?_rename`, `KeyJoin.ofQuery?_rename`: what a shape finds in the renamed query is what it
  finds in the query, renamed.
- `answer?_rename`: one shape after another.
- `answer_renamed`: all built-in shapes, for renamings that keep the query's own names apart.
-/

namespace QueryShapes

variable {f : String → String}

/-! ## What is recognized in a renamed query -/

section
variable (query : Query)

theorem Query.tables_rename :
    (query.rename f).sources.map Source.table = query.sources.map Source.table := by
  simp only [rename, List.map_map]
  rfl

theorem Query.isSelfJoin_rename : (query.rename f).isSelfJoin = query.isSelfJoin := by
  rw [isSelfJoin_eq_tables, isSelfJoin_eq_tables, tables_rename]

theorem SelectItem.aggregate?_rename (item : SelectItem) :
    (item.rename f).aggregate? = item.aggregate?.map (Aggregate.rename f) := by
  cases item <;> rfl

theorem SelectItem.isWildcard_rename (item : SelectItem) :
    (item.rename f).isWildcard = item.isWildcard := by
  cases item <;> rfl

theorem Query.aggregates_rename :
    (query.rename f).aggregates = query.aggregates.map (Aggregate.rename f) := by
  simp only [aggregates, rename, List.filterMap_map, List.map_filterMap, Function.comp_def,
    SelectItem.aggregate?_rename]

theorem Query.isPlain_rename : (query.rename f).isPlain = query.isPlain := by
  simp only [isPlain, hasAggregates, rename, List.isEmpty_map, List.any_map, Function.comp_def,
    SelectItem.aggregate?_rename, Option.isSome_map]

theorem Query.predicates_rename :
    (query.rename f).predicates = query.predicates.map (Predicate.rename f) := by
  simp only [predicates, rename, List.map_append, List.flatMap_map, List.map_flatMap]
  rfl

theorem Predicate.columnVsLiteral?_rename (p : Predicate) :
    (p.rename f).columnVsLiteral? = p.columnVsLiteral?.map (Prod.map (Column.rename f) id) := by
  obtain ⟨left, op, right⟩ := p
  cases left <;> cases right <;> rfl

theorem Predicate.columnEquality?_rename (p : Predicate) :
    (p.rename f).columnEquality? =
      p.columnEquality?.map (Prod.map (Column.rename f) (Column.rename f)) := by
  obtain ⟨left, op, right⟩ := p
  cases op <;> cases left <;> cases right <;> rfl

theorem KeyJoin.innerCondition?_rename (source : Source) :
    innerCondition? (source.rename f) = (innerCondition? source).map (Predicate.rename f) := by
  obtain ⟨table, label, kind, conditions⟩ := source
  obtain _ | ⟨condition, _ | _⟩ := conditions <;> cases kind <;> rfl

theorem KeyJoin.condition?_rename (sources : List Source) :
    condition? (sources.map (Source.rename f)) = (condition? sources).map (Predicate.rename f) := by
  obtain _ | ⟨_, _ | ⟨joined, _ | _⟩⟩ := sources
  · rfl
  · rfl
  · exact innerCondition?_rename joined
  · rfl

theorem KeyJoin.keys?_rename (a b : Column) :
    keys? (a.rename f) (b.rename f) =
      (keys? a b).map (Prod.map (Column.rename f) (Column.rename f)) := by
  simp only [keys?, apply_ite (Option.map _), Option.map_some, Option.map_none, Prod.map_apply]
  rfl

theorem KeyJoin.keyColumns?_rename :
    keyColumns? (query.rename f) =
      (keyColumns? query).map (Prod.map (Column.rename f) (Column.rename f)) := by
  have conditions : condition? (query.rename f).sources =
      (condition? query.sources).map (Predicate.rename f) := condition?_rename query.sources
  unfold keyColumns?
  rw [conditions]
  cases condition? query.sources with
  | none => rfl
  | some condition =>
    simp only [Option.map_some, Option.bind_eq_bind, Option.bind_some,
      Predicate.columnEquality?_rename]
    cases condition.columnEquality? with
    | none => rfl
    | some sides => exact keys?_rename sides.1 sides.2

end

/-! ## What is compared under other names -/

section
variable (injective : Function.Injective f) (query : Query)
include injective

theorem Query.sourceOf?_rename (column : Column) :
    (query.rename f).sourceOf? (column.rename f) =
      (query.sourceOf? column).map (Source.rename f) := by
  obtain ⟨qualifier, name⟩ := column
  cases qualifier with
  | none => exact List.head?_map
  | some qualifier =>
    have bound : (fun source : Source => decide (source.binding = f qualifier)) ∘ Source.rename f =
        fun source => decide (source.binding = qualifier) :=
      funext fun _ => decide_eq_decide.mpr injective.eq_iff
    simp only [sourceOf?, rename, Column.rename, Option.map_some, List.find?_map, bound]

theorem Adjacency.links_rename (field : String) (p : Predicate) :
    links field (p.rename f) = links field p := by
  unfold links
  rw [Predicate.columnEquality?_rename]
  cases p.columnEquality? with
  | none => rfl
  | some sides =>
    obtain ⟨a, b⟩ := sides
    have different : (a.qualifier.map f != b.qualifier.map f) = (a.qualifier != b.qualifier) := by
      rw [Bool.eq_iff_iff, bne_iff_ne, bne_iff_ne]
      exact (Option.map_injective injective).ne_iff
    simp only [Option.map_some, Prod.map_apply, Column.rename, different]

/-- The key join of the same sources under other names. -/
def KeyJoin.rename (f : String → String) (join : KeyJoin) : KeyJoin :=
  ⟨join.parent.rename f, join.child.rename f, join.childField⟩

theorem KeyJoin.onKeys?_rename (parentKey childKey : Column) :
    onKeys? (query.rename f) (parentKey.rename f) (childKey.rename f) =
      (onKeys? query parentKey childKey).map (rename f) := by
  simp only [onKeys?, Query.sourceOf?_rename injective]
  cases query.sourceOf? parentKey with
  | none => rfl
  | some parent =>
    cases query.sourceOf? childKey with
    | none => rfl
    | some child =>
      have same : (parent.rename f).binding = (child.rename f).binding ↔
          parent.binding = child.binding := injective.eq_iff
      simp only [Option.map_some, Option.bind_eq_bind, Option.bind_some, same,
        apply_ite (Option.map (rename f)), Option.map_none]
      rfl

theorem KeyJoin.ofQuery?_rename : ofQuery? (query.rename f) = (ofQuery? query).map (rename f) := by
  rw [ofQuery?_eq, ofQuery?_eq, keyColumns?_rename]
  cases keyColumns? query with
  | none => rfl
  | some keys => exact onKeys?_rename injective query keys.1 keys.2

theorem Query.projectKeyed_rename {key key' : Tuple → Row → Value}
    (same : ∀ t row, key' (t.rename f) row = key t row) (tuples : List Tuple) :
    (query.rename f).projectKeyed key' (tuples.map (Tuple.rename f)) =
      query.projectKeyed key tuples := by
  simp only [projectKeyed, rename, List.mapM_map, Function.comp_def, Tuple.project_rename injective,
    same]

/-! ## One shape after another -/

namespace JoinSort

theorem recognize?_rename :
    recognize? (query.rename f) = (recognize? query).map (SortKey.rename f) := by
  have join : (KeyJoin.ofQuery? (query.rename f)).isSome = (KeyJoin.ofQuery? query).isSome := by
    rw [KeyJoin.ofQuery?_rename injective, Option.isSome_map]
  unfold recognize?
  rw [Query.isPlain_rename, join]
  split
  · simp only [Query.rename]
    generalize query.orderBy = keys
    obtain _ | ⟨key, _ | _⟩ := keys
    · rfl
    · simp only [List.map_cons, List.map_nil, apply_ite (Option.map _), Option.map_some,
        Option.map_none]
      rfl
    · rfl
  · rfl

theorem key_rename (order : SortKey) (t : Tuple) (row : Row) :
    key (order.rename f) (t.rename f) row = key order t row := by
  simp only [key, SortKey.rename, Tuple.resolve?_rename injective]
  rfl

theorem answer?_rename (store : Store) : answer? (query.rename f) store = answer? query store := by
  unfold answer?
  rw [recognize?_rename injective, Query.tuples?_rename injective]
  cases recognize? query with
  | none => rfl
  | some order =>
    cases query.tuples? store with
    | none => rfl
    | some tuples =>
      simp only [Option.map_some,
        Query.projectKeyed_rename injective query (key_rename injective order)]
      rfl

end JoinSort

namespace Adjacency

omit injective in
theorem projected?_rename (items : List SelectItem) :
    projected? (items.map (SelectItem.rename f)) = projected? items := by
  obtain _ | ⟨_ | _ | _, _ | _⟩ := items <;> rfl

theorem recognize?_rename : recognize? (query.rename f) = recognize? query := by
  have linked (field : String) :
      (query.rename f).predicates.any (links field) = query.predicates.any (links field) := by
    simp only [Query.predicates_rename, List.any_map, Function.comp_def, links_rename injective]
  have projected : projected? (query.rename f).items = projected? query.items :=
    projected?_rename query.items
  simp only [recognize?_eq_names, Query.tables_rename, Query.isSelfJoin_rename,
    Query.isPlain_rename, linked, projected]

theorem answer?_rename (store : Store) : answer? (query.rename f) store = answer? query store := by
  unfold answer?
  rw [recognize?_rename injective]
  rfl

end Adjacency

namespace DateRange

omit injective in
theorem dateColumn?_rename (p : Predicate) :
    dateColumn? (p.rename f) = (dateColumn? p).map (Column.rename f) := by
  unfold dateColumn?
  rw [Predicate.columnVsLiteral?_rename]
  obtain _ | ⟨column, op, value⟩ := p.columnVsLiteral?
  · rfl
  · cases op <;> cases value <;> rfl

omit injective in
theorem ordersBy_rename (field : String) (keys : List SortKey) :
    ordersBy field (keys.map (SortKey.rename f)) = ordersBy field keys := by
  obtain _ | ⟨_, _ | _⟩ := keys <;> rfl

omit injective in
theorem recognize?_rename :
    recognize? (query.rename f) = (recognize? query).map (Column.rename f) := by
  have sources : (query.rename f).sources = query.sources.map (Source.rename f) := rfl
  have filter : (query.rename f).filter = query.filter.map (Predicate.rename f) := rfl
  have ordered (field : String) :
      ordersBy field (query.rename f).orderBy = ordersBy field query.orderBy :=
    ordersBy_rename field query.orderBy
  simp only [recognize?, sources, filter, Query.isPlain_rename, ordered]
  generalize query.sources = sources, query.filter = filter
  obtain _ | ⟨_, _ | _⟩ := sources
  · rfl
  · obtain _ | ⟨p, _ | _⟩ := filter
    · rfl
    · simp only [List.map_cons, List.map_nil, dateColumn?_rename, Option.filter_map]
      rfl
    · rfl
  · rfl

theorem key_rename (column : Column) (t : Tuple) (row : Row) :
    key (column.rename f) (t.rename f) row = key column t row := by
  simp only [key, Tuple.resolve?_rename injective]

theorem answer?_rename (store : Store) : answer? (query.rename f) store = answer? query store := by
  unfold answer?
  rw [recognize?_rename, Query.tuples?_rename injective]
  cases recognize? query with
  | none => rfl
  | some column =>
    cases query.tuples? store with
    | none => rfl
    | some tuples =>
      simp only [Option.map_some,
        Query.projectKeyed_rename injective query (key_rename injective column)]
      rfl

end DateRange

namespace Threshold

omit injective in
theorem isThreshold_rename (p : Predicate) : isThreshold (p.rename f) = isThreshold p := by
  unfold isThreshold
  rw [Predicate.columnVsLiteral?_rename]
  obtain _ | ⟨column, op, value⟩ := p.columnVsLiteral?
  · rfl
  · cases op <;> rfl

omit injective in
theorem recognizes_rename : recognizes (query.rename f) = recognizes query := by
  have sources : (query.rename f).sources = query.sources.map (Source.rename f) := rfl
  have filter : (query.rename f).filter = query.filter.map (Predicate.rename f) := rfl
  have ordered : (query.rename f).orderBy.isEmpty = query.orderBy.isEmpty := List.isEmpty_map
  simp only [recognizes, sources, filter, Query.isPlain_rename, ordered]
  generalize query.sources = sources, query.filter = filter
  obtain _ | ⟨_, _ | _⟩ := sources
  · rfl
  · obtain _ | ⟨p, _ | _⟩ := filter
    · rfl
    · simp only [List.map_cons, List.map_nil, isThreshold_rename]
    · rfl
  · rfl

theorem answer?_rename (store : Store) : answer? (query.rename f) store = answer? query store := by
  unfold answer?
  rw [recognizes_rename, Query.tuples?_rename injective]
  cases recognizes query with
  | false => rfl
  | true =>
    cases query.tuples? store with
    | none => rfl
    | some tuples =>
      simp only [Option.map_some, List.mapM_map, Function.comp_def, Query.rename,
        Tuple.project_rename injective]
      rfl

end Threshold

namespace GroupAverage

theorem groupsByParent_rename (join : KeyJoin) (column : Column) :
    groupsByParent (query.rename f) (join.rename f) (column.rename f) =
      groupsByParent query join column := by
  unfold groupsByParent
  rw [Query.sourceOf?_rename injective]
  cases query.sourceOf? column with
  | none => rfl
  | some source =>
    have same (s t : Source) : (s.rename f).binding = (t.rename f).binding ↔ s.binding = t.binding :=
      injective.eq_iff
    have parent : (join.rename f).parent = join.parent.rename f := rfl
    have child : (join.rename f).child = join.child.rename f := rfl
    simp only [Option.map_some, parent, child, same]
    rfl

theorem recognize?_rename :
    recognize? (query.rename f) =
      (recognize? query).map (Prod.map (KeyJoin.rename f) (Aggregate.rename f)) := by
  have ungrouped : (query.rename f).groupBy.isEmpty = query.groupBy.isEmpty := List.isEmpty_map
  have mean : (query.rename f).aggregates.find? (·.function = .avg) =
      (query.aggregates.find? (·.function = .avg)).map (Aggregate.rename f) := by
    rw [Query.aggregates_rename, List.find?_map]
    rfl
  have counts : (query.rename f).aggregates.any (·.function = .count) =
      query.aggregates.any (·.function = .count) := by
    rw [Query.aggregates_rename, List.any_map]
    rfl
  have groups (join : KeyJoin) :
      (query.rename f).groupBy.all (groupsByParent (query.rename f) (join.rename f)) =
        query.groupBy.all (groupsByParent query join) := by
    have renamed : (query.rename f).groupBy = query.groupBy.map (Column.rename f) := rfl
    simp only [renamed, List.all_map, Function.comp_def, groupsByParent_rename injective]
  have wildcards : (query.rename f).items.any SelectItem.isWildcard =
      query.items.any SelectItem.isWildcard := by
    have renamed : (query.rename f).items = query.items.map (SelectItem.rename f) := rfl
    simp only [renamed, List.any_map, Function.comp_def, SelectItem.isWildcard_rename]
  unfold recognize?
  rw [ungrouped, KeyJoin.ofQuery?_rename injective, mean, counts, wildcards]
  split
  · rfl
  · cases KeyJoin.ofQuery? query with
    | none => rfl
    | some join =>
      cases query.aggregates.find? (·.function = .avg) with
      | none => rfl
      | some mean =>
        simp only [Option.map_some, Option.bind_eq_bind, Option.bind_some, groups,
          apply_ite (Option.map _), Option.map_none, Prod.map_apply]

theorem groupItem_rename {item : SelectItem} (labelled : ∀ call, item ≠ .aggregate call none)
    (first : Tuple) (group : List Tuple) :
    groupItem (first.rename f) (group.map (Tuple.rename f)) (item.rename f) =
      groupItem first group item := by
  cases item with
  | wildcard qualifier => rfl
  | column c label =>
    simp only [groupItem, SelectItem.rename, Tuple.resolve?_rename injective]
    rfl
  | aggregate call label =>
    cases label with
    | none => exact absurd rfl (labelled call)
    | some label =>
      simp only [groupItem, SelectItem.rename, Aggregate.evaluate_rename injective]
      rfl

variable {query} in
theorem groupRow_rename (labelled : ∀ call, .aggregate call none ∉ query.items) (mean : Aggregate)
    (group : List Tuple) :
    groupRow (query.rename f) (mean.rename f) (group.map (Tuple.rename f)) =
      groupRow query mean group := by
  cases group with
  | nil => rfl
  | cons first rest =>
    have items : (query.rename f).items.mapM
        (groupItem (first.rename f) ((first :: rest).map (Tuple.rename f))) =
          query.items.mapM (groupItem first (first :: rest)) := by
      have renamed : (query.rename f).items = query.items.map (SelectItem.rename f) := rfl
      rw [renamed, List.mapM_map]
      exact mapM_congr fun item hitem => groupItem_rename injective
        (fun call same => labelled call (same ▸ hitem)) first (first :: rest)
    have average := Aggregate.evaluate_rename injective mean (first :: rest)
    rw [List.map_cons] at items average
    simp only [List.map_cons, groupRow, items, average]

theorem groupOf_rename (binding : String) (tuples : List Tuple) (parent : Row) :
    groupOf (f binding) (tuples.map (Tuple.rename f)) parent =
      (groupOf binding tuples parent).map (Tuple.rename f) := by
  unfold groupOf
  cases parent.get? "id" with
  | none => rfl
  | some id =>
    simp only [members, List.filter_map, Function.comp_def, Tuple.row?_rename injective]

variable {query} in
theorem answer?_rename (labelled : ∀ call, .aggregate call none ∉ query.items) (store : Store) :
    answer? (query.rename f) store = answer? query store := by
  unfold answer?
  rw [recognize?_rename injective]
  obtain _ | ⟨join, mean⟩ := recognize? query
  · rfl
  · have parent : (join.rename f).parent.table = join.parent.table := rfl
    have bound : (join.rename f).parent.binding = f join.parent.binding := rfl
    simp only [Option.map_some, Prod.map_apply, parent, bound, Query.tuples?_rename injective]
    cases store.relation? join.parent.table with
    | none => rfl
    | some parents =>
      cases query.tuples? store with
      | none => rfl
      | some tuples =>
        have groups : (parents.rows.map (groupOf (f join.parent.binding)
              (tuples.map (Tuple.rename f)))).mapM (groupRow (query.rename f) (mean.rename f)) =
            (parents.rows.map (groupOf join.parent.binding tuples)).mapM (groupRow query mean) := by
          simp only [List.mapM_map, Function.comp_def, groupOf_rename injective,
            groupRow_rename injective labelled]
        simp only [Option.map_some, groups]
        rfl

end GroupAverage

end

/-! ## The built-in shapes -/

namespace Engine

/-- A shape answers a query whose bindings are renamed as it answers the query: with the same rows,
with the same fault, or not at all. -/
theorem answer_renamed {query : Query} {f : String → String}
    (labelled : ∀ call, .aggregate call none ∉ query.items)
    (apart : ∀ a ∈ query.bindings, ∀ b ∈ query.bindings, f a = f b → a = b) (store : Store) :
    ∀ shape ∈ builtInShapes, shape.answer? (query.rename f) store = shape.answer? query store := by
  obtain ⟨g, injective, same⟩ := query.exists_injective_rename apart
  rw [same]
  refine forall_builtInShapes_iff.mpr ⟨?_, ?_, ?_, ?_, ?_⟩
  · exact JoinSort.answer?_rename injective query store
  · exact Adjacency.answer?_rename injective query store
  · exact DateRange.answer?_rename injective query store
  · exact Threshold.answer?_rename injective query store
  · exact GroupAverage.answer?_rename injective labelled store

end Engine

/-- `SELECT d.name, COUNT(*) AS size, AVG(e.salary) AS mean FROM departments d
JOIN employees e ON d.id = e.department_id GROUP BY d.id, d.name` -/
def Sample.labelledByDepartment : Query :=
  { Sample.byDepartment with
    items := [.column ⟨some "d", "name"⟩ none, .aggregate ⟨.count, none, false⟩ (some "size"),
      .aggregate ⟨.avg, some ⟨some "e", "salary"⟩, false⟩ (some "mean")] }

/-- Calls departments `e` and everything else `d`. -/
def Sample.exchanged (binding : String) : String := if binding = "d" then "e" else "d"

namespace Engine

set_option maxRecDepth 4000 in
theorem answer_renamed_byDepartment :
    (∀ call, .aggregate call none ∉ Sample.labelledByDepartment.items) ∧
    (∀ a ∈ Sample.labelledByDepartment.bindings, ∀ b ∈ Sample.labelledByDepartment.bindings,
      Sample.exchanged a = Sample.exchanged b → a = b) ∧
    ∃ rows, GroupAverage.answer? Sample.labelledByDepartment Sample.store = .ok (some rows) ∧
      GroupAverage.answer? (Sample.labelledByDepartment.rename Sample.exchanged) Sample.store =
        .ok (some rows) := by
  have labelled : ∀ call, .aggregate call none ∉ Sample.labelledByDepartment.items := by
    simp [Sample.labelledByDepartment]
  have apart : ∀ a ∈ Sample.labelledByDepartment.bindings,
      ∀ b ∈ Sample.labelledByDepartment.bindings,
        Sample.exchanged a = Sample.exchanged b → a = b := by
    decide
  have builtIn : GroupAverage.shape ∈ builtInShapes := by simp [builtInShapes]
  obtain ⟨rows, answered⟩ := exists_ok_some
    (GroupAverage.answer? Sample.labelledByDepartment Sample.store) (by decide)
  have renamed := answer_renamed labelled apart Sample.store GroupAverage.shape builtIn
  exact ⟨labelled, apart, rows, answered, renamed.trans answered⟩

end Engine

end QueryShapes
