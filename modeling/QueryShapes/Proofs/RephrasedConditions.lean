import Mathlib.Data.List.Forall2
import QueryShapes.Engine.Basic
import QueryShapes.Proofs.ShapePriority

/-!
# Rephrased conditions

- `Predicate.Mirrors`: the same condition with its operands in the same order or swapped.
- `Query.Rephrases`: the same query with the conditions of its filter in another order, and with any
  conditions mirrored.
- `tuples?_eq`, `ofQuery?_rephrased`: joins, filters and key joins heed conditions only in ways that
  are the same of both.
- `answer_rephrased`: so every built-in shape answers both alike.
-/

namespace QueryShapes

/-! ## Mirrored conditions -/

theorem Comparison.flipped_flipped (op : Comparison) : op.flipped.flipped = op := by
  cases op <;> rfl

namespace Predicate

/-- `q` is `p`, or `p` with its operands swapped. -/
def Mirrors (p q : Predicate) : Prop := q = p ∨ q = p.swapped

theorem columnVsLiteral?_swapped (p : Predicate) :
    p.swapped.columnVsLiteral? = p.columnVsLiteral? := by
  obtain ⟨left, op, right⟩ := p
  cases left <;> cases right <;>
    simp [swapped, columnVsLiteral?, Comparison.flipped_flipped]

theorem columnEquality?_swapped (p : Predicate) :
    p.swapped.columnEquality? = p.columnEquality?.map Prod.swap := by
  obtain ⟨left, op, right⟩ := p
  cases op <;> cases left <;> cases right <;> rfl

namespace Mirrors

variable {p q : Predicate}

theorem columnVsLiteral?_eq (h : p.Mirrors q) : q.columnVsLiteral? = p.columnVsLiteral? := by
  obtain rfl | rfl := h
  · rfl
  · exact columnVsLiteral?_swapped p

theorem dateColumn?_eq (h : p.Mirrors q) : DateRange.dateColumn? q = DateRange.dateColumn? p := by
  rw [DateRange.dateColumn?, h.columnVsLiteral?_eq, DateRange.dateColumn?]

theorem isThreshold_eq (h : p.Mirrors q) : Threshold.isThreshold q = Threshold.isThreshold p := by
  rw [Threshold.isThreshold, h.columnVsLiteral?_eq, Threshold.isThreshold]

theorem satisfies_eq (h : p.Mirrors q) (t : Tuple) : t.satisfies q = t.satisfies p := by
  obtain rfl | rfl := h
  · rfl
  · exact t.satisfies_swapped p

theorem links_eq (h : p.Mirrors q) (field : String) :
    Adjacency.links field q = Adjacency.links field p := by
  obtain rfl | rfl := h
  · rfl
  · unfold Adjacency.links
    rw [columnEquality?_swapped]
    cases p.columnEquality? with
    | none => rfl
    | some sides =>
      obtain ⟨a, b⟩ := sides
      simp only [Option.map_some, Prod.swap_prod_mk, bne_comm (a := b.qualifier),
        Bool.and_comm (x := decide (b.name = field))]

theorem keys?_eq (h : p.Mirrors q) :
    (q.columnEquality?.bind fun sides => KeyJoin.keys? sides.1 sides.2) =
      p.columnEquality?.bind fun sides => KeyJoin.keys? sides.1 sides.2 := by
  obtain rfl | rfl := h
  · rfl
  · rw [columnEquality?_swapped]
    cases p.columnEquality? with
    | none => rfl
    | some sides => exact KeyJoin.keys?_comm sides.1 sides.2

end Mirrors

end Predicate

/-- What is the same of each two related items is the same of the lists. -/
theorem map_eq_of_forall₂ {α β : Type} {related : α → α → Prop} {f : α → β}
    (same : ∀ a b, related a b → f b = f a) {as bs : List α} (h : List.Forall₂ related as bs) :
    bs.map f = as.map f := by
  rw [eq_comm, ← List.forall₂_eq_eq_eq, List.forall₂_map_left_iff, List.forall₂_map_right_iff]
  exact h.imp fun a b hab => (same a b hab).symm

theorem Tuple.satisfiesAll_mirrored {ps qs : List Predicate}
    (h : List.Forall₂ Predicate.Mirrors ps qs) : satisfiesAll qs = satisfiesAll ps := by
  funext t
  have same := map_eq_of_forall₂ (fun _ _ mirrors => mirrors.satisfies_eq t) h
  have whole (cs : List Predicate) : satisfiesAll cs t = (cs.map t.satisfies).all id := by
    simp [satisfiesAll]
  rw [whole, whole, same]

/-! ## Rephrased queries -/

/-- `t` is `s` up to mirrored join conditions. -/
structure Source.Mirrors (s t : Source) : Prop where
  table : t.table = s.table
  label : t.label = s.label
  kind : t.kind = s.kind
  conditions : List.Forall₂ Predicate.Mirrors s.conditions t.conditions

theorem Source.Mirrors.binding {s t : Source} (h : s.Mirrors t) : t.binding = s.binding := by
  rw [Source.binding, Source.binding, h.label, h.table]

/-- `other` is `query` with the conditions of its filter permuted and any conditions mirrored. -/
structure Query.Rephrases (query other : Query) : Prop where
  filter : ∃ permuted, permuted.Perm query.filter ∧
    List.Forall₂ Predicate.Mirrors permuted other.filter
  sources : List.Forall₂ Source.Mirrors query.sources other.sources
  rest : other = { query with filter := other.filter, sources := other.sources }

namespace Query.Rephrases

variable {query other : Query} (h : query.Rephrases other)
include h

theorem items : other.items = query.items := by
  rw [h.rest]

theorem groupBy : other.groupBy = query.groupBy := by
  rw [h.rest]

theorem orderBy : other.orderBy = query.orderBy := by
  rw [h.rest]

theorem cut_eq {α : Type} (results : List α) : other.cut results = query.cut results := by
  rw [h.rest]
  rfl

theorem isPlain_eq : other.isPlain = query.isPlain := by
  rw [isPlain, isPlain, hasAggregates, hasAggregates, h.items, h.groupBy]

theorem aggregates_eq : other.aggregates = query.aggregates := by
  rw [aggregates, aggregates, h.items]

theorem projectKeyed_eq (key : Tuple → Row → Value) :
    other.projectKeyed key = query.projectKeyed key := by
  funext tuples
  rw [projectKeyed, projectKeyed, h.items]

/-! ### Sources and tuples -/

theorem tables : other.sources.map Source.table = query.sources.map Source.table :=
  map_eq_of_forall₂ (fun _ _ mirrors => mirrors.table) h.sources

theorem isSelfJoin_eq : other.isSelfJoin = query.isSelfJoin := by
  rw [isSelfJoin_eq_tables, isSelfJoin_eq_tables, h.tables]

theorem sourceOf? (column : Column) :
    Option.Rel Source.Mirrors (query.sourceOf? column) (other.sourceOf? column) := by
  have sources := h.sources
  unfold Query.sourceOf?
  generalize query.sources = ss, other.sources = ts at sources ⊢
  cases column.qualifier with
  | none =>
    cases sources with
    | nil => exact .none
    | cons first _ => exact .some first
  | some qualifier =>
    dsimp only
    induction sources with
    | nil => exact .none
    | @cons s t _ _ first _ ih =>
      by_cases here : s.binding = qualifier
      · rw [List.find?_cons_of_pos (by simpa using here),
          List.find?_cons_of_pos (by simpa [first.binding] using here)]
        exact .some first
      · rw [List.find?_cons_of_neg (by simpa using here),
          List.find?_cons_of_neg (by simpa [first.binding] using here)]
        exact ih

theorem satisfiesAll_filter : Tuple.satisfiesAll other.filter = Tuple.satisfiesAll query.filter := by
  obtain ⟨permuted, perm, mirrored⟩ := h.filter
  rw [Tuple.satisfiesAll_mirrored mirrored]
  funext t
  exact perm.all_eq

omit h in
theorem joinSource?_mirrored (store : Store) {s t : Source} (mirrors : s.Mirrors t)
    (tuples : List Tuple) : joinSource? store tuples t = joinSource? store tuples s := by
  have conditions := Tuple.satisfiesAll_mirrored mirrors.conditions
  simp only [joinSource?, join, mirrors.kind, mirrors.table, mirrors.binding, conditions]

omit h in
theorem foldlM_joinSource?_mirrored (store : Store) {ss ts : List Source}
    (mirrors : List.Forall₂ Source.Mirrors ss ts) (tuples : List Tuple) :
    ts.foldlM (joinSource? store) tuples = ss.foldlM (joinSource? store) tuples := by
  induction mirrors generalizing tuples with
  | nil => rfl
  | cons first _ ih =>
    rw [List.foldlM_cons, List.foldlM_cons, joinSource?_mirrored store first]
    congr 1
    funext joined
    exact ih joined

/-- Both queries have the same joined tuples. -/
theorem tuples?_eq (store : Store) : other.tuples? store = query.tuples? store := by
  have sources := h.sources
  unfold tuples?
  rw [h.satisfiesAll_filter]
  generalize query.sources = ss, other.sources = ts at sources ⊢
  cases sources with
  | nil => rfl
  | cons first rest =>
    simp only [first.table, first.binding, foldlM_joinSource?_mirrored store rest]

/-! ### Conditions -/

/-- The conditions of the filter and of the joins are the same, up to order and mirroring. -/
theorem predicates : ∃ permuted, permuted.Perm query.predicates ∧
    List.Forall₂ Predicate.Mirrors permuted other.predicates := by
  obtain ⟨permuted, perm, mirrored⟩ := h.filter
  have joined : List.Forall₂ Predicate.Mirrors (query.sources.flatMap (·.conditions))
      (other.sources.flatMap (·.conditions)) :=
    List.rel_flatMap h.sources fun _ _ mirrors => mirrors.conditions
  exact ⟨_, perm.append_right _, List.rel_append mirrored joined⟩

theorem any_predicates {test : Predicate → Bool}
    (same : ∀ p q : Predicate, p.Mirrors q → test q = test p) :
    other.predicates.any test = query.predicates.any test := by
  obtain ⟨permuted, perm, mirrored⟩ := h.predicates
  have tests := map_eq_of_forall₂ same mirrored
  calc other.predicates.any test
      = (other.predicates.map test).any id := by rw [List.any_map]; rfl
    _ = (permuted.map test).any id := by rw [tests]
    _ = permuted.any test := by rw [List.any_map]; rfl
    _ = query.predicates.any test := perm.any_eq

/-- Either both filters are one condition, or neither is. -/
theorem lone_filter :
    (∃ p q : Predicate, p.Mirrors q ∧ query.filter = [p] ∧ other.filter = [q]) ∨
      query.filter.length ≠ 1 ∧ other.filter.length ≠ 1 := by
  obtain ⟨permuted, perm, mirrored⟩ := h.filter
  have lengths : other.filter.length = query.filter.length :=
    mirrored.length_eq.symm.trans perm.length_eq
  by_cases lone : query.filter.length = 1
  · obtain ⟨p, filter⟩ := List.length_eq_one_iff.mp lone
    rw [filter] at perm
    obtain rfl := perm.eq_singleton
    obtain ⟨q, rest, mirrors, nothing, filter'⟩ := List.forall₂_cons_left_iff.mp mirrored
    obtain rfl := List.forall₂_nil_left_iff.mp nothing
    exact .inl ⟨p, q, mirrors, filter, filter'⟩
  · exact .inr ⟨lone, lengths ▸ lone⟩

end Query.Rephrases

/-! ## Key joins -/

namespace KeyJoin

/-- The key joins are of the same sources, up to mirrored conditions. -/
structure Mirrors (join join' : KeyJoin) : Prop where
  parent : join.parent.Mirrors join'.parent
  child : join.child.Mirrors join'.child
  childField : join'.childField = join.childField

theorem innerCondition?_mirrored {s t : Source} (h : s.Mirrors t) :
    Option.Rel Predicate.Mirrors (innerCondition? s) (innerCondition? t) := by
  have conditions := h.conditions
  unfold innerCondition?
  rw [h.kind]
  cases s.kind with
  | inner =>
    generalize s.conditions = ps, t.conditions = qs at conditions ⊢
    obtain _ | ⟨mirrors, _ | _⟩ := conditions
    · exact .none
    · exact .some mirrors
    · exact .none
  | base | cross | left => exact .none

theorem condition?_mirrored {ss ts : List Source} (h : List.Forall₂ Source.Mirrors ss ts) :
    Option.Rel Predicate.Mirrors (condition? ss) (condition? ts) := by
  obtain _ | ⟨_, _ | ⟨joined, _ | _⟩⟩ := h
  · exact .none
  · exact .none
  · exact innerCondition?_mirrored joined
  · exact .none

variable {query other : Query} (h : query.Rephrases other)
include h

theorem keyColumns?_eq : keyColumns? other = keyColumns? query := by
  have condition := condition?_mirrored h.sources
  unfold keyColumns?
  generalize condition? query.sources = p, condition? other.sources = q at condition ⊢
  cases condition with
  | none => rfl
  | some mirrors => exact mirrors.keys?_eq

theorem onKeys?_rephrased (parentKey childKey : Column) :
    Option.Rel Mirrors (onKeys? query parentKey childKey) (onKeys? other parentKey childKey) := by
  have parent := h.sourceOf? parentKey
  have child := h.sourceOf? childKey
  unfold onKeys?
  generalize query.sourceOf? parentKey = s, other.sourceOf? parentKey = s' at parent ⊢
  generalize query.sourceOf? childKey = t, other.sourceOf? childKey = t' at child ⊢
  cases parent with
  | none => exact .none
  | some parent =>
    cases child with
    | none => exact .none
    | some child =>
      simp only [Option.bind_eq_bind, Option.bind_some, parent.binding, child.binding, parent.table,
        child.table]
      split
      · exact .none
      · exact .some ⟨parent, child, rfl⟩

theorem ofQuery?_rephrased : Option.Rel Mirrors (ofQuery? query) (ofQuery? other) := by
  rw [ofQuery?_eq, ofQuery?_eq, keyColumns?_eq h]
  cases keyColumns? query with
  | none => exact .none
  | some keys => exact onKeys?_rephrased h keys.1 keys.2

end KeyJoin

/-! ## One shape after another -/

section
variable {query other : Query} (h : query.Rephrases other)
include h

theorem JoinSort.recognize?_rephrased : recognize? other = recognize? query := by
  have join : (KeyJoin.ofQuery? other).isSome = (KeyJoin.ofQuery? query).isSome := by
    have related := KeyJoin.ofQuery?_rephrased h
    generalize KeyJoin.ofQuery? query = found, KeyJoin.ofQuery? other = found' at related ⊢
    cases related <;> rfl
  unfold recognize?
  rw [h.isPlain_eq, h.orderBy, join]

theorem JoinSort.answer?_rephrased (store : Store) : answer? other store = answer? query store := by
  unfold answer?
  rw [recognize?_rephrased h, h.tuples?_eq]
  simp only [h.projectKeyed_eq, h.cut_eq]

theorem Adjacency.recognize?_rephrased : recognize? other = recognize? query := by
  have linked (field : String) := h.any_predicates fun _ _ mirrors => mirrors.links_eq field
  simp only [recognize?_eq_names, h.tables, h.items, h.isSelfJoin_eq, h.isPlain_eq, linked]

theorem Adjacency.answer?_rephrased (store : Store) : answer? other store = answer? query store := by
  unfold answer?
  rw [recognize?_rephrased h]
  simp only [h.cut_eq]

theorem DateRange.recognize?_rephrased : recognize? other = recognize? query := by
  obtain ⟨p, q, mirrors, filter, filter'⟩ | ⟨several, several'⟩ := h.lone_filter
  · have sources := h.sources
    unfold recognize?
    simp only [filter, filter', h.isPlain_eq, h.orderBy]
    generalize query.sources = ss, other.sources = ts at sources ⊢
    obtain _ | ⟨_, _ | _⟩ := sources
    · rfl
    · simp only [mirrors.dateColumn?_eq]
    · rfl
  · rw [recognize?_eq_none several, recognize?_eq_none several']

theorem DateRange.answer?_rephrased (store : Store) : answer? other store = answer? query store := by
  unfold answer?
  rw [recognize?_rephrased h, h.tuples?_eq]
  simp only [h.projectKeyed_eq, h.cut_eq]

theorem Threshold.recognizes_rephrased : recognizes other = recognizes query := by
  obtain ⟨p, q, mirrors, filter, filter'⟩ | ⟨several, several'⟩ := h.lone_filter
  · have sources := h.sources
    unfold recognizes
    simp only [filter, filter', h.isPlain_eq, h.orderBy]
    generalize query.sources = ss, other.sources = ts at sources ⊢
    obtain _ | ⟨_, _ | _⟩ := sources
    · rfl
    · simp only [mirrors.isThreshold_eq]
    · rfl
  · rw [recognizes_eq_false several, recognizes_eq_false several']

theorem Threshold.answer?_rephrased (store : Store) : answer? other store = answer? query store := by
  unfold answer?
  rw [recognizes_rephrased h, h.tuples?_eq, h.items]
  simp only [h.cut_eq]

theorem GroupAverage.groupsByParent_rephrased {join join' : KeyJoin} (mirrors : join.Mirrors join') :
    groupsByParent other join' = groupsByParent query join := by
  funext column
  have source := h.sourceOf? column
  unfold groupsByParent
  generalize query.sourceOf? column = s, other.sourceOf? column = t at source ⊢
  cases source with
  | none => rfl
  | some source =>
    simp only [source.binding, mirrors.parent.binding, mirrors.child.binding, mirrors.childField]

theorem GroupAverage.recognize?_rephrased :
    Option.Rel (fun found found' => found.1.Mirrors found'.1 ∧ found'.2 = found.2)
      (recognize? query) (recognize? other) := by
  have join := KeyJoin.ofQuery?_rephrased h
  unfold recognize?
  rw [h.groupBy, h.aggregates_eq, h.items]
  split
  · exact .none
  · generalize KeyJoin.ofQuery? query = found, KeyJoin.ofQuery? other = found' at join ⊢
    cases join with
    | none => exact .none
    | some mirrors =>
      cases query.aggregates.find? (·.function = .avg) with
      | none => exact .none
      | some mean =>
        simp only [Option.bind_eq_bind, Option.bind_some, groupsByParent_rephrased h mirrors]
        split
        · exact .some ⟨mirrors, rfl⟩
        · exact .none

theorem GroupAverage.groupRow_rephrased (mean : Aggregate) :
    groupRow other mean = groupRow query mean := by
  funext group
  cases group with
  | nil => rfl
  | cons first rest => simp only [groupRow, h.items]

theorem GroupAverage.answer?_rephrased (store : Store) :
    answer? other store = answer? query store := by
  have recognized := recognize?_rephrased h
  unfold answer?
  generalize recognize? query = found, recognize? other = found' at recognized ⊢
  cases recognized with
  | none => rfl
  | @some found found' same =>
    obtain ⟨join, mean⟩ := found
    obtain ⟨join', mean'⟩ := found'
    obtain ⟨(mirrors : join.Mirrors join'), rfl⟩ := same
    simp only [mirrors.parent.table, mirrors.parent.binding, h.tuples?_eq, groupRow_rephrased h,
      h.cut_eq]

end

/-! ## The built-in shapes -/

namespace Engine

/-- A shape answers a query whose conditions are rephrased as it answers the query: with the same rows,
with the same fault, or not at all. -/
theorem answer_rephrased {query other : Query} (h : query.Rephrases other) (store : Store) :
    ∀ shape ∈ builtInShapes, shape.answer? other store = shape.answer? query store := by
  refine forall_builtInShapes_iff.mpr ⟨?_, ?_, ?_, ?_, ?_⟩
  · exact JoinSort.answer?_rephrased h store
  · exact Adjacency.answer?_rephrased h store
  · exact DateRange.answer?_rephrased h store
  · exact Threshold.answer?_rephrased h store
  · exact GroupAverage.answer?_rephrased h store

end Engine

/-- `SELECT e.name, d.name AS department FROM employees e JOIN departments d
ON e.department_id = d.id WHERE d.id > 1 AND e.salary > 55000 ORDER BY e.salary DESC` -/
def Sample.betterEarners : Query :=
  { Sample.earners with
    filter := [⟨.column ⟨some "d", "id"⟩, .gt, .literal (.integer 1)⟩,
      ⟨.column ⟨some "e", "salary"⟩, .gt, .literal (.integer 55000)⟩] }

/-- The same with `ON d.id = e.department_id WHERE 55000 < e.salary AND d.id > 1`. -/
def Sample.betterEarnersRephrased : Query :=
  { Sample.earners with
    sources := [⟨"employees", some "e", .base, []⟩, ⟨"departments", some "d", .inner,
      [⟨.column ⟨some "d", "id"⟩, .eq, .column ⟨some "e", "department_id"⟩⟩]⟩]
    filter := [⟨.literal (.integer 55000), .lt, .column ⟨some "e", "salary"⟩⟩,
      ⟨.column ⟨some "d", "id"⟩, .gt, .literal (.integer 1)⟩] }

theorem Sample.betterEarners_rephrases :
    Sample.betterEarners.Rephrases Sample.betterEarnersRephrased where
  filter := ⟨_, .swap _ _ [], .cons (.inr rfl) (.cons (.inl rfl) .nil)⟩
  sources := .cons ⟨rfl, rfl, rfl, .nil⟩ (.cons ⟨rfl, rfl, rfl, .cons (.inr rfl) .nil⟩ .nil)
  rest := rfl

namespace Engine

set_option maxRecDepth 4000 in
theorem answer_rephrased_betterEarners :
    Sample.betterEarners.Rephrases Sample.betterEarnersRephrased ∧
      ∃ rows, JoinSort.answer? Sample.betterEarners Sample.store = .ok (some rows) ∧
        JoinSort.answer? Sample.betterEarnersRephrased Sample.store = .ok (some rows) := by
  have rephrases := Sample.betterEarners_rephrases
  have builtIn : JoinSort.shape ∈ builtInShapes := by simp [builtInShapes]
  obtain ⟨rows, answered⟩ := exists_ok_some (JoinSort.answer? Sample.betterEarners Sample.store)
    (by decide)
  have rephrased := answer_rephrased rephrases Sample.store JoinSort.shape builtIn
  exact ⟨rephrases, rows, answered, rephrased.trans answered⟩

end Engine

end QueryShapes
