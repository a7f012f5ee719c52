import QueryShapes.Proofs.AcceptedStore
import QueryShapes.Proofs.KeyJoin
import QueryShapes.Proofs.Resolution
import QueryShapes.Proofs.Sorting
import QueryShapes.Shape.GroupAverage

/-!
# Groups by parent

- `Evaluates`: what the shape works on when it answers.
- `answer_grouped`: the answer is one row for each parent whose group is not empty, sorted stably by
  descending averages.
- `parent_of_mem`: in an accepted store every joined tuple holds a stored parent row, whose id is
  loosely equal to itself.
-/

namespace QueryShapes

namespace GroupAverage

/-- The key join, the first average, the parent relation and the joined tuples of a query. -/
structure Evaluates (query : Query) (store : Store) (join : KeyJoin) (mean : Aggregate)
    (parents : Relation) (tuples : List Tuple) : Prop where
  recognized : recognize? query = some (join, mean)
  parents : store.relation? join.parent.table = some parents
  tuples : query.tuples? store = some tuples

/-- A parent row with the average of its group and the output row of its group. -/
structure Grouped where
  parent : Row
  average : Value
  row : Row

variable {query : Query} {store : Store} {join : KeyJoin} {mean : Aggregate} {parents : Relation}
  {tuples : List Tuple}

theorem recognize?_eq_some (h : recognize? query = some (join, mean)) :
    KeyJoin.ofQuery? query = some join ∧ query.aggregates.find? (·.function = .avg) = some mean ∧
      (∀ column ∈ query.groupBy, groupsByParent query join column) ∧
      ∀ item ∈ query.items, item.isWildcard = false := by
  unfold recognize? at h
  split at h
  · cases h
  · simp only [Option.bind_eq_bind, Option.bind_eq_some_iff] at h
    obtain ⟨join', hjoin, mean', hmean, h⟩ := h
    split at h
    · rename_i conditions
      obtain ⟨rfl, rfl⟩ := Prod.mk.inj (Option.some_inj.mp h)
      obtain ⟨_, groups, wildcards⟩ := conditions
      exact ⟨hjoin, hmean, List.all_eq_true.mp groups, by simpa using wildcards⟩
    · cases h

/-! ## The answer by groups -/

theorem groupRow_eq_none {group : List Tuple} (h : groupRow query mean group = .ok none) :
    group = [] := by
  cases group with
  | nil => rfl
  | cons first rest =>
    obtain ⟨_, _, h⟩ := bind_eq_ok_iff.mp h
    obtain ⟨_, _, h⟩ := bind_eq_ok_iff.mp h
    cases h

theorem groupRow_eq_some {group : List Tuple} {average : Value} {row : Row}
    (h : groupRow query mean group = .ok (some (average, row))) :
    mean.evaluate group = .ok average ∧ ∃ first rest fields, group = first :: rest ∧
      query.items.mapM (groupItem first group) = .ok fields ∧ row = .ofList fields.flatten := by
  cases group with
  | nil => cases h
  | cons first rest =>
    obtain ⟨fields, hfields, h⟩ := bind_eq_ok_iff.mp h
    obtain ⟨key, hkey, h⟩ := bind_eq_ok_iff.mp h
    obtain ⟨rfl, rfl⟩ := Prod.mk.inj (Option.some_inj.mp (Except.ok.inj h))
    exact ⟨hkey, first, rest, fields, rfl, hfields, rfl⟩

/-- Groups that succeed give the grouped rows of the parents whose group is not empty. -/
theorem exists_grouped {groupOf : Row → List Tuple} {rows : List Row}
    {keyed : List (Option (Value × Row))}
    (h : (rows.map groupOf).mapM (groupRow query mean) = .ok keyed) :
    ∃ grouped : List Grouped,
      grouped.map Grouped.parent = rows.filter (fun parent => !(groupOf parent).isEmpty) ∧
      (∀ g ∈ grouped, groupRow query mean (groupOf g.parent) = .ok (some (g.average, g.row))) ∧
      keyed.filterMap id = grouped.map fun g => (g.average, g.row) := by
  induction rows generalizing keyed with
  | nil =>
    obtain rfl := Except.ok.inj h
    exact ⟨[], rfl, by simp, rfl⟩
  | cons parent rows ih =>
    rw [List.map_cons, List.mapM_cons] at h
    obtain ⟨result, hresult, h⟩ := bind_eq_ok_iff.mp h
    obtain ⟨results, hresults, h⟩ := bind_eq_ok_iff.mp h
    obtain rfl := Except.ok.inj h
    obtain ⟨grouped, parents, evaluated, kept⟩ := ih hresults
    match result with
    | none =>
      have empty := groupRow_eq_none hresult
      refine ⟨grouped, by simp [parents, empty], evaluated, ?_⟩
      rw [List.filterMap_cons_none rfl, kept]
    | some (average, row) =>
      obtain ⟨_, first, rest, _, nonempty, _, _⟩ := groupRow_eq_some hresult
      refine ⟨⟨parent, average, row⟩ :: grouped, by simp [parents, nonempty], ?_, ?_⟩
      · intro g hg
        obtain rfl | hg := List.mem_cons.mp hg
        · exact hresult
        · exact evaluated g hg
      · rw [List.filterMap_cons_some (f := id) rfl, kept, List.map_cons]

/-- The answer, group by group. -/
theorem answer_grouped {rows : List Row} (h : answer? query store = .ok (some rows)) :
    ∃ join mean parents tuples, Evaluates query store join mean parents tuples ∧
      ∃ grouped ordered : List Grouped,
        grouped.map Grouped.parent =
          parents.rows.filter (fun parent => !(groupOf join.parent.binding tuples parent).isEmpty) ∧
        (∀ g ∈ grouped, groupRow query mean (groupOf join.parent.binding tuples g.parent) =
          .ok (some (g.average, g.row))) ∧
        Descends Grouped.average ordered grouped ∧
        rows = query.cut (ordered.map Grouped.row) := by
  unfold answer? at h
  split at h
  · cases h
  · rename_i join mean recognized
    split at h
    · rename_i parents tuples hparents htuples
      obtain ⟨keyed, hkeyed, h⟩ := bind_eq_ok_iff.mp h
      obtain rfl := Option.some_inj.mp (Except.ok.inj h)
      obtain ⟨grouped, nonempty, evaluated, kept⟩ := exists_grouped hkeyed
      obtain ⟨ordered, descends, sorted⟩ :=
        sortDescending_descends Grouped.average grouped Grouped.row
      exact ⟨join, mean, parents, tuples, ⟨recognized, hparents, htuples⟩, grouped, ordered,
        nonempty, evaluated, descends, by rw [kept, sorted]⟩
    · cases h

/-! ## Parents of joined tuples -/

theorem Evaluates.reads (e : Evaluates query store join mean parents tuples) :
    ∃ first joined parentKey childKey,
      KeyJoin.Reads query join first joined parentKey childKey :=
  KeyJoin.ofQuery?_reads (recognize?_eq_some e.recognized).1

theorem Evaluates.selected (e : Evaluates query store join mean parents tuples) :
    query.selected? store = some tuples := by
  obtain ⟨_, _, _, _, reads⟩ := e.reads
  rw [← reads.tuples?_eq]
  exact e.tuples

/-- The keys of a joined tuple are loosely equal. -/
theorem keys_of_mem (e : Evaluates query store join mean parents tuples)
    {first joined : Source} {parentKey childKey : Column}
    (reads : KeyJoin.Reads query join first joined parentKey childKey) {t : Tuple} (ht : t ∈ tuples) :
    ∃ x y, t.resolve? parentKey = some x ∧ t.resolve? childKey = some y ∧ x.looselyEquals y := by
  obtain ⟨all, _, members⟩ := Query.mem_product_of_mem_tuples e.selected
  obtain ⟨p, conditions, equates⟩ := reads.condition
  have conjunct : p ∈ query.conjuncts := by simp [Query.conjuncts, reads.sources, conditions]
  have holds : t.satisfies p := (members t ht).2 p conjunct
  obtain rfl | rfl := equates
  · exact Tuple.satisfies_eq_iff.mp holds
  · obtain ⟨y, x, hy, hx, equal⟩ := Tuple.satisfies_eq_iff.mp holds
    exact ⟨x, y, hx, hy, Value.looselyEquals_symm equal⟩

section
variable {relations : List Relation} (accepted : Store.ofRelations relations = .ok store)
include accepted

/-- In an accepted store the parent's key is the id of the parent row. -/
theorem resolve?_parentKey (e : Evaluates query store join mean parents tuples)
    {first joined : Source} {parentKey childKey : Column}
    (reads : KeyJoin.Reads query join first joined parentKey childKey) {t : Tuple} (ht : t ∈ tuples) :
    ∃ parent ∈ parents.rows, t.row? join.parent.binding = some parent ∧
      t.resolve? parentKey = parent.get? "id" := by
  obtain ⟨all, product, members⟩ := Query.mem_product_of_mem_tuples e.selected
  have held : Query.Held store join.parent parentKey := by
    refine .inr fun relation found row hrow => ?_
    obtain ⟨id, hid⟩ := (Store.uniform_of_accepted accepted found).get?_id hrow
    simp [reads.parentName, hid]
  obtain ⟨relation, parent, found, hparent, bound, resolved⟩ :=
    Query.resolve?_of_mem_product product (members t ht).1 reads.parent held
  obtain rfl : parents = relation := Option.some_inj.mp (e.parents.symm.trans found)
  exact ⟨parent, hparent, bound, by rw [resolved, reads.parentName]⟩

theorem parent_of_mem (e : Evaluates query store join mean parents tuples) {t : Tuple}
    (ht : t ∈ tuples) :
    ∃ parent ∈ parents.rows, t.row? join.parent.binding = some parent ∧
      ∃ id, parent.get? "id" = some id ∧ id.looselyEquals id := by
  obtain ⟨_, _, _, _, reads⟩ := e.reads
  obtain ⟨parent, hparent, bound, resolved⟩ := resolve?_parentKey accepted e reads ht
  obtain ⟨x, y, hx, _, equal⟩ := keys_of_mem e reads ht
  exact ⟨parent, hparent, bound, x, resolved ▸ hx,
    Value.looselyEquals_trans equal (Value.looselyEquals_symm equal)⟩

theorem stored_of_row (e : Evaluates query store join mean parents tuples) {t : Tuple}
    (ht : t ∈ tuples) {parent : Row} (bound : t.row? join.parent.binding = some parent) :
    parent ∈ parents.rows ∧ ∃ id, parent.get? "id" = some id ∧ id.looselyEquals id := by
  obtain ⟨own, stored, bound', reflexive⟩ := parent_of_mem accepted e ht
  obtain rfl : own = parent := Option.some_inj.mp (bound'.symm.trans bound)
  exact ⟨stored, reflexive⟩

end

/-! ## Groups as filters -/

/-- The tuple holds a parent row whose id is loosely equal to that of `parent`. -/
def sharesId (binding : String) (parent : Row) (tuple : Tuple) : Bool :=
  bothEqual ((tuple.row? binding).bind (·.get? "id")) (parent.get? "id")

theorem sharesId_iff {binding : String} {parent : Row} {t : Tuple} :
    sharesId binding parent t = true ↔ ∃ row own id, t.row? binding = some row ∧
      row.get? "id" = some own ∧ parent.get? "id" = some id ∧ own.looselyEquals id = true := by
  rw [sharesId, bothEqual_iff]
  cases t.row? binding <;> simp

theorem groupOf_eq_filter (binding : String) (tuples : List Tuple) (parent : Row) :
    groupOf binding tuples parent = tuples.filter (sharesId binding parent) := by
  unfold groupOf
  cases hid : parent.get? "id" with
  | none =>
    refine (List.filter_eq_nil_iff.mpr fun t _ => ?_).symm
    simp [sharesId, bothEqual, hid]
  | some id =>
    apply List.filter_congr
    intro t _
    cases own : (t.row? binding).bind (·.get? "id") <;> simp [sharesId, bothEqual, hid, own]

end GroupAverage

/-- `SELECT d.name, COUNT(*) AS size, AVG(e.salary) FROM departments d
JOIN employees e ON d.id = e.department_id GROUP BY d.id, d.name` -/
def Sample.byDepartment : Query where
  distinct := false
  items := [.column ⟨some "d", "name"⟩ none, .aggregate ⟨.count, none, false⟩ (some "size"),
    .aggregate ⟨.avg, some ⟨some "e", "salary"⟩, false⟩ none]
  sources := [⟨"departments", some "d", .base, []⟩, ⟨"employees", some "e", .inner,
    [⟨.column ⟨some "d", "id"⟩, .eq, .column ⟨some "e", "department_id"⟩⟩]⟩]
  filter := []
  groupBy := [⟨some "d", "id"⟩, ⟨some "d", "name"⟩]
  orderBy := []
  limit := none

end QueryShapes
