import QueryShapes.Proofs.GroupPartition
import QueryShapes.Store.Sample

/-!
# What the tuples of one group share

Groups are keyed by the parent's id, not by the columns that are grouped by.

- `mem_groupOf_iff`: the groups are the classes of the joined tuples by loosely equal parent ids.
- `groups_are_classes`: where the parents' ids are apart, the tuples of a group agree on the columns
  that are grouped by, and those of two groups differ in the parent's id and the reference to it.
- `groups_ignore_columns`: without such a column two groups may agree on all columns that are grouped
  by, and parents of equal ids share their tuples.
-/

namespace QueryShapes

/-- Both tuples have a value for the column, one loosely equal to the other. -/
def Agree (column : Column) (t u : Tuple) : Prop :=
  ∃ x y, t.resolve? column = some x ∧ u.resolve? column = some y ∧ x.looselyEquals y = true

/-- Both tuples have a value for the column, one not loosely equal to the other. -/
def Differ (column : Column) (t u : Tuple) : Prop :=
  ∃ x y, t.resolve? column = some x ∧ u.resolve? column = some y ∧ x.looselyEquals y = false

namespace GroupAverage

section
variable {binding : String} {tuples : List Tuple} {parent : Row} {t u : Tuple}

theorem mem_groupOf :
    t ∈ groupOf binding tuples parent ↔ t ∈ tuples ∧ sharesId binding parent t = true := by
  rw [groupOf_eq_filter, List.mem_filter]

theorem agree_id_iff : Agree ⟨some binding, "id"⟩ t u ↔
    ∃ x y, (t.row? binding).bind (·.get? "id") = some x ∧
      (u.row? binding).bind (·.get? "id") = some y ∧ x.looselyEquals y = true :=
  Iff.rfl

/-- A tuple's group holds the joined tuples whose parent ids are loosely equal to its own. -/
theorem mem_groupOf_iff (ht : t ∈ groupOf binding tuples parent) (hu : u ∈ tuples) :
    u ∈ groupOf binding tuples parent ↔ Agree ⟨some binding, "id"⟩ t u := by
  obtain ⟨_, shared⟩ := mem_groupOf.mp ht
  obtain ⟨row, own, id, bound, hown, hid, equal⟩ := sharesId_iff.mp shared
  rw [mem_groupOf, agree_id_iff]
  constructor
  · rintro ⟨_, shared'⟩
    obtain ⟨row', own', id', bound', hown', hid', equal'⟩ := sharesId_iff.mp shared'
    obtain rfl : id = id' := Option.some_inj.mp (hid.symm.trans hid')
    refine ⟨own, own', by simp [bound, hown], by simp [bound', hown'], ?_⟩
    exact Value.looselyEquals_trans equal (Value.looselyEquals_symm equal')
  · rintro ⟨x, y, hx, hy, agree⟩
    obtain rfl : own = x := by simpa [bound, hown] using hx
    obtain ⟨row', bound', hown'⟩ := Option.bind_eq_some_iff.mp hy
    refine ⟨hu, sharesId_iff.mpr ⟨row', y, id, bound', hown', hid, ?_⟩⟩
    exact Value.looselyEquals_trans (Value.looselyEquals_symm agree) equal

end

/-! ## Columns that are grouped by -/

/-- Every row of the source that the column belongs to has the field. -/
def IsField (query : Query) (store : Store) (column : Column) : Prop :=
  ∃ source, query.sourceOf? column = some source ∧ source.HasField store column.name

/-- The column belongs to a source of that binding. -/
def BelongsTo (query : Query) (column : Column) (binding : String) : Prop :=
  ∃ source, query.sourceOf? column = some source ∧ source.binding = binding

section
variable {query : Query} {store : Store} {join : KeyJoin} {mean : Aggregate} {parents : Relation}
  {tuples : List Tuple} {column : Column}

/-- A field is read from the row of the source that it belongs to. -/
theorem Evaluates.resolve? (e : Evaluates query store join mean parents tuples) {t : Tuple}
    (ht : t ∈ tuples) {binding : String} (belongs : BelongsTo query column binding)
    (field : IsField query store column) :
    ∃ row value, t.row? binding = some row ∧ row.get? column.name = some value ∧
      t.resolve? column = some value := by
  obtain ⟨source, owner, rfl⟩ := belongs
  obtain ⟨source', owner', has⟩ := field
  obtain rfl : source = source' := Option.some_inj.mp (owner.symm.trans owner')
  obtain ⟨all, product, members⟩ := Query.mem_product_of_mem_tuples e.selected
  obtain ⟨relation, row, found, hrow, bound, resolved⟩ :=
    Query.resolve?_of_mem_product product (members t ht).1 owner (.inr has)
  obtain ⟨value, hvalue⟩ := Option.isSome_iff_exists.mp (has relation found row hrow)
  exact ⟨row, value, bound, hvalue, resolved.trans hvalue⟩

/-- The child's reference is read as the child key of the join is. -/
theorem Evaluates.resolve?_reference (e : Evaluates query store join mean parents tuples)
    {first joined : Source} {parentKey childKey : Column}
    (reads : KeyJoin.Reads query join first joined parentKey childKey) {t : Tuple} (ht : t ∈ tuples)
    (belongs : BelongsTo query column join.child.binding) (reference : column.name = join.childField)
    (field : IsField query store column) : t.resolve? column = t.resolve? childKey := by
  have keyBelongs : BelongsTo query childKey join.child.binding := ⟨_, reads.child, rfl⟩
  have keyField : IsField query store childKey := by
    obtain ⟨source, owner, has⟩ := field
    obtain ⟨source', owner', named⟩ := belongs
    obtain rfl : source = source' := Option.some_inj.mp (owner.symm.trans owner')
    obtain rfl : source = join.child :=
      reads.eq_child (Query.mem_sources_of_sourceOf owner) named
    exact ⟨_, reads.child, by rw [reads.childName, ← reference]; exact has⟩
  obtain ⟨row, x, bound, hx, resolved⟩ := e.resolve? ht belongs field
  obtain ⟨row', y, bound', hy, resolved'⟩ := e.resolve? ht keyBelongs keyField
  obtain rfl : row = row' := Option.some_inj.mp (bound.symm.trans bound')
  rw [resolved, resolved', ← hx, ← hy, reference, reads.childName]

/-- The columns that are grouped by belong to the parent, or are the child's reference to it. -/
theorem belongsTo_of_groupBy (recognized : recognize? query = some (join, mean))
    (grouped : column ∈ query.groupBy) :
    BelongsTo query column join.parent.binding ∨
      BelongsTo query column join.child.binding ∧ column.name = join.childField := by
  have accepts := (recognize?_eq_some recognized).2.2.1 column grouped
  unfold groupsByParent at accepts
  split at accepts
  · rename_i source owner
    simp only [Bool.or_eq_true, Bool.and_eq_true, decide_eq_true_eq] at accepts
    obtain parent | ⟨child, reference⟩ := accepts
    · exact .inl ⟨source, owner, parent⟩
    · exact .inr ⟨⟨source, owner, child⟩, reference⟩
  · cases accepts

/-- The column is the parent's id or the child's reference to it. -/
def IsKey (query : Query) (join : KeyJoin) (column : Column) : Prop :=
  BelongsTo query column join.parent.binding ∧ column.name = "id" ∨
    BelongsTo query column join.child.binding ∧ column.name = join.childField

variable {relations : List Relation} (accepted : Store.ofRelations relations = .ok store)
  (e : Evaluates query store join mean parents tuples)
include accepted e

/-- A key is loosely equal to the id of the tuple's parent. -/
theorem key_equals_id (key : IsKey query join column) (field : IsField query store column)
    {t : Tuple} (ht : t ∈ tuples) :
    ∃ parent ∈ parents.rows, ∃ id value, t.row? join.parent.binding = some parent ∧
      parent.get? "id" = some id ∧ t.resolve? column = some value ∧
      id.looselyEquals value = true := by
  obtain ⟨belongs, isId⟩ | ⟨belongs, isReference⟩ := key
  · obtain ⟨parent, hparent, bound, id, hid, reflexive⟩ := parent_of_mem accepted e ht
    obtain ⟨row, value, bound', hvalue, resolved⟩ := e.resolve? ht belongs field
    obtain rfl : parent = row := Option.some_inj.mp (bound.symm.trans bound')
    obtain rfl : id = value := Option.some_inj.mp (hid.symm.trans (isId ▸ hvalue))
    exact ⟨parent, hparent, id, id, bound, hid, resolved, reflexive⟩
  · obtain ⟨_, _, _, _, reads⟩ := e.reads
    obtain ⟨parent, hparent, bound, resolvedKey⟩ := resolve?_parentKey accepted e reads ht
    obtain ⟨id, value, hid, hvalue, equal⟩ := keys_of_mem e reads ht
    rw [← e.resolve?_reference reads ht belongs isReference field] at hvalue
    exact ⟨parent, hparent, id, value, bound, resolvedKey ▸ hid, hvalue, equal⟩

theorem key_of_tuplesOf (key : IsKey query join column) (field : IsField query store column)
    {parent : Row} {t : Tuple} (ht : t ∈ tuplesOf join.parent.binding tuples parent) :
    parent ∈ parents.rows ∧ ∃ id value, parent.get? "id" = some id ∧
      t.resolve? column = some value ∧ id.looselyEquals value = true := by
  obtain ⟨ht, bound⟩ := mem_tuplesOf.mp ht
  obtain ⟨own, stored, id, value, bound', hid, hvalue, equal⟩ :=
    key_equals_id accepted e key field ht
  obtain rfl : own = parent := Option.some_inj.mp (bound'.symm.trans bound)
  exact ⟨stored, id, value, hid, hvalue, equal⟩

theorem agree_of_key (key : IsKey query join column) (field : IsField query store column)
    {parent : Row} {t u : Tuple} (ht : t ∈ tuplesOf join.parent.binding tuples parent)
    (hu : u ∈ tuplesOf join.parent.binding tuples parent) : Agree column t u := by
  obtain ⟨_, x, v, hx, hv, equal⟩ := key_of_tuplesOf accepted e key field ht
  obtain ⟨_, y, w, hy, hw, equal'⟩ := key_of_tuplesOf accepted e key field hu
  obtain rfl : x = y := Option.some_inj.mp (hx.symm.trans hy)
  exact ⟨v, w, hv, hw, Value.looselyEquals_trans (Value.looselyEquals_symm equal) equal'⟩

theorem differ_of_key (apart : parents.IdsApart) (key : IsKey query join column)
    (field : IsField query store column) {a b : Row} (different : a ≠ b) {t u : Tuple}
    (ht : t ∈ tuplesOf join.parent.binding tuples a)
    (hu : u ∈ tuplesOf join.parent.binding tuples b) : Differ column t u := by
  obtain ⟨ha, x, v, hx, hv, equal⟩ := key_of_tuplesOf accepted e key field ht
  obtain ⟨hb, y, w, hy, hw, equal'⟩ := key_of_tuplesOf accepted e key field hu
  refine ⟨v, w, hv, hw, ?_⟩
  by_contra same
  have agree : v.looselyEquals w = true := by simpa using same
  have ids : x.looselyEquals y = true :=
    Value.looselyEquals_trans (Value.looselyEquals_trans equal agree)
      (Value.looselyEquals_symm equal')
  exact different (apart.eq_of_looselyEquals ha hb hx hy ids)

omit accepted in
/-- A column of the parent has the parent's value in all tuples of the group. -/
theorem resolve?_of_tuplesOf (belongs : BelongsTo query column join.parent.binding)
    (field : IsField query store column) {parent : Row} {t : Tuple}
    (ht : t ∈ tuplesOf join.parent.binding tuples parent) :
    t.resolve? column = parent.get? column.name := by
  obtain ⟨ht, bound⟩ := mem_tuplesOf.mp ht
  obtain ⟨own, value, bound', hvalue, resolved⟩ := e.resolve? ht belongs field
  obtain rfl : own = parent := Option.some_inj.mp (bound'.symm.trans bound)
  rw [resolved, hvalue]

end

/-! ## All groups -/

/-- Every joined tuple is in a group, and each group is one class of the joined tuples by the ids of
their parents. -/
structure ClassesById (query : Query) (join : KeyJoin) (mean : Aggregate) (tuples : List Tuple)
    (grouped : List Grouped) : Prop where
  rows : ∀ g ∈ grouped, groupRow query mean (groupOf join.parent.binding tuples g.parent) =
    .ok (some (g.average, g.row))
  covers : ∀ t ∈ tuples, ∃ g ∈ grouped, t ∈ groupOf join.parent.binding tuples g.parent
  classes : ∀ g ∈ grouped, ∀ t ∈ groupOf join.parent.binding tuples g.parent, ∀ u ∈ tuples,
    u ∈ groupOf join.parent.binding tuples g.parent ↔ Agree ⟨some join.parent.binding, "id"⟩ t u

/-- Within a group a column of the parent has one value, and the child's reference has loosely equal
values. Two groups differ in the parent's id and in the reference. -/
structure GroupsOn (query : Query) (join : KeyJoin) (tuples : List Tuple) (ordered : List Grouped)
    (column : Column) : Prop where
  parent : BelongsTo query column join.parent.binding → ∀ g ∈ ordered,
    ∀ t ∈ tuplesOf join.parent.binding tuples g.parent,
    ∀ u ∈ tuplesOf join.parent.binding tuples g.parent, t.resolve? column = u.resolve? column
  key : IsKey query join column → ∀ g ∈ ordered,
    ∀ t ∈ tuplesOf join.parent.binding tuples g.parent,
    ∀ u ∈ tuplesOf join.parent.binding tuples g.parent, Agree column t u
  apart : IsKey query join column → ordered.Pairwise fun g g' =>
    ∀ t ∈ tuplesOf join.parent.binding tuples g.parent,
    ∀ u ∈ tuplesOf join.parent.binding tuples g'.parent, Differ column t u

section
variable {query : Query} {store : Store} {relations : List Relation}
  (accepted : Store.ofRelations relations = .ok store)
include accepted

theorem groupsOn_of_partition {join : KeyJoin} {mean : Aggregate} {parents : Relation}
    {tuples : List Tuple} (e : Evaluates query store join mean parents tuples)
    (apart : parents.IdsApart) {grouped ordered : List Grouped}
    (partition : Partition query join mean parents tuples grouped) (perm : ordered.Perm grouped)
    {column : Column} (field : IsField query store column) :
    GroupsOn query join tuples ordered column := by
  refine ⟨?_, ?_, ?_⟩
  · intro belongs g _ t ht u hu
    rw [resolve?_of_tuplesOf e belongs field ht, resolve?_of_tuplesOf e belongs field hu]
  · intro key g _ t ht u hu
    exact agree_of_key accepted e key field ht hu
  · intro key
    have distinct : (ordered.map Grouped.parent).Nodup := by
      rw [(perm.map Grouped.parent).nodup_iff, partition.parents]
      exact nodup_occurring accepted e apart
    refine (List.pairwise_map.mp distinct).imp fun different t ht u hu => ?_
    exact differ_of_key accepted e apart key field different ht hu

/-- The groups behind an answer are the classes of the joined tuples by their parents' ids. Where
the ids of the parents are apart, every joined tuple is in one group, the tuples of a group agree on
the fields that are grouped by, and those of two groups differ in the parent's id and in the
reference to it. -/
theorem groups_are_classes {rows : List Row} (answered : answer? query store = .ok (some rows)) :
    ∃ join mean parents tuples, Evaluates query store join mean parents tuples ∧
      ∃ grouped ordered : List Grouped, rows = query.cut (ordered.map Grouped.row) ∧
        Descends Grouped.average ordered grouped ∧
        ClassesById query join mean tuples grouped ∧
        (∀ column ∈ query.groupBy, BelongsTo query column join.parent.binding ∨
          IsKey query join column) ∧
        (parents.IdsApart → Partition query join mean parents tuples grouped ∧
          ∀ column ∈ query.groupBy, IsField query store column →
            GroupsOn query join tuples ordered column) := by
  obtain ⟨join, mean, parents, tuples, e, grouped, ordered, nonempty, evaluated, descends, rfl⟩ :=
    answer_grouped answered
  refine ⟨join, mean, parents, tuples, e, grouped, ordered, rfl, descends, ⟨evaluated, ?_, ?_⟩,
    ?_, ?_⟩
  · intro t ht
    obtain ⟨parent, stored, bound, _⟩ := parent_of_mem accepted e ht
    have member : t ∈ groupOf join.parent.binding tuples parent :=
      mem_groupOf.mpr ⟨ht, sharesId_of_row accepted e ht bound⟩
    have kept : parent ∈ grouped.map Grouped.parent := by
      rw [nonempty]
      refine List.mem_filter.mpr ⟨stored, ?_⟩
      simpa using List.ne_nil_of_mem member
    obtain ⟨g, hg, rfl⟩ := List.mem_map.mp kept
    exact ⟨g, hg, member⟩
  · intro g _ t ht u hu
    exact mem_groupOf_iff ht hu
  · intro column hcolumn
    exact (belongsTo_of_groupBy e.recognized hcolumn).imp_right .inr
  · intro apart
    have partition := partition_of_apart accepted e apart nonempty evaluated
    exact ⟨partition, fun column _ field =>
      groupsOn_of_partition accepted e apart partition descends.perm field⟩

end

theorem groups_are_classes_sample :
    ∃ join mean parents tuples, Evaluates Sample.byDepartment Sample.store join mean parents tuples ∧
      ∃ grouped ordered : List Grouped,
        GroupAverage.answer? Sample.byDepartment Sample.store =
          .ok (some (ordered.map Grouped.row)) ∧
        ClassesById Sample.byDepartment join mean tuples grouped ∧
        GroupsOn Sample.byDepartment join tuples ordered ⟨some "d", "id"⟩ ∧
        GroupsOn Sample.byDepartment join tuples ordered ⟨some "d", "name"⟩ := by
  obtain ⟨rows, answered⟩ := exists_ok_some (GroupAverage.answer? Sample.byDepartment Sample.store)
    (by decide +kernel)
  obtain ⟨join, mean, parents, tuples, e, grouped, ordered, rfl, _, classes, _, separated⟩ :=
    groups_are_classes Sample.sample_accepted answered
  have apart : ParentIdsApart Sample.byDepartment Sample.store := by decide +kernel
  have idsApart : parents.IdsApart := apart join (recognize?_eq_some e.recognized).1 parents e.parents
  obtain ⟨_, groupsOn⟩ := separated idsApart
  have id : IsField Sample.byDepartment Sample.store ⟨some "d", "id"⟩ :=
    ⟨_, rfl, by unfold Source.HasField; decide⟩
  have name : IsField Sample.byDepartment Sample.store ⟨some "d", "name"⟩ :=
    ⟨_, rfl, by unfold Source.HasField; decide⟩
  exact ⟨join, mean, parents, tuples, e, grouped, ordered, answered, classes,
    groupsOn _ (by decide) id, groupsOn _ (by decide) name⟩

/-! ## Groups are not classes by columns -/

/-- Tuples of one parent have one value for each column that is grouped by, and tuples of two parents
differ in such a column. -/
def GroupsByColumns (query : Query) (store : Store) : Prop :=
  ∀ join ∈ KeyJoin.ofQuery? query, ∀ parents ∈ store.relation? join.parent.table,
    ∀ tuples ∈ query.tuples? store, ∀ a ∈ parents.rows, ∀ b ∈ parents.rows,
      ∀ t ∈ groupOf join.parent.binding tuples a, ∀ u ∈ groupOf join.parent.binding tuples b,
        (a = b → ∀ column ∈ query.groupBy, t.resolve? column = u.resolve? column) ∧
        (a ≠ b → ∃ column ∈ query.groupBy, t.resolve? column ≠ u.resolve? column)

instance (query : Query) (store : Store) : Decidable (GroupsByColumns query store) :=
  inferInstanceAs (Decidable (∀ join ∈ KeyJoin.ofQuery? query,
    ∀ parents ∈ store.relation? join.parent.table,
    ∀ tuples ∈ query.tuples? store, ∀ a ∈ parents.rows, ∀ b ∈ parents.rows,
      ∀ t ∈ groupOf join.parent.binding tuples a, ∀ u ∈ groupOf join.parent.binding tuples b,
        (a = b → ∀ column ∈ query.groupBy, t.resolve? column = u.resolve? column) ∧
        (a ≠ b → ∃ column ∈ query.groupBy, t.resolve? column ≠ u.resolve? column)))

end GroupAverage

/-- `Sample.byDepartment` grouped by `d.name` alone. -/
def Sample.byDepartmentName : Query :=
  { Sample.byDepartment with groupBy := [⟨some "d", "name"⟩] }

/-- Two departments of one name, each with an employee. -/
def Sample.namesakes : List Relation := [
  relation "departments" ["id", "name"] [
    [int 1, .text "North"],
    [int 2, .text "North"]],
  relation "employees" ["id", "department_id", "salary"] [
    [int 1, int 1, int 10],
    [int 2, int 2, int 30]]]

/-- Two departments of one id, which share an employee. -/
def Sample.twins : List Relation := [
  relation "departments" ["id", "name"] [
    [int 1, .text "North"],
    [int 1, .text "South"]],
  relation "employees" ["id", "department_id", "salary"] [
    [int 1, int 1, int 10]]]

/-- `Sample.byDepartment` grouped by `e.department_id` alone. -/
def Sample.byReference : Query :=
  { Sample.byDepartment with groupBy := [⟨some "e", "department_id"⟩] }

/-- A department that is referred to by an integer and by a decimal. -/
def Sample.mixedReferences : List Relation := [
  relation "departments" ["id", "name"] [
    [int 1, .text "North"]],
  relation "employees" ["id", "department_id", "salary"] [
    [int 1, int 1, int 10],
    [int 2, cents 100, int 30]]]

open GroupAverage in
/-- Two departments of one name have a group each, two of one id are both counted in either group,
and references of two kinds are counted in one. -/
theorem GroupAverage.groups_ignore_columns :
    Store.ofRelations Sample.namesakes = .ok ⟨Sample.namesakes⟩ ∧
    (∃ rows, GroupAverage.answer? Sample.byDepartmentName ⟨Sample.namesakes⟩ = .ok (some rows)) ∧
    ¬GroupsByColumns Sample.byDepartmentName ⟨Sample.namesakes⟩ ∧
    Store.ofRelations Sample.twins = .ok ⟨Sample.twins⟩ ∧
    (∃ rows, GroupAverage.answer? Sample.byDepartmentName ⟨Sample.twins⟩ = .ok (some rows)) ∧
    ¬GroupsByColumns Sample.byDepartmentName ⟨Sample.twins⟩ ∧
    Store.ofRelations Sample.mixedReferences = .ok ⟨Sample.mixedReferences⟩ ∧
    (∃ rows, GroupAverage.answer? Sample.byReference ⟨Sample.mixedReferences⟩ = .ok (some rows)) ∧
    ¬GroupsByColumns Sample.byReference ⟨Sample.mixedReferences⟩ := by
  refine ⟨rfl, ?_, ?_, rfl, ?_, ?_, rfl, ?_, ?_⟩
  · exact exists_ok_some _ (by decide +kernel)
  · decide +kernel
  · exact exists_ok_some _ (by decide +kernel)
  · decide +kernel
  · exact exists_ok_some _ (by decide +kernel)
  · decide +kernel

end QueryShapes
