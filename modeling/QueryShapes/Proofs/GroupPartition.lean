import Mathlib.Data.List.Pairwise
import QueryShapes.Proofs.Groups
import QueryShapes.Proofs.Lists

/-!
# Groups as a partition of the joined tuples

- `IdsApart`: no two rows of a relation have loosely equal ids.
- `groupOf_eq_tuplesOf`: the group of a parent row is then the tuples that hold this very row.
- `tuplesOf_perm`: those of the parents that occur make up the joined tuples.
- `partition_of_apart`: the groups that are not empty are the parts of that partition.
-/

namespace QueryShapes

namespace Relation

def IdsApart (relation : Relation) : Prop :=
  relation.rows.Pairwise fun a b =>
    ∀ x ∈ a.get? "id", ∀ y ∈ b.get? "id", x.looselyEquals y = false

instance (relation : Relation) : Decidable relation.IdsApart :=
  inferInstanceAs (Decidable (List.Pairwise _ _))

theorem IdsApart.eq_of_looselyEquals {relation : Relation} (apart : relation.IdsApart) {a b : Row}
    (ha : a ∈ relation.rows) (hb : b ∈ relation.rows) {x y : Value} (hx : a.get? "id" = some x)
    (hy : b.get? "id" = some y) (equal : x.looselyEquals y) : a = b := by
  by_contra different
  have symmetric : Std.Symm fun a b : Row =>
      ∀ x ∈ a.get? "id", ∀ y ∈ b.get? "id", x.looselyEquals y = false := by
    refine ⟨fun a b h x hx y hy => ?_⟩
    rw [Value.looselyEquals_comm]
    exact h y hy x hx
  have unequal := apart.forall ha hb different x hx y hy
  simp [unequal] at equal

end Relation

namespace GroupAverage

/-- The ids of the parent relation of a query are apart. -/
def ParentIdsApart (query : Query) (store : Store) : Prop :=
  ∀ join ∈ KeyJoin.ofQuery? query, ∀ parents ∈ store.relation? join.parent.table, parents.IdsApart

instance (query : Query) (store : Store) : Decidable (ParentIdsApart query store) :=
  inferInstanceAs (Decidable (∀ _ ∈ KeyJoin.ofQuery? query, ∀ _ ∈ store.relation? _, _))

/-- The tuples that hold the row under the binding. -/
def tuplesOf (binding : String) (tuples : List Tuple) (row : Row) : List Tuple :=
  tuples.filter fun tuple => tuple.row? binding = some row

/-- The row occurs in some tuple under the binding. -/
def occurs (binding : String) (tuples : List Tuple) (row : Row) : Bool :=
  tuples.any fun tuple => tuple.row? binding = some row

theorem mem_tuplesOf {binding : String} {tuples : List Tuple} {row : Row} {t : Tuple} :
    t ∈ tuplesOf binding tuples row ↔ t ∈ tuples ∧ t.row? binding = some row := by
  simp [tuplesOf]

theorem occurs_iff {binding : String} {tuples : List Tuple} {row : Row} :
    occurs binding tuples row = true ↔ ∃ t ∈ tuples, t.row? binding = some row := by
  simp [occurs]

theorem occurs_eq (binding : String) (tuples : List Tuple) (row : Row) :
    occurs binding tuples row = !(tuplesOf binding tuples row).isEmpty := by
  rw [Bool.eq_iff_iff, occurs_iff]
  simp [tuplesOf, List.filter_eq_nil_iff]

section
variable {query : Query} {store : Store} {join : KeyJoin} {mean : Aggregate} {parents : Relation}
  {tuples : List Tuple} {relations : List Relation}
  (accepted : Store.ofRelations relations = .ok store)
  (e : Evaluates query store join mean parents tuples)
include accepted e

/-- Every joined tuple is in the group of the parent row that it holds. -/
theorem sharesId_of_row {t : Tuple} (ht : t ∈ tuples) {parent : Row}
    (bound : t.row? join.parent.binding = some parent) :
    sharesId join.parent.binding parent t = true := by
  obtain ⟨_, id, hid, reflexive⟩ := stored_of_row accepted e ht bound
  exact sharesId_iff.mpr ⟨parent, id, id, bound, hid, hid, reflexive⟩

theorem sharesId_eq (apart : parents.IdsApart) {t : Tuple} (ht : t ∈ tuples) {parent : Row}
    (hparent : parent ∈ parents.rows) :
    sharesId join.parent.binding parent t = decide (t.row? join.parent.binding = some parent) := by
  rw [Bool.eq_iff_iff, decide_eq_true_iff]
  constructor
  · intro shared
    obtain ⟨row, own, id, bound, hown, hid, equal⟩ := sharesId_iff.mp shared
    have stored := (stored_of_row accepted e ht bound).1
    rw [bound, apart.eq_of_looselyEquals stored hparent hown hid equal]
  · exact sharesId_of_row accepted e ht

theorem groupOf_eq_tuplesOf (apart : parents.IdsApart) {parent : Row}
    (hparent : parent ∈ parents.rows) :
    groupOf join.parent.binding tuples parent = tuplesOf join.parent.binding tuples parent := by
  rw [groupOf_eq_filter]
  apply List.filter_congr
  intro t ht
  exact sharesId_eq accepted e apart ht hparent

/-- Ids that occur are loosely equal to themselves, so rows that occur are different rows. -/
theorem nodup_occurring (apart : parents.IdsApart) :
    (parents.rows.filter (occurs join.parent.binding tuples)).Nodup := by
  refine List.pairwise_filter.mpr (apart.imp_of_mem fun {a b} ha hb different occurring _ => ?_)
  rintro rfl
  obtain ⟨t, ht, bound⟩ := occurs_iff.mp occurring
  obtain ⟨_, id, hid, reflexive⟩ := stored_of_row accepted e ht bound
  simp [different id hid id hid] at reflexive

theorem tuplesOf_perm (apart : parents.IdsApart) :
    ((parents.rows.filter (occurs join.parent.binding tuples)).flatMap
      (tuplesOf join.parent.binding tuples)).Perm tuples := by
  apply flatMap_filter_perm
  · intro t ht
    obtain ⟨parent, hparent, bound, _⟩ := parent_of_mem accepted e ht
    refine ⟨parent, List.mem_filter.mpr ⟨hparent, occurs_iff.mpr ⟨t, ht, bound⟩⟩, ?_⟩
    simpa using bound
  · refine (nodup_occurring accepted e apart).imp fun {a b} different t _ holds => ?_
    have bound : t.row? join.parent.binding = some a := by simpa using holds
    simpa [bound] using different

/-- One group for each parent row that occurs, in storage order; together they hold every joined
tuple once. -/
structure Partition (query : Query) (join : KeyJoin) (mean : Aggregate) (parents : Relation)
    (tuples : List Tuple) (grouped : List Grouped) : Prop where
  parents : grouped.map Grouped.parent = parents.rows.filter (occurs join.parent.binding tuples)
  rows : ∀ g ∈ grouped, groupRow query mean (tuplesOf join.parent.binding tuples g.parent) =
    .ok (some (g.average, g.row))
  whole : (grouped.flatMap fun g => tuplesOf join.parent.binding tuples g.parent).Perm tuples

theorem partition_of_apart (apart : parents.IdsApart) {grouped : List Grouped}
    (nonempty : grouped.map Grouped.parent =
      parents.rows.filter (fun parent => !(groupOf join.parent.binding tuples parent).isEmpty))
    (evaluated : ∀ g ∈ grouped, groupRow query mean (groupOf join.parent.binding tuples g.parent) =
      .ok (some (g.average, g.row))) : Partition query join mean parents tuples grouped := by
  have groups : ∀ parent ∈ parents.rows, groupOf join.parent.binding tuples parent =
      tuplesOf join.parent.binding tuples parent :=
    fun parent hparent => groupOf_eq_tuplesOf accepted e apart hparent
  have occurring : grouped.map Grouped.parent =
      parents.rows.filter (occurs join.parent.binding tuples) := by
    rw [nonempty]
    apply List.filter_congr
    intro parent hparent
    rw [groups parent hparent, occurs_eq]
  refine ⟨occurring, ?_, ?_⟩
  · intro g hg
    have stored : g.parent ∈ parents.rows :=
      (List.mem_filter.mp (occurring ▸ List.mem_map_of_mem hg)).1
    rw [← groups g.parent stored]
    exact evaluated g hg
  · rw [← List.flatMap_map, occurring]
    exact tuplesOf_perm accepted e apart

end

end GroupAverage

end QueryShapes
