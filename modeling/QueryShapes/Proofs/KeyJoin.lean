import QueryShapes.Proofs.Product
import QueryShapes.Shape.Basic

/-!
# Recognized key joins

- `KeyJoin.Reads`: all that recognition says about a query of two sources.
- `ofQuery?_reads`: a recognized key join is read off its query in that way.
- `Reads.tuples?_eq`: its tuples are the selected ones of the product.
- `ofQuery?_eq`: a key join is recognized by its two keys, and then by the sources they belong to.
- `isSome_ofQuery?_conditionFirst`: conditions of the first source have no say in that.
-/

namespace QueryShapes

/-- An equality of two columns, either of which may stand first. -/
def Predicate.equates (p : Predicate) (a b : Column) : Prop :=
  p = ⟨.column a, .eq, .column b⟩ ∨ p = ⟨.column b, .eq, .column a⟩

theorem Predicate.columnEquality?_eq_some {p : Predicate} {a b : Column}
    (h : p.columnEquality? = some (a, b)) : p = ⟨.column a, .eq, .column b⟩ := by
  obtain ⟨left, op, right⟩ := p
  unfold Predicate.columnEquality? at h
  split at h <;> simp_all

theorem Query.mem_sources_of_sourceOf {query : Query} {column : Column} {source : Source}
    (h : query.sourceOf? column = some source) : source ∈ query.sources := by
  unfold sourceOf? at h
  split at h
  · exact List.mem_of_find?_eq_some h
  · exact List.mem_of_mem_head? h

/-- Conditions of the first source do not change which source a column belongs to. -/
theorem Query.sourceOf?_conditionFirst (query : Query) (conditions : List Predicate) (column : Column) :
    Option.Rel (fun s t => s.binding = t.binding ∧ s.table = t.table)
      ((query.conditionFirst conditions).sourceOf? column) (query.sourceOf? column) := by
  have itself (source? : Option Source) :
      Option.Rel (fun s t => s.binding = t.binding ∧ s.table = t.table) source? source? := by
    cases source? with
    | none => exact .none
    | some source => exact .some ⟨rfl, rfl⟩
  unfold sourceOf? conditionFirst
  cases query.sources with
  | nil => exact itself _
  | cons first rest =>
    cases column.qualifier with
    | none => exact .some ⟨rfl, rfl⟩
    | some qualifier =>
      have binding : Source.binding { first with conditions } = first.binding := rfl
      simp only [List.modifyHead_cons, List.find?_cons, binding]
      split
      · exact .some ⟨rfl, rfl⟩
      · exact itself _

namespace KeyJoin

/-- The query joins `first` with `joined` where the parent's key equals the child's. -/
structure Reads (query : Query) (join : KeyJoin) (first joined : Source)
    (parentKey childKey : Column) : Prop where
  sources : query.sources = [first, joined]
  inner : joined.kind = .inner
  condition : ∃ p, joined.conditions = [p] ∧ p.equates parentKey childKey
  parentName : parentKey.name = "id"
  childName : childKey.name = join.childField
  parent : query.sourceOf? parentKey = some join.parent
  child : query.sourceOf? childKey = some join.child
  bindings : join.parent.binding ≠ join.child.binding

theorem keys?_eq_some {a b parentKey childKey : Column} (h : keys? a b = some (parentKey, childKey)) :
    parentKey.name = "id" ∧ (a = parentKey ∧ b = childKey ∨ a = childKey ∧ b = parentKey) := by
  unfold keys? at h
  split at h
  · rename_i id
    obtain ⟨rfl, rfl⟩ := Prod.mk.inj (Option.some_inj.mp h)
    exact ⟨id.1, .inl ⟨rfl, rfl⟩⟩
  · split at h
    · rename_i id
      obtain ⟨rfl, rfl⟩ := Prod.mk.inj (Option.some_inj.mp h)
      exact ⟨id.1, .inr ⟨rfl, rfl⟩⟩
    · cases h

theorem ofQuery?_reads {query : Query} {join : KeyJoin} (h : ofQuery? query = some join) :
    ∃ first joined parentKey childKey, Reads query join first joined parentKey childKey := by
  unfold ofQuery? at h
  split at h
  · rename_i first joined sources
    split at h
    · rename_i condition inner conditions
      simp only [Option.bind_eq_bind, Option.bind_eq_some_iff] at h
      obtain ⟨⟨a, b⟩, equality, ⟨parentKey, childKey⟩, keys, parent, hparent, child, hchild, h⟩ := h
      split at h
      · cases h
      · rename_i apart
        obtain rfl := Option.some_inj.mp h
        obtain ⟨parentName, sides⟩ := keys?_eq_some keys
        have condition_eq := Predicate.columnEquality?_eq_some equality
        refine ⟨first, joined, parentKey, childKey, sources, inner, ⟨condition, conditions, ?_⟩,
          parentName, rfl, hparent, hchild, fun same => apart (.inl same)⟩
        obtain ⟨rfl, rfl⟩ | ⟨rfl, rfl⟩ := sides
        · exact .inl condition_eq
        · exact .inr condition_eq
    · cases h
  · cases h

namespace Reads

variable {query : Query} {join : KeyJoin} {first joined : Source} {parentKey childKey : Column}

theorem tuples?_eq (reads : Reads query join first joined parentKey childKey) (store : Store) :
    query.tuples? store = query.selected? store := by
  rw [Query.tuples?_eq query store reads.sources (Query.settled_last _ _)]
  simp [reads.inner]

/-- The source bound under the child's name is the child. -/
theorem eq_child (reads : Reads query join first joined parentKey childKey) {source : Source}
    (member : source ∈ query.sources) (named : source.binding = join.child.binding) :
    source = join.child := by
  have parent := Query.mem_sources_of_sourceOf reads.parent
  have child := Query.mem_sources_of_sourceOf reads.child
  have apart := reads.bindings
  rw [reads.sources] at member parent child
  grind

end Reads

/-! ## Keys first, sources second -/

/-- The lone condition on which a source is inner joined. -/
def innerCondition? (source : Source) : Option Predicate :=
  match source.kind, source.conditions with
  | .inner, [condition] => some condition
  | _, _ => none

/-- The condition between two sources. -/
def condition? : List Source → Option Predicate
  | [_, joined] => innerCondition? joined
  | _ => none

/-- The parent's key and the child's key. -/
def keyColumns? (query : Query) : Option (Column × Column) := do
  let condition ← condition? query.sources
  let (a, b) ← condition.columnEquality?
  keys? a b

/-- The key join on two keys, if they belong to different sources of different relations. -/
def onKeys? (query : Query) (parentKey childKey : Column) : Option KeyJoin := do
  let parent ← query.sourceOf? parentKey
  let child ← query.sourceOf? childKey
  if parent.binding = child.binding ∨ parent.table = child.table then none
  else some ⟨parent, child, childKey.name⟩

theorem ofQuery?_eq (query : Query) :
    ofQuery? query = (keyColumns? query).bind fun keys => onKeys? query keys.1 keys.2 := by
  unfold ofQuery? keyColumns?
  split
  · rename_i sources
    split
    · rename_i inner conditions
      simp only [condition?, innerCondition?, sources, inner, conditions, Option.bind_eq_bind,
        Option.bind_some, Option.bind_assoc]
      rfl
    · simp [condition?, innerCondition?, sources]
  · simp [condition?]

theorem isForeignName_id : KeyRole.isForeignName "id" = false := by decide

/-- A key join is recognized whatever conditions the first source has. -/
theorem isSome_ofQuery?_conditionFirst (query : Query) (conditions : List Predicate) :
    (ofQuery? (query.conditionFirst conditions)).isSome = (ofQuery? query).isSome := by
  have condition : condition? (query.conditionFirst conditions).sources = condition? query.sources := by
    unfold Query.conditionFirst
    match query.sources with
    | [] | [_] | [_, _] | _ :: _ :: _ :: _ => rfl
  have keys : keyColumns? (query.conditionFirst conditions) = keyColumns? query := by
    rw [keyColumns?, condition, keyColumns?]
  rw [ofQuery?_eq, ofQuery?_eq, keys]
  cases keyColumns? query with
  | none => rfl
  | some keys =>
    have parent := query.sourceOf?_conditionFirst conditions keys.1
    have child := query.sourceOf?_conditionFirst conditions keys.2
    rw [Option.bind_some, Option.bind_some, onKeys?, onKeys?]
    generalize query.sourceOf? keys.1 = s, (query.conditionFirst conditions).sourceOf? keys.1 = s'
      at parent ⊢
    generalize query.sourceOf? keys.2 = t, (query.conditionFirst conditions).sourceOf? keys.2 = t'
      at child ⊢
    cases parent with
    | none => rfl
    | some parent =>
      cases child with
      | none => rfl
      | some child =>
        simp only [Option.bind_eq_bind, Option.bind_some, parent.1, parent.2, child.1, child.2]
        split <;> rfl

/-- Which side of the equality holds the parent's key does not matter: `id` is no reference. -/
theorem keys?_comm (a b : Column) : keys? b a = keys? a b := by
  unfold keys?
  by_cases ha : a.name = "id" <;> by_cases hb : b.name = "id" <;> simp [ha, hb, isForeignName_id]

end KeyJoin

end QueryShapes
