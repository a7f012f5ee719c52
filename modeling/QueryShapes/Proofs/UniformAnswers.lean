import QueryShapes.Proofs.RelatedNames

/-!
# Answers whose rows carry the same names

- `SameNames`: all rows of a list carry the same set of names.
- `Relation.Uniform.sameNames`: so do the rows of every relation of an accepted store.
- `execute_sameNames`: and the rows of every answer of its engine.
-/

namespace QueryShapes

/-- All rows carry the same set of names. -/
def SameNames (rows : List Row) : Prop :=
  ∀ a ∈ rows, ∀ b ∈ rows, ∀ name, name ∈ a.names ↔ name ∈ b.names

/-- Rows that are made of pairs of the same names in the same order. -/
theorem SameNames.of_pairs {α : Type} {items : List α} {pairs : α → List (String × Value)}
    (same : ∀ x y, (pairs x).map Prod.fst = (pairs y).map Prod.fst) :
    SameNames (items.map fun x => Row.ofList (pairs x)) :=
  NameRelation.sameSet.of_pairs same

/-- Every relation of the store is uniform. -/
def Store.Uniform (store : Store) : Prop :=
  ∀ name relation, store.relation? name = some relation → relation.Uniform

variable {store : Store} {rows : List Row}

theorem Relation.Uniform.sameNames {relation : Relation} (uniform : relation.Uniform) :
    SameNames relation.rows :=
  fun a ha b hb _ => (uniform.names a ha b hb).mem_iff

namespace Engine

theorem read_sameNames (uniform : store.Uniform) {text : String}
    (h : (ofStore store).read text = .ok rows) : SameNames rows :=
  read_related .sameSet (.inl fun name relation found => (uniform name relation found).sameNames) h

/-- Whatever the engine of an accepted store answers in rows, all of them carry the same set of
names. -/
theorem execute_sameNames {relations : List Relation}
    (accepted : Store.ofRelations relations = .ok store) {newId text : String}
    {parameters : List Value}
    (answered : (ofStore store).execute newId text parameters = .ok (.rows rows)) :
    SameNames rows := by
  have uniform : store.Uniform := fun _ _ => Store.uniform_of_accepted accepted
  unfold execute at answered
  generalize StatementKind.ofText text = kind at answered
  cases kind with
  | liveness =>
    obtain rfl := Envelope.rows.inj (Except.ok.inj answered)
    simp [SameNames]
  | listing =>
    obtain rfl := Envelope.rows.inj (Except.ok.inj answered)
    exact .of_pairs fun _ _ => rfl
  | description relation =>
    obtain rfl := Envelope.rows.inj (Except.ok.inj answered)
    exact .of_pairs fun _ _ => rfl
  | read =>
    obtain ⟨found, given, same⟩ := map_eq_ok_iff.mp answered
    obtain rfl := Envelope.rows.inj same
    exact read_sameNames uniform given
  | mutation => cases Except.ok.inj answered

end Engine

/-- The wildcard takes a `name` as well. -/
def Sample.paidStaff : String := "SELECT email AS name, e.* FROM employees e WHERE e.salary > 70000"

open Engine in
theorem Engine.execute_sameNames_sample :
    Store.ofRelations Sample.relations = .ok Sample.store ∧
    (∀ newId text parameters rows,
      (ofStore Sample.store).execute newId text parameters = .ok (.rows rows) → SameNames rows) ∧
    ∃ rows, (ofStore Sample.store).execute "" Sample.paidStaff [] = .ok (.rows rows) ∧
      rows.length = 3 ∧ SameNames rows := by
  have kind : StatementKind.ofText Sample.paidStaff = .read := by decide +kernel
  have size : ((ofStore Sample.store).read Sample.paidStaff).toOption.map List.length = some 3 := by
    decide +kernel
  obtain ⟨rows, given, length⟩ := Option.map_eq_some_iff.mp size
  have answered : (ofStore Sample.store).execute "" Sample.paidStaff [] = .ok (.rows rows) := by
    simp [execute, kind, ok_of_toOption given, Except.map]
  exact ⟨Sample.sample_accepted, fun _ _ _ _ => execute_sameNames Sample.sample_accepted, rows,
    answered, length, execute_sameNames Sample.sample_accepted answered⟩

end QueryShapes
