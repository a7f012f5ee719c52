import QueryShapes.Proofs.UniformAnswers

/-!
# Rows of accepted stores

- `ofRelations_eq_ok_iff`: which relations a store accepts, and what it holds then.
- `Schema.Conforms`: a row has exactly the fields of a schema, and no null under a field that is not
  nullable.
- `schemaOf_conforms_iff`: a stored row conforms to the schema of its relation, except where its id is
  null.
-/

namespace QueryShapes

theorem Relation.uniform_iff {relation : Relation} : relation.Uniform ↔
    (∀ row ∈ relation.rows, row.contains "id") ∧ SameNames relation.rows := by
  have hasId (row : Row) : row.contains "id" ↔ "id" ∈ row.names := Row.get?_isSome_iff
  have sameSet (a b : Row) : a.names.Perm b.names ↔ ∀ name, name ∈ a.names ↔ name ∈ b.names :=
    List.perm_ext_iff_of_nodup a.nodup b.nodup
  constructor
  · intro uniform
    exact ⟨fun row hrow => (hasId row).mpr (uniform.id row hrow), uniform.sameNames⟩
  · rintro ⟨ids, same⟩
    exact ⟨fun row hrow => (hasId row).mp (ids row hrow),
      fun a ha b hb => (sameSet a b).mpr (same a ha b hb)⟩

/-- A store of some relations is made exactly if their names are different, every row has an `id`, and
any two rows of a relation have the same set of names. It holds the relations in the given order. -/
theorem Store.ofRelations_eq_ok_iff {relations : List Relation} {store : Store} :
    ofRelations relations = .ok store ↔
      (relations.map (·.name)).Nodup ∧
      (∀ relation ∈ relations,
        (∀ row ∈ relation.rows, row.contains "id") ∧ SameNames relation.rows) ∧
      store.relations = relations := by
  rw [accepted_iff, checkAfter_eq_ok_iff]
  simp only [Relation.uniform_iff, List.not_mem_nil, not_false_eq_true, implies_true, true_and,
    and_assoc]

/-! ## Rows and their schema -/

theorem KeyRole.ofName_eq_primary_iff {name : String} : ofName name = primary ↔ name = "id" := by
  unfold ofName
  split
  · rename_i isId
    exact iff_of_true rfl isId
  · rename_i other
    refine iff_of_false ?_ other
    split <;> nofun

/-- Of all fields only the id is not nullable. -/
theorem Field.nullable_ofSample {name : String} {sample : Value} :
    (ofSample name sample).nullable = false ↔ name = "id" := by
  rw [← KeyRole.ofName_eq_primary_iff]
  exact bne_eq_false_iff_eq

namespace Schema

/-- The row has exactly the fields of the schema and holds a null under nullable fields only. -/
structure Conforms (schema : Schema) (row : Row) : Prop where
  fields : row.names.Perm (schema.fields.map (·.name))
  values : ∀ field ∈ schema.fields, field.nullable = false → row.get? field.name ≠ some .null

theorem names_ofRows (name : String) (first : Row) (rest : List Row) :
    (ofRows name (first :: rest)).fields.map (·.name) = first.names := by
  simp only [ofRows, List.map_map]
  rfl

/-- The values that a schema constrains are the ids. -/
theorem forall_not_nullable_iff {name : String} {first : Row} {rest : List Row}
    (hasId : "id" ∈ first.names) {p : String → Prop} :
    (∀ field ∈ (ofRows name (first :: rest)).fields, field.nullable = false → p field.name) ↔
      p "id" := by
  simp only [ofRows, List.forall_mem_map, Field.nullable_ofSample]
  constructor
  · intro all
    obtain ⟨pair, member, named⟩ := List.mem_map.mp hasId
    have here := all pair member named
    rwa [Field.ofSample, named] at here
  · intro holds pair _ named
    rwa [Field.ofSample, named]

end Schema

/-- In an accepted store every row has exactly the fields of its relation's schema. It has no null under a
field that is not nullable exactly if its id is not null. -/
theorem Store.schemaOf_conforms_iff {relations : List Relation} {store : Store}
    (accepted : ofRelations relations = .ok store) {relation : Relation}
    (member : relation ∈ store.relations) {row : Row} (stored : row ∈ relation.rows) :
    row.names.Perm ((store.schemaOf relation.name).fields.map (·.name)) ∧
    ((store.schemaOf relation.name).Conforms row ↔ row.get? "id" ≠ some .null) := by
  have held : relation ∈ relations := (accepted_iff.mp accepted).2 ▸ member
  have known := relation?_of_accepted accepted held
  have uniform := uniform_of_accepted accepted known
  have schema : store.schemaOf relation.name = relation.schema := by simp [schemaOf, known]
  obtain ⟨name, _ | ⟨first, rest⟩⟩ := relation
  · cases stored
  · have here : first ∈ first :: rest := List.mem_cons_self
    have fields : row.names.Perm ((Schema.ofRows name (first :: rest)).fields.map (·.name)) := by
      rw [Schema.names_ofRows]
      exact uniform.names row stored first here
    have values : (∀ field ∈ (Schema.ofRows name (first :: rest)).fields,
        field.nullable = false → row.get? field.name ≠ some .null) ↔ row.get? "id" ≠ some .null :=
      Schema.forall_not_nullable_iff (p := fun field => row.get? field ≠ some .null)
        (uniform.id first here)
    rw [schema]
    exact ⟨fields, fun conforms => values.mp conforms.values, fun known => ⟨fields, values.mpr known⟩⟩

/-- Two visits, whose fields are listed in different orders; the second one has no number. -/
def Sample.visits : Relation :=
  ⟨"visits", [.ofList [("id", int 1), ("guest", .null)],
    .ofList [("guest", .text "Ada"), ("id", .null)]]⟩

/-- The first visit has a null under a nullable field. -/
theorem Store.schemaOf_conforms_iff_visits :
    ofRelations [Sample.visits] = .ok ⟨[Sample.visits]⟩ ∧
    Sample.visits ∈ (⟨[Sample.visits]⟩ : Store).relations ∧
    ∃ first second, Sample.visits.rows = [first, second] ∧
      ((⟨[Sample.visits]⟩ : Store).schemaOf "visits").Conforms first ∧
      ¬((⟨[Sample.visits]⟩ : Store).schemaOf "visits").Conforms second := by
  have accepted : ofRelations [Sample.visits] = .ok ⟨[Sample.visits]⟩ := rfl
  have member : Sample.visits ∈ (⟨[Sample.visits]⟩ : Store).relations := List.mem_singleton.mpr rfl
  refine ⟨accepted, member, _, _, rfl, ?_, ?_⟩
  · exact (schemaOf_conforms_iff accepted member List.mem_cons_self).2.mpr (by decide)
  · exact fun conforms => (schemaOf_conforms_iff accepted member
      (List.mem_cons_of_mem _ List.mem_cons_self)).2.mp conforms (by decide)

/-- A null is accepted as an id, while the schema lists the id as not nullable. -/
theorem Store.id_stored_as_null :
    ofRelations [Sample.visits] = .ok ⟨[Sample.visits]⟩ ∧
    ((⟨[Sample.visits]⟩ : Store).schemaOf "visits").fields =
      [⟨"id", .integer, false, .primary⟩, ⟨"guest", .text, true, .none⟩] ∧
    Sample.visits.rows.map (·.get? "id") = [some (Sample.int 1), some .null] ∧
    ¬∀ row ∈ Sample.visits.rows, ((⟨[Sample.visits]⟩ : Store).schemaOf "visits").Conforms row := by
  have fields : ((⟨[Sample.visits]⟩ : Store).schemaOf "visits").fields =
      [⟨"id", .integer, false, .primary⟩, ⟨"guest", .text, true, .none⟩] := rfl
  refine ⟨rfl, fields, rfl, fun all => ?_⟩
  have second := (all _ (List.mem_cons_of_mem _ List.mem_cons_self)).values
    ⟨"id", .integer, false, .primary⟩ (fields ▸ List.mem_cons_self) rfl
  exact second rfl

end QueryShapes
