import QueryShapes.Json.Encoding
import QueryShapes.Proofs.JsonValues

/-!
# Schemas in JSON

- `Json.record?_object`: the object that a record is written as is read as the record.
- `Schema.ofJson?_toJson`: a schema is told from the value that is made of it.
- `Schema.ofJsonText?_jsonText`: so a schema is read back from its JSON text, whatever the names in
  it are.
-/

namespace QueryShapes

namespace Json

theorem member?_of_mem {members : List (String × Json)} (distinct : (members.map Prod.fst).Nodup)
    {member : String × Json} (mem : member ∈ members) : member? members member.1 = some member.2 := by
  induction members with
  | nil => cases mem
  | cons first rest ih =>
    obtain ⟨fresh, others⟩ := List.nodup_cons.mp distinct
    rw [member?, List.find?_cons]
    by_cases same : first.1 = member.1
    · obtain rfl | later := List.mem_cons.mp mem
      · simp
      · exact absurd (same ▸ List.mem_map_of_mem later) fresh
    · obtain rfl | later := List.mem_cons.mp mem
      · exact absurd rfl same
      · simpa [member?, same] using ih others later

/-- An object with the members of a record in their order gives their values. -/
theorem record?_object {members : List (String × Json)} (distinct : (members.map Prod.fst).Nodup) :
    record? (members.map Prod.fst) (object members) = some (members.map Prod.snd) := by
  have asked : (members.map Prod.fst).filter (members.map Prod.fst).contains = members.map Prod.fst := by
    simp
  have found : ∀ part ⊆ members,
      (part.map Prod.fst).mapM (member? members) = some (part.map Prod.snd) := by
    intro part within
    induction part with
    | nil => rfl
    | cons first rest ih =>
      have here := member?_of_mem distinct (within List.mem_cons_self)
      have there := ih fun member mem => within (List.mem_cons_of_mem first mem)
      simp [here, there]
  rw [record?, asked, if_pos distinct, found members (List.Subset.refl members)]

end Json

theorem FieldType.ofJson?_jsonName (type : FieldType) : ofJson? (.string type.jsonName) = some type := by
  cases type <;> rfl

theorem KeyRole.ofJson?_jsonName (role : KeyRole) : ofJson? (.string role.jsonName) = some role := by
  cases role <;> rfl

theorem Field.wordy_toJson (field : Field) : field.toJson.Wordy := by
  refine .object ?_
  simp [Json.Numbered.string, Json.Numbered.boolean]

theorem Field.ofJson?_toJson (field : Field) : ofJson? field.toJson = some field := by
  have distinct : ([("name", Json.string field.name),
      ("field_type", .string field.type.jsonName), ("nullable", .boolean field.nullable),
      ("key", .string field.key.jsonName)].map Prod.fst).Nodup := by
    simp
  have record : field.toJson.record? ["name", "field_type", "nullable", "key"] =
      some [.string field.name, .string field.type.jsonName, .boolean field.nullable,
        .string field.key.jsonName] :=
    Json.record?_object distinct
  rw [ofJson?, record]
  simp [Json.text?, Json.bool?, FieldType.ofJson?_jsonName, KeyRole.ofJson?_jsonName]

namespace Schema

theorem wordy_toJson (schema : Schema) : schema.toJson.Wordy := by
  have fields : (Json.array (schema.fields.map Field.toJson)).Wordy := by
    refine .array ?_
    intro element mem
    obtain ⟨field, _, rfl⟩ := List.mem_map.mp mem
    exact field.wordy_toJson
  refine .object ?_
  simp [Json.Numbered.string, fields]

theorem ofJson?_toJson (schema : Schema) : ofJson? schema.toJson = some schema := by
  have distinct : ([("relation", Json.string schema.relation),
      ("fields", .array (schema.fields.map Field.toJson))].map Prod.fst).Nodup := by
    simp
  have record : schema.toJson.record? ["relation", "fields"] =
      some [.string schema.relation, .array (schema.fields.map Field.toJson)] :=
    Json.record?_object distinct
  have fields : (schema.fields.map Field.toJson).mapM Field.ofJson? = some schema.fields := by
    induction schema.fields with
    | nil => rfl
    | cons first rest ih => simp [Field.ofJson?_toJson, ih]
  rw [ofJson?, record]
  simp [Json.text?, Json.elements?, fields]

/-- The JSON text of a schema is read as the value that is made of the schema, and so as the
schema. -/
theorem ofJsonText?_jsonText (schema : Schema) :
    Json.ofText? schema.jsonText = some schema.toJson ∧
    ofJsonText? schema.jsonText = some schema := by
  have read : Json.ofText? schema.jsonText = some schema.toJson :=
    Json.ofText?_compact schema.wordy_toJson
  refine ⟨read, ?_⟩
  rw [ofJsonText?, read, Option.bind_some, ofJson?_toJson]

end Schema

end QueryShapes
