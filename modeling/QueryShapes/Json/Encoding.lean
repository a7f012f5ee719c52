import QueryShapes.Engine.Basic
import QueryShapes.Json.Printer
import QueryShapes.Json.Reader

/-!
# Values, answers and schemas as JSON

- `Envelope.toJson`: the single slot of an answer as an array.
- `Schema.ofJson?`: a schema from an object with all of its members once, or from an array of them
  in order. Unknown members do not matter.
-/

namespace QueryShapes

/-! ## Writing -/

/-- JSON has no text for infinities and for what is no number. -/
def Double.toJson (x : Double) : Json :=
  if x.isFinite then .number (Layout.json.write x) else .null

def Value.toJson : Value → Json
  | .null => .null
  | .integer n => .number (toString n.toInt)
  | .decimal x => x.toJson
  | .text s | .date s => .string s
  | .boolean b => .boolean b

def Row.toJson (row : Row) : Json := .object (row.fields.map fun (name, value) => (name, value.toJson))

def Acknowledgment.toJson (ack : Acknowledgment) : Json :=
  .object [("affectedRows", .number (toString ack.affectedRows)), ("insertId", .string ack.insertId)]

def Envelope.toJson : Envelope → Json
  | .rows rs => .array [.array (rs.map Row.toJson)]
  | .acknowledged ack => .array [ack.toJson]

def FieldType.jsonName : FieldType → String
  | .integer => "integer"
  | .decimal => "decimal"
  | .date => "date"
  | .text => "text"
  | .boolean => "boolean"

def KeyRole.jsonName : KeyRole → String
  | .primary => "primary"
  | .foreign => "foreign"
  | .none => "none"

def Field.toJson (field : Field) : Json :=
  .object [("name", .string field.name), ("field_type", .string field.type.jsonName),
    ("nullable", .boolean field.nullable), ("key", .string field.key.jsonName)]

def Schema.toJson (schema : Schema) : Json :=
  .object [("relation", .string schema.relation), ("fields", .array (schema.fields.map Field.toJson))]

/-! ## Reading -/

namespace Json

/-- The members of a record by their names, each of them once, or its elements in order. -/
def record? (names : List String) : Json → Option (List Json)
  | array elements => if elements.length = names.length then some elements else none
  | object members =>
    if (members.map Prod.fst).filter names.contains |>.Nodup then names.mapM (member? members)
    else none
  | _ => none

def text? : Json → Option String
  | string s => some s
  | _ => none

def bool? : Json → Option Bool
  | boolean b => some b
  | _ => none

def elements? : Json → Option (List Json)
  | array elements => some elements
  | _ => none

/-- One of some names: as a string, or as the only member of an object, which is null. -/
def choice? {α : Type} (choices : List (String × α)) : Json → Option α
  | string s => choices.lookup s
  | object [(name, null)] => choices.lookup name
  | _ => none

end Json

def FieldType.ofJson? : Json → Option FieldType :=
  Json.choice? ([FieldType.integer, .decimal, .date, .text, .boolean].map fun t => (t.jsonName, t))

def KeyRole.ofJson? : Json → Option KeyRole :=
  Json.choice? ([KeyRole.primary, .foreign, .none].map fun r => (r.jsonName, r))

def Field.ofJson? (json : Json) : Option Field := do
  match ← json.record? ["name", "field_type", "nullable", "key"] with
  | [name, type, nullable, key] =>
    return ⟨← name.text?, ← FieldType.ofJson? type, ← nullable.bool?, ← KeyRole.ofJson? key⟩
  | _ => none

def Schema.ofJson? (json : Json) : Option Schema := do
  match ← json.record? ["relation", "fields"] with
  | [relation, fields] => return ⟨← relation.text?, ← (← fields.elements?).mapM Field.ofJson?⟩
  | _ => none

/-- The JSON text of a schema. -/
def Schema.jsonText (schema : Schema) : String := schema.toJson.compact

def Schema.ofJsonText? (text : String) : Option Schema := (Json.ofText? text).bind Schema.ofJson?

end QueryShapes
