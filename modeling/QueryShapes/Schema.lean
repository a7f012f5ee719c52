import QueryShapes.Row
import QueryShapes.Text.Date

/-!
# Schemas

The description of a relation's fields, worked out from its first row.

- `FieldType.ofValue`: a number is an integer unless it has a fractional part, and a text of the
  shape of a date is a date.
- `KeyRole.ofName`: `id` is the primary key, and names that end in `_id` are foreign keys.
-/

namespace QueryShapes

inductive FieldType
  | integer | decimal | date | text | boolean
deriving DecidableEq

namespace FieldType

def ofValue : Value → FieldType
  | .integer _ => integer
  | .decimal x => if x.isWhole then integer else decimal
  | .date _ => date
  | .text s => if Text.isDateText s then date else text
  | .boolean _ => boolean
  | .null => text

/-- The type as a structure listing shows it. -/
def sqlName : FieldType → String
  | integer => "int"
  | decimal => "decimal(10,2)"
  | date => "date"
  | text => "varchar(255)"
  | boolean => "tinyint(1)"

end FieldType

inductive KeyRole
  | primary | foreign | none
deriving DecidableEq

namespace KeyRole

/-- The name refers to another relation by its id. -/
def isForeignName (name : String) : Bool := "_id".toList.isSuffixOf name.toList

def ofName (name : String) : KeyRole :=
  if name = "id" then primary else if isForeignName name then foreign else none

/-- The role as a structure listing shows it. -/
def marker : KeyRole → String
  | primary => "PRI"
  | foreign => "MUL"
  | none => ""

end KeyRole

structure Field where
  name : String
  type : FieldType
  nullable : Bool
  key : KeyRole
deriving DecidableEq

namespace Field

/-- The field of a name with a sample value. -/
def ofSample (name : String) (sample : Value) : Field :=
  let key := KeyRole.ofName name
  ⟨name, .ofValue sample, key != .primary, key⟩

/-- The field's line in a structure listing. -/
def toRow (field : Field) : Row :=
  .ofList [
    ("Field", .text field.name),
    ("Type", .text field.type.sqlName),
    ("Null", .text (if field.nullable then "YES" else "NO")),
    ("Key", .text field.key.marker)]

end Field

structure Schema where
  relation : String
  fields : List Field
deriving DecidableEq

namespace Schema

def empty (relation : String) : Schema := ⟨relation, []⟩

/-- The schema that a relation's first row shows. -/
def ofRows (relation : String) : List Row → Schema
  | [] => empty relation
  | first :: _ => ⟨relation, first.fields.map fun pair => .ofSample pair.1 pair.2⟩

def isEmpty (schema : Schema) : Bool := schema.fields.isEmpty

def field? (schema : Schema) (name : String) : Option Field :=
  schema.fields.find? (·.name = name)

/-- The structure listing. -/
def toRows (schema : Schema) : List Row := schema.fields.map Field.toRow

end Schema

end QueryShapes
