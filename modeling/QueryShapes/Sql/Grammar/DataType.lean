import QueryShapes.Sql.Grammar.Rule

/-!
# Types in SQL

Types occur in casts, in definitions of columns and in front of literals such as
`DATE '2020-01-01'`. Nothing is computed with them, so a type is read as its normal form.

- `Rule.dataType`: a type that is known, or any other name with its modifiers.
-/

namespace QueryShapes.Sql

/-- How much is known of a type: the type of intervals starts a form of its own, and a custom type
is no more than a name. -/
inductive TypeKind
  | known | interval | custom
deriving DecidableEq

structure DataType where
  kind : TypeKind
  text : String

/-- What may stand in parentheses after the name of a type. -/
inductive TypeArguments
  | none
  | precision
  | length
  | scale
  | choices
  /-- One number, which must be there. -/
  | size
  /-- A precision, which must be there, and a time zone. -/
  | precisionAndZone

/-- The types that are not written in capitals. -/
def mixedCaseTypes : List String :=
  ["Int16", "Int32", "Int128", "Int256", "UInt8", "UInt16", "UInt32", "UInt64", "UInt128", "UInt256",
    "Float32", "Date32", "FixedString", "DateTime64"]

/-- The types with their arguments; a name may be followed by further words of the type's name. -/
def knownTypes : List (TypeArguments × List String) :=
  [(.none, ["BOOLEAN", "BOOL", "REAL", "FLOAT4", "FLOAT8", "FLOAT32", "FLOAT64", "INT16", "INT32",
      "INT64", "INT128", "INT256", "UINT8", "UINT16", "UINT32", "UINT64", "UINT128", "UINT256", "UUID",
      "DATE", "DATE32", "DOUBLE", "JSON", "JSONB", "REGCLASS", "TEXT", "BYTEA", "TRIGGER",
      "INTERVAL"]),
    (.precision, ["FLOAT", "TINYINT", "INT2", "SMALLINT", "MEDIUMINT", "INT", "INT4", "INT8",
      "INTEGER", "BIGINT", "CLOB", "BINARY", "VARBINARY", "BLOB", "BYTES", "DATETIME", "STRING",
      "TIMESTAMP", "TIMESTAMPTZ", "TIME", "TIMETZ"]),
    (.length, ["VARCHAR", "NVARCHAR", "CHAR", "CHARACTER"]),
    (.scale, ["NUMERIC", "DECIMAL", "DEC", "BIGNUMERIC", "BIGDECIMAL"]),
    (.choices, ["ENUM", "SET"]),
    (.size, ["FIXEDSTRING"]),
    (.precisionAndZone, ["DATETIME64"])]

def typeArguments? (word : String) : Option TypeArguments :=
  (knownTypes.find? fun entry => entry.2.contains word).map Prod.fst

/-- A type's name as it is written. -/
def typeName (word : String) : String := (mixedCaseTypes.find? (upper · == word)).getD word

/-- The types that may be unsigned. -/
def integerTypes : List String :=
  ["TINYINT", "INT2", "SMALLINT", "MEDIUMINT", "INT", "INT4", "INT8", "INTEGER", "BIGINT"]

namespace Rule

open Reading

/-! ## Arguments -/

/-- An item in parentheses where an opening one stands. -/
def inParentheses? (item : Rule String) : Rule String := do
  if ← symbol "(" then
    let text ← item
    requireSymbol ")"
    return "(" ++ text ++ ")"
  else return ""

def characterLength : Rule String := do
  if ← keyword "MAX" then return "MAX"
  let length ← wholeNumber
  match ← keywordOf? ["CHARACTERS", "OCTETS"] with
  | some unit => return length ++ " " ++ unit
  | none => return length

def precisionAndScale : Rule String := do
  let precision ← wholeNumber
  if ← symbol "," then return precision ++ "," ++ (← wholeNumber) else return precision

def choice : Rule String := do
  match ← next with
  | .string '\'' text => return quoted '\'' text
  | _ => refuse

def precisionAndZone : Rule String := do
  let precision ← wholeNumber
  if ← symbol "," then return precision ++ ", '" ++ (← literalText) ++ "'" else return precision

def typeArguments : TypeArguments → Rule String
  | .none => return ""
  | .precision => inParentheses? wholeNumber
  | .length => inParentheses? characterLength
  | .scale => inParentheses? precisionAndScale
  | .choices => return "(" ++ commaSeparated (← parenthesized (commas choice)) ++ ")"
  | .size => return "(" ++ (← parenthesized wholeNumber) ++ ")"
  | .precisionAndZone => return "(" ++ (← parenthesized precisionAndZone) ++ ")"

/-- The time zone that a time is given with. -/
def timeZone : Rule String := do
  if ← keyword "WITH" then
    requireKeywords ["TIME", "ZONE"]
    return " WITH TIME ZONE"
  else if ← keyword "WITHOUT" then
    requireKeywords ["TIME", "ZONE"]
    return " WITHOUT TIME ZONE"
  else return ""

/-! ## Known types -/

/-- What follows the name of a character type. -/
def characterRest : Rule String := do
  if ← keyword "VARYING" then return " VARYING" ++ (← typeArguments .length)
  else if ← keywords ["LARGE", "OBJECT"] then
    return " LARGE OBJECT" ++ (← typeArguments .precision)
  else typeArguments .length

/-- What follows the name of a known type. -/
def typeRest (word : String) (arguments : TypeArguments) : Rule String := do
  match word with
  | "DOUBLE" => return if ← keyword "PRECISION" then " PRECISION" else ""
  | "CHAR" | "CHARACTER" => characterRest
  | "TIME" | "TIMESTAMP" => return (← typeArguments arguments) ++ (← timeZone)
  | _ =>
    let text ← typeArguments arguments
    let unsigned ← if integerTypes.contains word then keyword "UNSIGNED" else pure false
    return text ++ (if unsigned then " UNSIGNED" else "")

/-! ## Custom types -/

/-- The modifiers of a custom type after their opening parenthesis. The commas between them count for
nothing. -/
def typeModifiers : Rule (List String) := do
  let modifiers ← repeated do
    match ← next with
    | .word n => return some [String.ofList (n.quote.toList ++ n.text.toList ++ n.quote.toList)]
    | .number text _ => return some [text]
    | .string '\'' text => return some [text]
    | .symbol "," => return some []
    | .symbol ")" => return none
    | _ => refuse
  return modifiers.flatten

def customType : Rule String := do
  let name := renderPath (← path)
  let modifiers ← if ← symbol "(" then typeModifiers else pure []
  return if modifiers.isEmpty then name else name ++ "(" ++ commaSeparated modifiers ++ ")"

/-! ## Any type -/

/-- A type before the brackets that make lists of it. The second part says that a bracket which
closes more than this type has been taken. -/
def plainType (element : Rule (DataType × Bool)) : Rule (DataType × Bool) := do
  match ← peek? with
  | some (.word n) =>
    if n.keyword == "ARRAY" then
      let _ ← next
      requireSymbol "<"
      let (inner, closed) ← element
      let surplus ← if closed then pure false
        else if ← symbol ">>" then pure true
        else do
          requireSymbol ">"
          pure false
      return (⟨.known, "ARRAY<" ++ inner.text ++ ">"⟩, surplus)
    else match typeArguments? n.keyword with
      | some arguments =>
        let _ ← next
        let text := typeName n.keyword ++ (← typeRest n.keyword arguments)
        return (⟨if n.keyword == "INTERVAL" then .interval else .known, text⟩, false)
      | none => return (⟨.custom, ← customType⟩, false)
  | _ => refuse

/-- A type with at most `fuel` types inside each other. -/
def typeWithin : (fuel : Nat) → Rule (DataType × Bool)
  | 0 => refuse
  | fuel + 1 => do
    let (plain, surplus) ← plainType (delayed fun _ => typeWithin fuel)
    let brackets ← repeated (after? (symbol "[") (requireSymbol "]"))
    let listed := brackets.foldl (fun type _ => ⟨.known, type.text ++ "[]"⟩) plain
    return (listed, surplus)

/-- A type; a bracket that closes more than there is to close is refused. -/
def anyType : Rule DataType := do
  let (type, surplus) ← sized fun length => typeWithin (length + 1)
  if surplus then refuse else return type

/-- A type in normal form. -/
def dataType : Rule String := return (← anyType).text

end Rule

end QueryShapes.Sql
