import QueryShapes.Number.Double

/-!
# TOML values

A document is built from its lines: assignments, table headers and headers of array elements. What
a table may still be given depends on how it came to be.

- `Value.ofAssignments?`: an inline table.
- `build?`: the table of a whole document; `none` where something is defined twice.
-/

namespace QueryShapes.Toml

/-- How a table came to be: by a header of its own, by a header further down, or by a key with
dots. -/
inductive Origin
  | header | implied | dotted
deriving DecidableEq

inductive Value
  | string (s : String)
  | integer (n : Int64)
  | float (x : Double)
  | boolean (b : Bool)
  /-- A date, a time or both, as written. -/
  | moment (text : String)
  | array (elements : List Value)
  /-- A table in braces, which nothing can be added to. -/
  | closed (entries : List (String × Value))
  | table (origin : Origin) (entries : List (String × Value))
  /-- An array of tables, each with a header of its own. -/
  | tables (elements : List (List (String × Value)))

/-- A table and how it came to be. -/
abbrev Table := Origin × List (String × Value)

/-- The entries with one set, in place or at the end. -/
def setEntry (key : String) (value : Value) :
    List (String × Value) → List (String × Value)
  | [] => [(key, value)]
  | (k, v) :: rest => if k = key then (k, value) :: rest else (k, v) :: setEntry key value rest

/-! ## Definitions -/

/-- Changes the table at a path. Tables on the way are made where they are missing, and of an array
of tables the last one counts. A key with dots does not lead into a table with its own header. -/
def within? (dotted : Bool) (change : Table → Option Table) : List String → Table → Option Table
  | [], table => change table
  | key :: path, (origin, entries) => do
    let child ← match entries.lookup key with
      | none =>
        (within? dotted change path (if dotted then .dotted else .implied, [])).map
          fun (o, es) => Value.table o es
      | some (.table o es) =>
        if dotted ∧ o = .header then none
        else (within? dotted change path (o, es)).map fun (o, es) => Value.table o es
      | some (.tables elements) =>
        elements.getLast?.bind fun last =>
          (within? dotted change path (.header, last)).map fun (_, es) =>
            Value.tables (elements.dropLast ++ [es])
      | some _ => none
    return (origin, setEntry key child entries)

/-- Adds an entry that is not there yet. -/
def add? (key : String) (value : Value) (table : Table) : Option Table :=
  if (table.2.lookup key).isSome then none else some (table.1, setEntry key value table.2)

/-- Assigns to a path of keys. The last of several belongs to a table made by such a path. -/
def assign? (path : List String) (value : Value) (table : Table) : Option Table := do
  let key ← path.getLast?
  let change := fun (inner : Table) =>
    if path.length > 1 ∧ inner.1 ≠ .dotted then none else add? key value inner
  within? true change path.dropLast table

/-- Opens a table by its header. -/
def openTable? (path : List String) (table : Table) : Option Table := do
  let key ← path.getLast?
  let change := fun (parent : Table) => match parent.2.lookup key with
    | none => some (parent.1, setEntry key (.table .header []) parent.2)
    | some (.table .implied entries) =>
      some (parent.1, setEntry key (.table .header entries) parent.2)
    | some _ => none
  within? false change path.dropLast table

/-- Opens a further element of an array of tables. -/
def openElement? (path : List String) (table : Table) : Option Table := do
  let key ← path.getLast?
  let change := fun (parent : Table) => match parent.2.lookup key with
    | none => some (parent.1, setEntry key (.tables [[]]) parent.2)
    | some (.tables elements) =>
      some (parent.1, setEntry key (.tables (elements ++ [[]])) parent.2)
    | some _ => none
  within? false change path.dropLast table

/-- The table in braces with the given assignments. -/
def Value.ofAssignments? (assignments : List (List String × Value)) : Option Value := do
  let (_, entries) ← assignments.foldlM
    (fun (table : Table) (path, value) => assign? path value table) (.header, [])
  return .closed entries

/-! ## Documents -/

inductive Line
  | assignment (path : List String) (value : Value)
  | header (path : List String)
  | element (path : List String)

/-- The document with one more line, where `current` is the path of the open table. -/
def addLine? (state : List String × Table) : Line → Option (List String × Table)
  | .assignment path value => do
    let (current, document) := state
    return (current, ← within? false (assign? path value) current document)
  | .header path => return (path, ← openTable? path state.2)
  | .element path => return (path, ← openElement? path state.2)

/-- The entries of the document that the lines make up. -/
def build? (lines : List Line) : Option (List (String × Value)) := do
  let (_, _, entries) ← lines.foldlM addLine? ([], .header, [])
  return entries

end QueryShapes.Toml
