import QueryShapes.Fault
import QueryShapes.Schema

/-!
# Relations

A relation is a name and its rows in storage order.

- `Relation.check`: a relation that a store accepts has an `id` in its first row and one set of
  field names throughout.
- `Relation.isOrderedById`: every row's `id` compares below that of the next.
-/

namespace QueryShapes

structure Relation where
  name : String
  rows : List Row

namespace Relation

def size (relation : Relation) : Nat := relation.rows.length

def isEmpty (relation : Relation) : Bool := relation.rows.isEmpty

def schema (relation : Relation) : Schema := .ofRows relation.name relation.rows

/-- The rows' ids compare in ascending order. -/
def idsAscend (a b : Row) : Bool :=
  match a.get? "id", b.get? "id" with
  | some x, some y => x.compare? y == some .lt
  | _, _ => false

/-- Neighbouring rows are related. -/
def neighbours (related : Row → Row → Bool) : List Row → Bool
  | a :: b :: rest => related a b && neighbours related (b :: rest)
  | _ => true

def isOrderedById (relation : Relation) : Bool := neighbours idsAscend relation.rows

/-- The rules that a store asks of each relation. -/
def check (relation : Relation) : Except Fault Unit :=
  match relation.rows with
  | [] => .ok ()
  | first :: _ =>
    if !first.contains "id" then .error (.missingId relation.name)
    else match relation.rows.findIdx? fun row => !row.sameFields first with
      | some position => .error (.fieldMismatch position relation.name)
      | none => .ok ()

end Relation

end QueryShapes
