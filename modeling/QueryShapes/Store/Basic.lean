import QueryShapes.Store.Relation

/-!
# Stores

A store is the fixed list of relations that queries read. Nothing changes a store.

- `Store.ofRelations`: names are unique and every relation passes `Relation.check`.
-/

namespace QueryShapes

structure Store where
  relations : List Relation

namespace Store

/-- Checks relations in order, given the names before them. -/
def checkAfter (seen : List String) : List Relation → Except Fault Unit
  | [] => .ok ()
  | relation :: rest =>
    if relation.name ∈ seen then .error (.duplicateRelation relation.name)
    else do
      relation.check
      checkAfter (relation.name :: seen) rest

/-- The store that holds the given relations in the given order. -/
def ofRelations (relations : List Relation) : Except Fault Store := do
  checkAfter [] relations
  return ⟨relations⟩

def names (store : Store) : List String := store.relations.map (·.name)

def size (store : Store) : Nat := store.relations.length

def isEmpty (store : Store) : Bool := store.relations.isEmpty

/-- The relation of exactly this name. -/
def relation? (store : Store) (name : String) : Option Relation :=
  store.relations.find? (·.name = name)

def rows? (store : Store) (name : String) : Option (List Row) :=
  (store.relation? name).map (·.rows)

/-- The schema of a relation; an unknown one has no fields. -/
def schemaOf (store : Store) (name : String) : Schema :=
  ((store.relation? name).map Relation.schema).getD (.empty name)

end Store

end QueryShapes
