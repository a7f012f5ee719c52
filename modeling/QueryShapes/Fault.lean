import QueryShapes.Query.Basic

/-!
# Faults of the engine

Every way in which building a store or evaluating a query can fail.
-/

namespace QueryShapes

inductive Fault
  /-- Two relations of a store have one name. -/
  | duplicateRelation (relation : String)
  /-- A relation's first row has no field `id`. -/
  | missingId (relation : String)
  /-- A row's fields are not those of the first row. -/
  | fieldMismatch (position : Nat) (relation : String)
  /-- An aggregate over numbers met something else. -/
  | notNumeric (function : AggregateFunction) (value : Value)
  /-- An aggregate in a query that is evaluated row by row. -/
  | ungroupedAggregate (function : AggregateFunction)
  /-- A shape from outside the library failed. -/
  | reported (text : String)
deriving DecidableEq

def Fault.message : Fault → String
  | duplicateRelation relation => "duplicate relation '" ++ relation ++ "'"
  | missingId relation => "relation '" ++ relation ++ "' has no 'id' field"
  | fieldMismatch position relation =>
    "row " ++ toString position ++ " of relation '" ++ relation ++
      "' does not match the relation's field set"
  | notNumeric function value =>
    function.name ++ "() over non-numeric value '" ++ value.display ++ "'"
  | ungroupedAggregate function => "aggregate " ++ function.name ++ "() outside of a grouped query"
  | reported text => text

end QueryShapes
