import QueryShapes.Sql.Grammar.Definition

/-!
# Statements about access

- `Rule.grant`, `Rule.revoke`: who may do what.
- `Rule.lockTables`: tables that others have to wait for.
-/

namespace QueryShapes.Sql.Rule

open Reading

/-! ## Rights -/

/-- What may be done; some of it may be done with some columns only. -/
def action : Rule Unit := do
  match ← keywordOf? ["CONNECT", "CREATE", "DELETE", "EXECUTE", "INSERT", "REFERENCES", "SELECT",
    "TEMPORARY", "TRIGGER", "TRUNCATE", "UPDATE", "USAGE"] with
  | some "INSERT" | some "REFERENCES" | some "SELECT" | some "UPDATE" => namesInParentheses?
  | some _ => return ()
  | none => refuse

/-- What may be done, and with what. -/
def rights : Rule Unit := do
  if ← keyword "ALL" then discard (keyword "PRIVILEGES") else discard (commas action)
  requireKeyword "ON"
  if !(← keywords ["ALL", "TABLES", "IN", "SCHEMA"]) then
    if !(← keywords ["ALL", "SEQUENCES", "IN", "SCHEMA"]) then
      discard (keywordOf? ["SEQUENCE", "SCHEMA", "TABLE"])
  paths

def grantor : Rule Unit := discard (after? (keywords ["GRANTED", "BY"]) name)

/-- What follows `GRANT`. -/
def grant : Rule Unit := do
  rights
  requireKeyword "TO"
  let _ ← commas name
  let _ ← keywords ["WITH", "GRANT", "OPTION"]
  grantor

/-- What follows `REVOKE`. Rights that were passed on are revoked too or keep this one from being
revoked, but not both. -/
def revoke : Rule Unit := do
  rights
  requireKeyword "FROM"
  let _ ← commas name
  grantor
  let cascade ← keyword "CASCADE"
  let restrict ← keyword "RESTRICT"
  if cascade && restrict then refuse

/-! ## Locks -/

/-- A table that is locked, and for what. -/
def lockedTable : Rule Unit := do
  let _ ← name
  let _ ← label? ["READ", "WRITE", "LOW_PRIORITY"]
  if ← keyword "READ" then discard (keyword "LOCAL")
  else
    let _ ← keyword "LOW_PRIORITY"
    requireKeyword "WRITE"

/-- What follows `LOCK TABLES`. -/
def lockTables : Rule Unit := discard (commas lockedTable)

end QueryShapes.Sql.Rule
