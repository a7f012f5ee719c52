import QueryShapes.Sql.Grammar.Access
import QueryShapes.Sql.Grammar.Alteration
import QueryShapes.Sql.Grammar.Expr
import QueryShapes.Sql.Grammar.Maintenance
import QueryShapes.Sql.Grammar.Query
import QueryShapes.Sql.Grammar.Session
import QueryShapes.Sql.Grammar.Transfer
import QueryShapes.Sql.Lexer

/-!
# The grammar of statements

- `Rule.statement`: any statement.
- `nesting`: the grammar with its knot tied. Statements, queries and expressions nest down to a given
  depth.
- `statements?`: the statements of a text.
-/

namespace QueryShapes.Sql

namespace Rule

open Reading

/-! ## Texts of several statements -/

/-- The next statement of a text. `END` after a statement ends the text. -/
def statement? (statement : Rule Statement) (separated : Bool) : Rule (Option Statement) := do
  match ← peek? with
  | none => return none
  | some token =>
    if separated then return some (← statement)
    else if token.keyword == "END" then return none
    else refuse

/-- At most `fuel` statements, the first of which needs no separator in front. -/
def statementsWithin (statement : Rule Statement) :
    (fuel : Nat) → (first : Bool) → Rule (List Statement)
  | 0, _ => refuse
  | fuel + 1, first => do
    let separators ← repeated do return if ← symbol ";" then some () else none
    match ← statement? statement (first || !separators.isEmpty) with
    | some s => return s :: (← statementsWithin statement fuel false)
    | none => return []

/-- Statements with separators between them. -/
def statements (statement : Rule Statement) : Rule (List Statement) :=
  sized fun length => statementsWithin statement (length + 1) true

/-! ## Statements other than queries -/

/-- What follows the first word of a statement that lasts no longer than the session. -/
def sessionStatement (g : Nesting) (word : String) : Rule Unit := do
  match word with
  | "SET" => set g
  | "SHOW" => present g
  | "USE" => discard name
  | "START" =>
    requireKeyword "TRANSACTION"
    transactionModes
  | "BEGIN" => begin
  | "COMMIT" | "END" => commit
  | "ROLLBACK" => rollback
  | "SAVEPOINT" => discard name
  | "RELEASE" =>
    let _ ← keyword "SAVEPOINT"
    discard name
  | "DECLARE" => declareCursor g
  | "FETCH" => fetchRows
  | "CLOSE" => closeCursor
  | "PREPARE" => prepare g
  | "EXECUTE" => execute g
  | "DEALLOCATE" =>
    let _ ← keyword "PREPARE"
    discard name
  | "CALL" => callProcedure g
  | _ => refuse

/-- What follows the first word of a statement that changes no rows, or all of a table. -/
def serverStatement (g : Nesting) (word : String) : Rule Unit := do
  match word with
  | "KILL" => kill
  | "FLUSH" => flush
  | "EXPLAIN" | "DESCRIBE" | "DESC" => explain g
  | "ANALYZE" => analyze g
  | "TRUNCATE" => truncate g
  | "ATTACH" => attachDatabase g
  | "MSCK" => checkTable
  | "CACHE" => cacheTable g
  | "UNCACHE" => uncacheTable
  | "DISCARD" => discardKept
  | "PRAGMA" => pragma
  | "ASSERT" => assert g
  | "GRANT" => grant
  | "REVOKE" => revoke
  | "COPY" => copy g
  | "UNLOAD" => unload g
  | _ => sessionStatement g word

/-- A statement other than a query, by its first word. -/
def otherStatement (g : Nesting) : Rule Unit := do
  if ← keywords ["LOCK", "TABLES"] then lockTables
  else if !(← keywords ["UNLOCK", "TABLES"]) then
    match (← next).keyword with
    | "CREATE" => create g (discard (statements g.statement))
    | "ALTER" => alter g
    | "DROP" => drop g
    | "INSERT" | "REPLACE" => discard (insert g)
    | "UPDATE" => discard (update g)
    | "DELETE" => delete g
    | "MERGE" => merge g
    | word => serverStatement g word

/-! ## Any statement -/

def statement (g : Nesting) : Rule Statement := do
  let word ← keywordAhead 0
  if ["SELECT", "WITH", "VALUES"].contains word || (← peek?) == some (.symbol "(") then
    return .query (← g.query)
  else
    otherStatement g
    return .other

end Rule

/-! ## The knot -/

open Reading in
/-- The rules for what stands inside other forms, for at most `fuel` forms inside each other and
`depth` more levels of statements, queries and expressions. -/
def nesting : (fuel depth : Nat) → Nesting
  | 0, _ => ⟨fun _ => refuse, refuse, refuse, refuse, refuse, refuse⟩
  | fuel + 1, depth => {
    operand := fun limit => delayed fun _ => Rule.operand (nesting fuel depth) limit
    length := delayed fun _ => Rule.length (nesting fuel depth)
    expr := delayed fun _ =>
      if depth = 0 then refuse else Rule.operand (nesting fuel (depth - 1)) 0
    query := delayed fun _ =>
      if depth = 0 then refuse else Rule.query (nesting fuel (depth - 1))
    joined := delayed fun _ => Rule.joined (nesting fuel depth)
    statement := delayed fun _ =>
      if depth = 0 then refuse else Rule.statement (nesting fuel (depth - 1)) }

/-- How many statements, queries and expressions may lie inside each other. -/
def depthLimit : Nat := 50

/-- The statements of a text; `none` where the text is not SQL. Two forms at most start at one
token, a statement and the query that it is. -/
def statements? (text : String) : Option (List Statement) := do
  let tokens ← tokens? text
  let grammar := nesting (2 * tokens.length + 2) depthLimit
  let (statements, _) ← (Rule.statements grammar.statement).run? tokens
  return statements

end QueryShapes.Sql
