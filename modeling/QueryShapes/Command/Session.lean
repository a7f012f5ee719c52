import QueryShapes.Output
import QueryShapes.Pool

/-!
# Sessions

A session reads statements from a text, one a line, and prints the answer to each. A statement that
fails is reported, and the session goes on.

- `statements`: the statements of a text.
- `Pool.replies`: the reply to each of them.
-/

namespace QueryShapes

/-- How answers are printed. -/
structure Printing where
  format : OutputFormat
  pretty : Bool
deriving DecidableEq

/-- The statement on a line. Empty lines and comments hold none. -/
def statement? (line : List Char) : Option String :=
  match Text.trim line with
  | [] => none
  | '-' :: '-' :: _ => none
  | text => some (String.ofList text)

/-- The statements of a text in order. -/
def statements (input : String) : List String :=
  (Text.splitOn (· == '\n') input.toList).filterMap statement?

namespace Pool

/-- The printed answer to a statement. -/
def reply (pool : Pool) (printing : Printing) (newId text : String) : Except Failure String :=
  (pool.execute newId text []).map (·.render printing.format printing.pretty)

/-- The replies to statements, where `newId n` is the id for the statement at the place `n`. -/
def replies (pool : Pool) (printing : Printing) (newId : Nat → String) (texts : List String) :
    List (Except Failure String) :=
  texts.mapIdx fun n text => pool.reply printing (newId n) text

theorem replies_length (pool : Pool) (printing : Printing) (newId : Nat → String)
    (texts : List String) : (pool.replies printing newId texts).length = texts.length := by
  simp [replies]

end Pool

end QueryShapes
