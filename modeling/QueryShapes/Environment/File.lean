import QueryShapes.Text.Letter
import QueryShapes.Text.Blank
import QueryShapes.Environment.Basic

/-!
# Files of variables

A file of variables assigns one variable on a line, and a quoted value may go on over several
lines. Values can refer to variables that are set already.

- `valueFrom?`: the value that a text after the equals sign stands for.
- `Environment.load`: the variables with those of a file as defaults.
-/

namespace QueryShapes.VariableFile

/-! ## Lines -/

/-- What a character of a line stands in. -/
inductive LineState
  | plain | blank | escaped | single | singleEscaped | double | doubleEscaped
deriving DecidableEq

def LineState.next : LineState → Char → LineState
  | plain, c | blank, c =>
    if c = '\\' then escaped
    else if c = '"' then double
    else if c = '\'' then single
    else plain
  | escaped, _ => plain
  | single, c => if c = '\\' then singleEscaped else if c = '\'' then plain else single
  | singleEscaped, _ => single
  | double, c => if c = '\\' then doubleEscaped else if c = '"' then plain else double
  | doubleEscaped, _ => double

/-- The state after a character. A blank inside a line counts if no blank stands before it. -/
def LineState.after (state : LineState) (c : Char) : LineState :=
  if state = plain ∧ Text.isBlank c ∧ c ≠ '\n' ∧ c ≠ '\r' then blank else state.next c

/-- A line up to a comment after a blank, and the state at its end if it has no comment. -/
def scanLine : LineState → List Char → List Char × Option LineState
  | state, [] => ([], some state)
  | state, c :: rest =>
    if state = .blank ∧ c = '#' then ([], none)
    else
      let (taken, last) := scanLine (state.after c) rest
      (c :: taken, last)

/-- Lines with the characters that end them. -/
def lines : List Char → List (List Char)
  | [] => []
  | c :: rest =>
    if c = '\n' then [c] :: lines rest
    else match lines rest with
      | [] => [[c]]
      | line :: others => (c :: line) :: others

/-- A line that holds nothing but a comment. -/
def isComment (line : List Char) : Bool := (line.dropWhile Text.isBlank).head? == some '#'

/-- Joins lines as long as a quote is open. A quote that stays open makes the last one malformed,
and so does a blank at the very end of the text. -/
def joinLines (carried : List Char) (state : LineState) :
    List (List Char) → List (Option (List Char))
  | [] => if state = .plain then [] else [none]
  | line :: rest =>
    if isComment (carried ++ line) then some [] :: joinLines [] .plain rest
    else match scanLine state line with
      | (taken, some .plain) | (taken, none) =>
        some (carried ++ taken) :: joinLines [] .plain rest
      | (taken, some unfinished) => joinLines (carried ++ taken) unfinished rest

/-! ## Values -/

/-- What a character of a value stands in. Some of these know whether they lie in double quotes, and
a reference has the name read so far. -/
inductive ValueState
  | plain (quoted : Bool)
  | escaped (quoted : Bool)
  | single
  | reference (quoted : Bool) (name : List Char)
  | braced (quoted : Bool) (name : List Char)
  | ended
  | comment

def isNameChar (c : Char) : Bool := Text.isLetter c || Text.isNumeric c

/-- What a character adds to a value that is not in the middle of something, and the next state. -/
def plainStep (quoted : Bool) (c : Char) : List Char × ValueState :=
  if c = '$' then ([], .reference quoted [])
  else if c = '\\' then ([], .escaped quoted)
  else if c = '"' then ([], .plain (!quoted))
  else if quoted then ([c], .plain true)
  else if c = '\'' then ([], .single)
  else if c = ' ' ∨ c = '\t' then ([], .ended)
  else ([c], .plain false)

/-- The character that a backslash and another stand for. -/
def unescape? (c : Char) : Option Char :=
  if c = 'n' then some '\n'
  else if c ∈ ['\\', '\'', '"', '$', ' '] then some c
  else none

/-- What a character adds to a value, and the next state. The first character that cannot belong to
a name ends a reference and counts as it is, even where it is a quote. -/
def step? (lookup : List Char → List Char) :
    ValueState → Char → Option (List Char × ValueState)
  | .plain quoted, c => some (plainStep quoted c)
  | .escaped quoted, c => (unescape? c).map fun d => ([d], .plain quoted)
  | .single, c => some (if c = '\'' then ([], .plain false) else ([c], .single))
  | .reference quoted name, c =>
    if isNameChar c then some ([], .reference quoted (name ++ [c]))
    else if c = '\x7b' ∧ name = [] then some ([], .braced quoted [])
    else if c = '$' then some (lookup name, .reference quoted [])
    else some (lookup name ++ [c], .plain quoted)
  | .braced quoted name, c =>
    if c = '\x7d' then some (lookup name, .plain quoted)
    else some ([], .braced quoted (name ++ [c]))
  | .ended, c =>
    if c = ' ' ∨ c = '\t' then some ([], .ended)
    else if c = '#' then some ([], .comment)
    else none
  | .comment, _ => some ([], .comment)

/-- What the end of the text adds to a value. -/
def finish? (lookup : List Char → List Char) : ValueState → Option (List Char)
  | .plain false | .escaped false | .ended | .comment => some []
  | .reference false name => some (lookup name)
  | _ => none

def valueFrom? (lookup : List Char → List Char) (state : ValueState) :
    List Char → Option (List Char)
  | [] => finish? lookup state
  | c :: rest => do
    let (added, next) ← step? lookup state c
    return added ++ (← valueFrom? lookup next rest)

/-! ## Assignments -/

def isKeyChar (c : Char) : Bool := c.isAlphanum || c == '_' || c == '.'

/-- The key at the beginning of a text, and the rest. -/
def key? (text : List Char) : Option (List Char × List Char) :=
  if text.head?.any fun c => c.isAlpha || c == '_' then
    some (text.takeWhile isKeyChar, text.dropWhile isKeyChar)
  else none

/-- The text after an equals sign and the blanks around it. -/
def afterEquals? (text : List Char) : Option (List Char) :=
  match text.dropWhile Text.isBlank with
  | '=' :: rest => some (rest.dropWhile Text.isBlank)
  | _ => none

/-- A key and the text of its value. The word `export` may precede a key. -/
def assignment? (text : List Char) : Option (List Char × List Char) := do
  let (key, rest) ← key? text
  match afterEquals? rest with
  | some value => return (key, value)
  | none =>
    if key ≠ "export".toList then none
    else
      let (key, rest) ← key? (rest.dropWhile Text.isBlank)
      return (key, ← afterEquals? rest)

/-- The variable that a line assigns. -/
def lineValue? (lookup : List Char → List Char) (line : List Char) :
    Option (Option (String × String)) := do
  let text := Text.trim line
  if text.isEmpty || isComment text then return none
  let (key, written) ← assignment? text
  let value ← if written.isEmpty || isComment written then some []
    else valueFrom? lookup (.plain false) written
  return some (String.ofList key, String.ofList value)

/-- Sets the variables of lines up to the first malformed one. -/
def setLines (environment : Environment) : List (Option (List Char)) → Environment
  | [] | none :: _ => environment
  | some line :: rest =>
    let lookup := fun name => ((environment.get? (String.ofList name)).getD "").toList
    match lineValue? lookup line with
    | none => environment
    | some none => setLines environment rest
    | some (some (name, value)) => setLines (environment.setDefault name value) rest

/-- The names that a text may mention: its longest runs of name characters, and those of the
characters of keys. -/
def mentioned (text : List Char) : List String :=
  (Text.splitOn (! isNameChar ·) text ++ Text.splitOn (! isKeyChar ·) text).map String.ofList

end VariableFile

/-- The variables with those of a file as defaults. A byte order mark at the head of the file does
not count. -/
def Environment.load (text : String) (environment : Environment) : Environment :=
  let body := match text.toList with
    | '\uFEFF' :: rest => rest
    | all => all
  VariableFile.setLines environment (VariableFile.joinLines [] .plain (VariableFile.lines body))

theorem VariableFile.setLines_get? {environment : Environment} {name kept : String}
    (h : environment.get? name = some kept) (lines : List (Option (List Char))) :
    (VariableFile.setLines environment lines).get? name = some kept := by
  fun_induction VariableFile.setLines environment lines with
  | case1 => exact h
  | case2 => exact h
  | case3 => exact h
  | case4 _ _ _ _ _ ih => exact ih h
  | case5 _ _ _ _ _ _ _ ih => exact ih (Environment.setDefault_get? h _)

theorem Environment.load_get? {environment : Environment} {name kept : String}
    (h : environment.get? name = some kept) (text : String) :
    (environment.load text).get? name = some kept :=
  VariableFile.setLines_get? h _

end QueryShapes
