import QueryShapes.Number.Reading
import QueryShapes.Text.Blank
import QueryShapes.Text.Cut
import QueryShapes.Text.Letter

/-!
# Logs

- `LogDirective.ofText?`: one directive, such as `info` or `sandbox=debug`.
- `LogFilter.ofText?`: a filter from directives with commas between them.
- `LogFilter.admits`: the directive for the longest beginning of the log's name decides.
-/

namespace QueryShapes

inductive LogLevel
  | error | warn | info | debug | trace
deriving DecidableEq

/-- How much a filter has to let through for records of a level to pass. -/
def LogLevel.rank : LogLevel → Nat
  | error => 1
  | warn => 2
  | info => 3
  | debug => 4
  | trace => 5

def LogLevel.name : LogLevel → String
  | error => "ERROR"
  | warn => "WARN"
  | info => "INFO"
  | debug => "DEBUG"
  | trace => "TRACE"

structure LogRecord where
  level : LogLevel
  text : String
deriving DecidableEq

/-- The name that all records have. -/
def LogRecord.target : String := "sandbox"

def LogRecord.line (record : LogRecord) : String :=
  record.level.name ++ " " ++ LogRecord.target ++ ": " ++ record.text

/-! ## Directives -/

/-- Lets records through whose name begins with the target, if there is one, that have all of the
fields, and whose rank is at most `rank`. A narrowed one asks for more than that: for a span around
the record or for values of its fields. -/
structure LogDirective where
  target : Option (List Char) := none
  fields : List (List Char) := []
  narrowed : Bool := false
  rank : Nat := LogLevel.trace.rank
deriving DecidableEq

/-- The rank that a name in any case or a number stands for. -/
def logRank? (text : List Char) : Option Nat :=
  match naturalUpTo? LogLevel.trace.rank (String.ofList text) with
  | some n => some n
  | none =>
    let name := String.ofList (text.map Char.toUpper)
    if name = "OFF" then some 0
    else ([LogLevel.error, .warn, .info, .debug, .trace].find? (·.name = name)).map LogLevel.rank

/-- The part of a directive such as `target[span{field}]=level` that is being read, with the
place where its text begins. -/
inductive LogPart
  | start
  | name (first : Nat)
  | span (first : Nat)
  | field (first : Nat)
  | fields
  | scope
  | level (first : Nat)

namespace LogDirective

/-- A field by its name, which a value may follow. -/
def withField? (d : LogDirective) (field : List Char) : Option LogDirective :=
  match Text.cutAt? (· == '=') field with
  | some (name, _) => some { d with fields := d.fields ++ [name], narrowed := true }
  | none => if field.isEmpty then none else some { d with fields := d.fields ++ [field] }

def startsName (c : Char) : Bool :=
  c == '-' || c == ':' || c == '_' || Text.isLetter c || Text.isNumeric c

/-- What the character at a place makes of a directive. The parts are taken out of `text`. -/
def step? (text : List Char) (place : Nat) (c : Char) :
    LogPart → LogDirective → Option (LogPart × LogDirective)
  | .start, d =>
    if c = '[' then some (.span (place + 1), d)
    else if startsName c then some (.name place, d)
    else none
  | .name first, d =>
    let named := { d with target := some (text.extract first place) }
    if c = '=' then some (.level (place + 1), named)
    else if c = '[' then some (.span (place + 1), named)
    else some (.name first, d)
  | .span first, d =>
    if c = ']' then some (.scope, { d with narrowed := true })
    else if c = '\x7b' then some (.field (place + 1), { d with narrowed := decide (first < place) })
    else some (.span first, d)
  | .field first, d =>
    if c = '\x7d' then (d.withField? (text.extract first place)).map fun d => (.fields, d)
    else some (.field first, d)
  | .fields, d => if c = ']' then some (.scope, d) else none
  | .scope, d => if c = '=' then some (.level (place + 1), d) else none
  | .level first, d => some (.level first, d)

/-- What the end of a directive makes of it. A lone name is a level if it can be. -/
def finish? (text : List Char) : LogPart → LogDirective → Option LogDirective
  | .name first, d =>
    let name := text.drop first
    match logRank? name with
    | some rank => some { d with rank }
    | none => some { d with target := some name }
  | .level first, d =>
    if (text.drop first).isEmpty then some d
    else (logRank? (text.drop first)).map fun rank => { d with rank }
  | .scope, d => some d
  | _, _ => none

/-- Reads on from a place in the text. -/
def readFrom? (text : List Char) (place : Nat) (part : LogPart) (d : LogDirective) :
    List Char → Option LogDirective
  | [] => finish? text part d
  | c :: rest => do
    let (part, d) ← step? text place c part d
    readFrom? text (place + 1) part d rest

/-- Places are counted from the first character that is not blank, but the parts of a directive are
taken out of the text with its blanks. -/
def ofText? (text : List Char) : Option LogDirective :=
  readFrom? text 0 .start {} (Text.trim text)

/-- The fields that all records have. -/
def recordFields : List (List Char) := ["message".toList]

def applies (d : LogDirective) : Bool :=
  !d.narrowed && d.target.all (·.isPrefixOf LogRecord.target.toList) &&
    d.fields.all recordFields.contains

/-- A directive with a longer target, or else with more fields, goes before another. -/
def weight (d : LogDirective) : Nat × Nat :=
  ((d.target.map (·.length + 1)).getD 0, d.fields.length)

/-- At least as much is asked for by the second. -/
def yieldsTo (d e : LogDirective) : Bool :=
  d.weight.1 < e.weight.1 || (d.weight.1 == e.weight.1 && d.weight.2 ≤ e.weight.2)

end LogDirective

/-! ## Filters -/

abbrev LogFilter := List LogDirective

namespace LogFilter

/-- What passes unless something else is asked for. -/
def default : LogFilter := [{ rank := LogLevel.info.rank }]

/-- A filter without directives lets errors through. -/
def ofText? (text : String) : Option LogFilter := do
  let pieces := (Text.splitOn (· == ',') text.toList).filter (! ·.isEmpty)
  let directives ← pieces.mapM LogDirective.ofText?
  return if directives.isEmpty then [{ rank := LogLevel.error.rank }] else directives

/-- The directive that decides: the last of those that apply and yield to no other. -/
def deciding? (filter : LogFilter) : Option LogDirective :=
  (filter.filter LogDirective.applies).foldl
    (fun best d => match best with
      | some b => if b.yieldsTo d then some d else best
      | none => some d)
    none

def admits (filter : LogFilter) (record : LogRecord) : Bool :=
  filter.deciding?.any fun d => record.level.rank ≤ d.rank

/-- The filter that the environment asks for. -/
def ofSetting (setting : Option String) : LogFilter := (setting.bind ofText?).getD default

end LogFilter

end QueryShapes
