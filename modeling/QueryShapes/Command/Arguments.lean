import QueryShapes.Number.Reading
import QueryShapes.Text.Cut

/-!
# Arguments

The arguments of the command: one statement, options with a value, and flags. They are read from
left to right, and the first fault stops the reading.

- `Arguments.ofList`: the arguments of a list of texts.
- `Arguments.take_given`: no option is given twice.
-/

namespace QueryShapes

/-- The options that take a value. -/
inductive OptionName
  | url | host | port | database | user | connection | config | output | logFile
deriving DecidableEq

inductive FlagName
  | pretty | log | help | version
deriving DecidableEq

inductive Switch
  | option (name : OptionName)
  | flag (name : FlagName)

def Switch.ofLong? (name : List Char) : Option Switch :=
  match String.ofList name with
  | "url" => some (.option .url)
  | "host" => some (.option .host)
  | "port" => some (.option .port)
  | "database" => some (.option .database)
  | "user" => some (.option .user)
  | "connection" => some (.option .connection)
  | "config" => some (.option .config)
  | "output" => some (.option .output)
  | "log-file" => some (.option .logFile)
  | "pretty" => some (.flag .pretty)
  | "log" => some (.flag .log)
  | "help" => some (.flag .help)
  | "version" => some (.flag .version)
  | _ => none

def Switch.ofShort? : Char → Option Switch
  | 'H' => some (.option .host)
  | 'p' => some (.option .port)
  | 'd' => some (.option .database)
  | 'U' => some (.option .user)
  | 'c' => some (.option .connection)
  | 'h' => some (.flag .help)
  | 'V' => some (.flag .version)
  | _ => none

/-- What keeps arguments from being carried out. -/
inductive Stop
  | help
  | version
  | unknownArgument (text : String)
  | missingValue (name : OptionName)
  | invalidValue (name : OptionName) (text : String)
  | givenTwice
  | unexpectedValue (text : String)
deriving DecidableEq

/-- The exit code: a wish to read the help or the version is no fault. -/
def Stop.exitCode : Stop → UInt32
  | help | version => 0
  | _ => 2

/-- What has been given. -/
structure Arguments where
  statement : Option String
  url : Option String
  host : Option String
  port : Option UInt16
  database : Option String
  user : Option String
  connection : Option String
  config : Option String
  output : Option String
  logFile : Option String
  pretty : Bool
  log : Bool
deriving DecidableEq

namespace Arguments

def empty : Arguments :=
  ⟨none, none, none, none, none, none, none, none, none, none, false, false⟩

def isGiven (arguments : Arguments) : OptionName → Bool
  | .url => arguments.url.isSome
  | .host => arguments.host.isSome
  | .port => arguments.port.isSome
  | .database => arguments.database.isSome
  | .user => arguments.user.isSome
  | .connection => arguments.connection.isSome
  | .config => arguments.config.isSome
  | .output => arguments.output.isSome
  | .logFile => arguments.logFile.isSome

/-- The port that a text gives, in decimal digits with an optional sign. -/
def port? (text : String) : Option UInt16 :=
  (int64? text).bind fun n =>
    if 0 ≤ n.toInt ∧ n.toInt ≤ 65535 then some (UInt16.ofNat n.toInt.toNat) else none

/-- A path, which is not empty. -/
def path (name : OptionName) (text : String) : Except Stop (Option String) :=
  if text.isEmpty then .error (.missingValue name) else .ok (some text)

/-- Gives an option a value. -/
def take (arguments : Arguments) (name : OptionName) (text : String) : Except Stop Arguments :=
  if arguments.isGiven name then .error .givenTwice
  else match name with
    | .url => .ok { arguments with url := some text }
    | .host => .ok { arguments with host := some text }
    | .port => match port? text with
      | some port => .ok { arguments with port := some port }
      | none => .error (.invalidValue .port text)
    | .database => .ok { arguments with database := some text }
    | .user => .ok { arguments with user := some text }
    | .connection => .ok { arguments with connection := some text }
    | .config => (path .config text).map fun config => { arguments with config }
    | .output => .ok { arguments with output := some text }
    | .logFile => (path .logFile text).map fun logFile => { arguments with logFile }

def raise (arguments : Arguments) : FlagName → Except Stop Arguments
  | .pretty => if arguments.pretty then .error .givenTwice else .ok { arguments with pretty := true }
  | .log => if arguments.log then .error .givenTwice else .ok { arguments with log := true }
  | .help => .error .help
  | .version => .error .version

theorem take_given {arguments : Arguments} {name : OptionName} (text : String)
    (h : arguments.isGiven name = true) : arguments.take name text = .error .givenTwice := by
  simp [take, h]

end Arguments

/-! ## Reading -/

/-- How far the reading has come. An option that stands apart from its value waits: its value is
judged when something else begins. -/
structure ArgumentReading where
  given : Arguments
  waiting : Option (OptionName × Option String)
  /-- From here on nothing is a switch. -/
  onlyStatements : Bool

namespace ArgumentReading

def start : ArgumentReading := ⟨.empty, none, false⟩

/-- Judges the option that waits. -/
def settle (reading : ArgumentReading) : Except Stop ArgumentReading :=
  match reading.waiting with
  | none => .ok reading
  | some (name, none) => .error (.missingValue name)
  | some (name, some text) =>
    (reading.given.take name text).map fun given => { reading with given, waiting := none }

/-- An option with its value attached, or one whose value is to come. -/
def option (reading : ArgumentReading) (name : OptionName) (attached : Option (List Char)) :
    Except Stop ArgumentReading := do
  let reading ← reading.settle
  match attached with
  | some text =>
    return { reading with given := ← reading.given.take name (String.ofList text) }
  | none => return { reading with waiting := some (name, none) }

def flag (reading : ArgumentReading) (name : FlagName) : Except Stop ArgumentReading := do
  let reading ← reading.settle
  return { reading with given := ← reading.given.raise name }

/-- A switch written out, with the value after its equals sign. -/
def long (reading : ArgumentReading) (text : List Char) : Except Stop ArgumentReading :=
  let (name, attached) := match Text.cutAt? (· == '=') text with
    | some (name, value) => (name, some value)
    | none => (text, none)
  match Switch.ofLong? name, attached with
  | none, _ => .error (.unknownArgument (String.ofList ("--".toList ++ text)))
  | some (.option option), attached => reading.option option attached
  | some (.flag _), some value => .error (.unexpectedValue (String.ofList value))
  | some (.flag flag), none => reading.flag flag

/-- Switches of one letter each. What follows an option is its value. -/
def short (reading : ArgumentReading) : List Char → Except Stop ArgumentReading
  | [] => .ok reading
  | letter :: rest => match Switch.ofShort? letter with
    | none => .error (.unknownArgument (String.ofList ['-', letter]))
    | some (.flag flag) => do (← reading.flag flag).short rest
    | some (.option option) => match rest with
      | [] => reading.option option none
      | '=' :: value => reading.option option (some value)
      | value => reading.option option (some value)

/-- A text that is no switch and no value of an option. There is room for one. -/
def statement (reading : ArgumentReading) (text : String) : Except Stop ArgumentReading :=
  if reading.given.statement.isSome then .error (.unknownArgument text)
  else do
    let reading ← reading.settle
    return { reading with given := { reading.given with statement := some text } }

/-- The value of the option that waits, or else a statement. -/
def plain (reading : ArgumentReading) (text : String) : Except Stop ArgumentReading :=
  match reading.waiting with
  | some (name, none) => .ok { reading with waiting := some (name, some text) }
  | _ => reading.statement text

def step (reading : ArgumentReading) (text : String) : Except Stop ArgumentReading :=
  if reading.onlyStatements then reading.statement text
  else match text.toList with
    | ['-', '-'] => .ok { reading with onlyStatements := true }
    | '-' :: '-' :: rest => reading.long rest
    | ['-'] => reading.plain text
    | '-' :: letters => reading.short letters
    | _ => reading.plain text

end ArgumentReading

/-- The arguments of a list of texts. -/
def Arguments.ofList (texts : List String) : Except Stop Arguments := do
  let reading ← texts.foldlM ArgumentReading.step .start
  return (← reading.settle).given

end QueryShapes
