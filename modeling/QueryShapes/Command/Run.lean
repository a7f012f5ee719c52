import QueryShapes.Command.Session
import QueryShapes.Command.Settings
import QueryShapes.Log
import QueryShapes.Environment.File

/-!
# Runs of the command

A run reads its arguments and its configuration file, opens a pool, and answers one statement or
those of its input.

- `Setup.ofArguments`: the pool of a run and what is logged on the way to it.
- `Outcome.ofReplies`: what replies print.
- `Surroundings.run`: a whole run, from its surroundings to what it prints and leaves behind.
-/

namespace QueryShapes

def versionText : String := "sandbox 0.1.0"

def helpText : String := "\n".intercalate [
  "Runs SQL against an in-memory sample database.",
  "",
  "Usage: sandbox [OPTIONS] [SQL]",
  "",
  "Without SQL, statements are read from the standard input, one a line.",
  "",
  "      --url <URL>            MySQL connection string",
  "  -H, --host <HOST>          Database host",
  "  -p, --port <PORT>          Database port [default: 3306]",
  "  -d, --database <DATABASE>  Database name",
  "  -U, --user <USER>          Database user",
  "  -c, --connection <NAME>    Named connection of the configuration file",
  "      --config <PATH>        Path of the configuration file",
  "      --output <FORMAT>      json or text [default: json]",
  "      --pretty               Spread JSON over lines",
  "      --log                  Log to the default file",
  "      --log-file <PATH>      Log to a file",
  "  -h, --help                 Print help",
  "  -V, --version              Print version"]

/-- What is printed in place of a run, and what is complained about. -/
def Stop.texts : Stop → List String × List String
  | help => ([helpText], [])
  | version => ([versionText], [])
  | unknownArgument text => ([], ["error: unexpected argument '" ++ text ++ "' found"])
  | missingValue _ => ([], ["error: a value is required for an option but none was supplied"])
  | invalidValue _ text => ([], ["error: invalid value '" ++ text ++ "'"])
  | givenTwice => ([], ["error: an argument cannot be used multiple times"])
  | unexpectedValue text => ([], ["error: unexpected value '" ++ text ++ "' found"])

/-! ## Setting up -/

/-- A pool and how its answers are printed. -/
structure Setup where
  pool : Pool
  printing : Printing

def LogRecord.failure (failure : Failure) : LogRecord := ⟨.error, failure.line⟩

/-- The setup that arguments ask for, given the configuration file, and the records on the way. -/
def Setup.ofArguments (arguments : Arguments) (environment : Environment) (file : FileState) :
    Except Failure Setup × List LogRecord :=
  match arguments.format with
  | .error fault => (.error (.configuration fault), [])
  | .ok format =>
    let path := arguments.configPath environment
    let loading : LogRecord := ⟨.info, "Loading config from: " ++ path⟩
    match (Configuration.load path file).bind fun c => arguments.resolve c environment with
    | .error fault => (.error (.configuration fault), [loading])
    | .ok settings =>
      (.ok ⟨.create settings, format, arguments.pretty⟩,
        [loading, ⟨.info, "Pool: " ++ settings.summary⟩])

/-! ## Outcomes -/

/-- What a run has printed, complained about and logged, and how it has ended. -/
structure Outcome where
  exitCode : UInt32
  /-- Texts on the standard output, each with the end of a line after it. -/
  output : List String
  complaints : List String
  log : List LogRecord
deriving DecidableEq

namespace Outcome

def ofStop (stop : Stop) : Outcome :=
  let (output, complaints) := stop.texts
  ⟨stop.exitCode, output, complaints, []⟩

/-- A run that a failure has ended. -/
def ofFailure (failure : Failure) : Outcome := ⟨1, [], [failure.line], [.failure failure]⟩

/-- A run that goes on after failures. -/
def ofReplies (replies : List (Except Failure String)) : Outcome :=
  let failures := replies.filterMap fun reply => match reply with
    | .error failure => some failure
    | .ok _ => none
  ⟨0, replies.filterMap Except.toOption, failures.map Failure.line, failures.map .failure⟩

/-- The outcome with more logged before it. -/
def logged (outcome : Outcome) (records : List LogRecord) : Outcome :=
  { outcome with log := records ++ outcome.log }

/-- The outcome with complaints about what else the log would have to take. -/
def unlogged (outcome : Outcome) (filter : LogFilter) : Outcome :=
  { outcome with
    complaints := (outcome.log.filter filter.admits).map LogRecord.line ++ outcome.complaints }

/-- The text on the standard output. -/
def outputText (outcome : Outcome) : String :=
  String.join (outcome.output.map fun text => text ++ "\n")

theorem ofReplies_output (replies : List (Except Failure String)) :
    (ofReplies replies).output = replies.filterMap Except.toOption := rfl

end Outcome

/-- The outcome of one statement, or of the statements of the input. -/
def Setup.answer (setup : Setup) (statement : Option String) (input : String)
    (newId : Nat → String) : Outcome :=
  match statement with
  | some text => match setup.pool.reply setup.printing (newId 0) text with
    | .ok answer => .ofReplies [.ok answer]
    | .error failure => .ofFailure failure
  | none => .ofReplies (setup.pool.replies setup.printing newId (statements input))

/-- The outcome of arguments that have been read. -/
def Arguments.run (arguments : Arguments) (environment : Environment) (file : FileState)
    (input : String) (newId : Nat → String) : Outcome :=
  match Setup.ofArguments arguments environment file with
  | (.error failure, records) => (Outcome.ofFailure failure).logged records
  | (.ok setup, records) => (setup.answer arguments.statement input newId).logged records

/-! ## Surroundings -/

/-- Why a log cannot be kept in a file. -/
inductive LogFault
  | directory (fault : FileFault)
  | file (fault : FileFault)
deriving DecidableEq

def LogFault.message : LogFault → String
  | directory fault => "Warning: Could not create log directory: " ++ fault.message
  | file fault => "Warning: Could not create log file: " ++ fault.message

structure Surroundings where
  environment : Environment
  files : FileTree

namespace Surroundings

/-- The variables that a run looks at. -/
def variableNames : List String :=
  ["HOME", "TMPDIR", "XDG_CONFIG_HOME", "XDG_STATE_HOME", "RUST_LOG", "MYSQL_HOST",
    "MYSQL_TCP_PORT", "MYSQL_USER", "MYSQL_PWD", "MYSQL_DATABASE"]

/-- Where a file of variables may be: in this directory or one of those above it. -/
def variablePaths (depth : Nat) : List String :=
  (List.range (depth + 1)).map fun n => String.join (List.replicate n "../") ++ ".env"

/-- The variables with those of the nearest file of variables. -/
def fullEnvironment (surroundings : Surroundings) : Environment :=
  let found := (variablePaths surroundings.files.origin.length).findSome? fun path =>
    (surroundings.files.read path).toOption
  match found.bind Text.Utf8.decode? with
  | some text => surroundings.environment.load (String.ofList text)
  | none => surroundings.environment

/-- Makes an empty log file. -/
def openLog (files : FileTree) (path : String) : Except LogFault FileTree := do
  (files.makeParent path).mapError .directory
  (files.write path []).mapError .file

/-- Fills a log file with the records that pass the filter. -/
def writeLog (files : FileTree) (path : String) (filter : LogFilter) (records : List LogRecord) :
    FileTree :=
  let text := String.join ((records.filter filter.admits).map fun record => record.line ++ "\n")
  match files.write path (Text.Utf8.encode text.toList) with
  | .ok written => written
  | .error _ => files

/-- A run with the given arguments and input, and the files after it. What no log file takes is
complained about. -/
def run (surroundings : Surroundings) (texts : List String) (input : String)
    (newId : Nat → String) : Outcome × FileTree :=
  let environment := surroundings.fullEnvironment
  match Arguments.ofList texts with
  | .error stop => (.ofStop stop, surroundings.files)
  | .ok arguments =>
    let filter := LogFilter.ofSetting (environment.get? "RUST_LOG")
    let runOver := fun (files : FileTree) =>
      arguments.run environment (files.read (arguments.configPath environment)) input newId
    match arguments.logPath? environment with
    | none => ((runOver surroundings.files).unlogged filter, surroundings.files)
    | some path => match openLog surroundings.files path with
      | .ok opened =>
        let outcome := runOver opened
        (outcome, writeLog opened path filter outcome.log)
      | .error fault =>
        let outcome := (runOver surroundings.files).unlogged filter
        ({ outcome with complaints := fault.message :: outcome.complaints }, surroundings.files)

end Surroundings

end QueryShapes
