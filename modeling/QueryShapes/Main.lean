import QueryShapes.Command.Run
import QueryShapes.Uuid

/-!
# The command

The outer layer of the command: it reads the environment, files and the standard input, and prints.
-/

namespace QueryShapes.Console

/-! ## Files -/

def fileFault (error : IO.Error) : FileFault :=
  match error with
  | .noFileOrDirectory .. => .missing
  | .alreadyExists .. => .taken
  | .inappropriateType _ code _ => if code = 20 then .notDirectory else .isDirectory
  | _ => .denied

def readFile (path : String) : IO FileState := do
  try return .ok (← IO.FS.readBinFile path).toList
  catch error => return .error (fileFault error)

/-- The text of the first path that can be read. -/
def firstText? : List String → IO (Option String)
  | [] => return none
  | path :: rest => do
    match ← readFile path with
    | .ok bytes => return (Text.Utf8.decode? bytes).map String.ofList
    | .error _ => firstText? rest

/-! ## Variables -/

def readEnvironment : IO Environment := do
  let depth := ((← IO.currentDir).toString.toList.filter (· == '/')).length
  let file ← firstText? (Surroundings.variablePaths depth)
  let mentioned := (file.map fun text => VariableFile.mentioned text.toList).getD []
  let mut environment : Environment := []
  for name in Surroundings.variableNames ++ mentioned do
    if let some value ← IO.getEnv name then
      environment := environment.setDefault name value
  return (file.map environment.load).getD environment

/-! ## Logs -/

abbrev Logger := LogRecord → IO Unit

def loggerTo (stream : IO.FS.Stream) (filter : LogFilter) : Logger := fun record => do
  if filter.admits record then
    stream.putStrLn record.line
    stream.flush

def openLog (path : String) : IO (Except LogFault IO.FS.Stream) := do
  let parent := parentPath path
  try
    unless parent.isEmpty do IO.FS.createDirAll parent
  catch error => return .error (.directory (fileFault error))
  try return .ok (.ofHandle (← IO.FS.Handle.mk path .write))
  catch error => return .error (.file (fileFault error))

def logger (path : Option String) (filter : LogFilter) : IO Logger := do
  let complaints ← IO.getStderr
  match path with
  | none => return loggerTo complaints filter
  | some path => match ← openLog path with
    | .ok stream => return loggerTo stream filter
    | .error fault =>
      complaints.putStrLn fault.message
      return loggerTo complaints filter

/-! ## Runs -/

def newId : IO String := do
  let bytes ← IO.getRandomBytes 16
  return String.ofList (Uuid.uuid (Vector.ofFn fun i : Fin 16 => bytes.toList.getD i 0))

/-- Prints an outcome and gives its exit code. -/
def announce (log : Logger) (outcome : Outcome) : IO UInt32 := do
  outcome.log.forM log
  outcome.complaints.forM fun text => do (← IO.getStderr).putStrLn text
  let output ← IO.getStdout
  output.putStr outcome.outputText
  output.flush
  return outcome.exitCode

/-- The next line, unless the input has ended or is no text. -/
def nextLine? (input : IO.FS.Stream) : IO (Option String) := do
  try
    let line ← input.getLine
    return if line.isEmpty then none else some line
  catch _ => return none

/-- Answers the statements of the input as they come. -/
partial def session (log : Logger) (setup : Setup) (input : IO.FS.Stream) : IO UInt32 := do
  match ← nextLine? input with
  | none => return 0
  | some line =>
    let id ← newId
    let _ ← announce log (setup.answer none line fun _ => id)
    session log setup input

def run (texts : List String) : IO UInt32 := do
  let environment ← readEnvironment
  match Arguments.ofList texts with
  | .error stop => announce (fun _ => return ()) (.ofStop stop)
  | .ok arguments =>
    let filter := LogFilter.ofSetting (environment.get? "RUST_LOG")
    let log ← logger (arguments.logPath? environment) filter
    let file ← readFile (arguments.configPath environment)
    let (setup, records) := Setup.ofArguments arguments environment file
    records.forM log
    match setup, arguments.statement with
    | .error failure, _ => announce log (.ofFailure failure)
    | .ok setup, some text =>
      let id ← newId
      announce log (setup.answer (some text) "" fun _ => id)
    | .ok setup, none => session log setup (← IO.getStdin)

end QueryShapes.Console

def main (texts : List String) : IO UInt32 := QueryShapes.Console.run texts
