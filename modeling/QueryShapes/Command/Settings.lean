import QueryShapes.Command.Arguments
import QueryShapes.Output
import QueryShapes.Settings.Configuration
import QueryShapes.Environment.Basic

/-!
# Settings of a run

Arguments win over the configuration file, and the file wins over the environment.

- `Arguments.resolve`: the settings of the pool.
- `Arguments.configPath`, `Arguments.logPath?`: where the files of a run are.
-/

namespace QueryShapes

/-! ## Places -/

namespace Environment

/-- The home directory. -/
def home? (environment : Environment) : Option String := (environment.get? "HOME").filter (! ·.isEmpty)

/-- A directory that a variable names by an absolute path. -/
def directory? (environment : Environment) (name : String) : Option String :=
  (environment.get? name).filter (·.toList.head? == some '/')

def configDirectory? (environment : Environment) : Option String :=
  environment.directory? "XDG_CONFIG_HOME" <|> environment.home?.map fun home => joinPath home ".config"

def stateDirectory? (environment : Environment) : Option String :=
  environment.directory? "XDG_STATE_HOME" <|>
    environment.home?.map fun home => joinPath home ".local/state"

/-- The log file of runs that name none. -/
def logPath (environment : Environment) : String :=
  match environment.stateDirectory? <|> environment.configDirectory? with
  | some directory => joinPath directory "db-sandbox/sandbox.log"
  | none => joinPath ((environment.get? "TMPDIR").getD "/tmp") "sandbox.log"

end Environment

namespace Arguments

def configPath (arguments : Arguments) (environment : Environment) : String :=
  arguments.config.getD (joinPath (environment.configDirectory?.getD ".") "db-sandbox/config.toml")

/-- The file that the log goes to, if it goes to one. -/
def logPath? (arguments : Arguments) (environment : Environment) : Option String :=
  arguments.logFile <|> if arguments.log then some environment.logPath else none

/-! ## Output -/

def outputName (arguments : Arguments) : String := arguments.output.getD "json"

def format (arguments : Arguments) : Except ConfigurationFault OutputFormat :=
  match OutputFormat.ofName? arguments.outputName with
  | some format => .ok format
  | none => .error (.outputFormat arguments.outputName)

/-! ## The pool -/

def portOrDefault (arguments : Arguments) : UInt16 := arguments.port.getD PoolSettings.defaultPort

/-- The settings that the arguments make up. A connection string is taken alone; a port alone makes
up none. -/
def settings? (arguments : Arguments) : Except ConfigurationFault (Option PoolSettings) :=
  match arguments.url with
  | some url => (PoolSettings.ofUrlText? url).map some
  | none =>
    if arguments.host.isSome ∨ arguments.database.isSome ∨ arguments.user.isSome then
      .ok (some { PoolSettings.default with
        host := arguments.host
        port := arguments.portOrDefault
        user := arguments.user
        database := arguments.database })
    else .ok none

/-- The settings of the pool: those of the file with those of the arguments over them, and variables
for what is still unset. -/
def resolve (arguments : Arguments) (configuration : Configuration) (environment : Environment) :
    Except ConfigurationFault PoolSettings := do
  let base ← configuration.resolve arguments.connection
  let own ← arguments.settings?
  return (own.elim base base.merge).withEnvironment environment.get?

end Arguments

end QueryShapes
