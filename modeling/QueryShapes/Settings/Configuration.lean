import QueryShapes.Files
import QueryShapes.Settings.Basic
import QueryShapes.Text.Utf8
import QueryShapes.Toml.Document

/-!
# Configuration files

A configuration file is a TOML document with the settings of the pool and named settings to put
over them.

- `Configuration.load`: the configuration of a file; a missing file configures nothing.
- `Configuration.resolve_of_connection`: a named connection is merged into the settings of the pool.
-/

namespace QueryShapes

structure Configuration where
  pool : PoolSettings
  /-- Named settings, each name once. -/
  connections : List (String × PoolSettings)
deriving DecidableEq

namespace Toml

/-! ## Reading settings -/

def Value.text? : Value → Option String
  | string s => some s
  | _ => none

def Value.natural? (bound : Nat) : Value → Option Nat
  | integer n => if 0 ≤ n.toInt ∧ n.toInt.toNat ≤ bound then some n.toInt.toNat else none
  | _ => none

def Value.port? (value : Value) : Option UInt16 := (value.natural? 65535).map UInt16.ofNat

def Value.limit? (value : Value) : Option UInt32 := (value.natural? 4294967295).map UInt32.ofNat

/-- The entries of a table of either kind. -/
def Value.entries? : Value → Option (List (String × Value))
  | table _ entries | closed entries => some entries
  | _ => none

/-- What an entry says, if there is one. An entry of another type is refused. -/
def entry? {α : Type} (read : Value → Option α) (key : String)
    (entries : List (String × Value)) : Option (Option α) :=
  match entries.lookup key with
  | none => some none
  | some value => (read value).map some

/-- Settings from the entries of a table; other entries do not count. -/
def settingsOfEntries? (entries : List (String × Value)) : Option PoolSettings := do
  let host ← entry? Value.text? "host" entries
  let port ← entry? Value.port? "port" entries
  let user ← entry? Value.text? "user" entries
  let password ← entry? Value.text? "password" entries
  let database ← entry? Value.text? "database" entries
  let limit ← entry? Value.limit? "connection_limit" entries
  return ⟨host, port.getD PoolSettings.defaultPort, user, password, database,
    limit.getD PoolSettings.defaultLimit⟩

/-- Settings from the elements of an array: host, port, user, password, database, and perhaps a
connection limit. -/
def settingsOfElements? : List Value → Option PoolSettings
  | host :: port :: user :: password :: database :: rest => do
    let limit ← rest.head?.elim (some PoolSettings.defaultLimit) Value.limit?
    return ⟨some (← host.text?), ← port.port?, some (← user.text?), some (← password.text?),
      some (← database.text?), limit⟩
  | _ => none

def settings? : Value → Option PoolSettings
  | .array elements => settingsOfElements? elements
  | value => value.entries?.bind settingsOfEntries?

end Toml

namespace Configuration

def empty : Configuration := ⟨.default, []⟩

def ofEntries? (entries : List (String × Toml.Value)) : Option Configuration := do
  let pool ← Toml.entry? Toml.settings? "pool" entries
  let named ← Toml.entry? Toml.Value.entries? "connections" entries
  let connections ← (named.getD []).mapM fun (name, value) =>
    (Toml.settings? value).map fun settings => (name, settings)
  return ⟨pool.getD .default, connections⟩

def ofText? (text : String) : Option Configuration := (Toml.ofText? text).bind ofEntries?

/-- The configuration of the file at a path. -/
def load (path : String) (file : FileState) : Except ConfigurationFault Configuration :=
  match file with
  | .error .missing | .error .notDirectory => .ok empty
  | .error fault => .error (.unreadableFile fault.message)
  | .ok bytes => match Text.Utf8.decode? bytes with
    | none => .error (.unreadableFile FileFault.notText.message)
    | some text => match ofText? (String.ofList text) with
      | none => .error (.malformedFile path)
      | some configuration => .ok configuration

/-! ## Connections -/

/-- The names of the connections in order. -/
def names (configuration : Configuration) : List String :=
  (configuration.connections.map (·.1)).mergeSort fun a b => decide (a ≤ b)

/-- The connection of a name; without a name it is the one called `default`. -/
def connection? (configuration : Configuration) (name : Option String) : Option PoolSettings :=
  configuration.connections.lookup (name.getD "default")

/-- The settings of the pool with the named connection over them. Only a name that was asked for
has to be there. -/
def resolve (configuration : Configuration) (name : Option String) :
    Except ConfigurationFault PoolSettings :=
  match configuration.connection? name, name with
  | some named, _ => .ok (configuration.pool.merge named)
  | none, some unknown => .error (.unknownConnection unknown)
  | none, none => .ok configuration.pool

theorem resolve_of_connection {configuration : Configuration} {name : Option String}
    {named : PoolSettings} (h : configuration.connection? name = some named) :
    configuration.resolve name = .ok (configuration.pool.merge named) := by
  simp [resolve, h]

end Configuration

end QueryShapes
