import QueryShapes.Failure
import QueryShapes.Number.Reading
import QueryShapes.Url.Basic

/-!
# Pool settings

The settings that a pool is opened with. They are read, layered and shown, and connect to nothing.

- `PoolSettings.ofUrlText?`: the settings of a connection string.
- `ofUrl?_eq_ok_iff`: which URLs make up settings, and what these are.
- `merge_port`: a port wins over another unless it is the default one.
- `merge_merge`: layering is associative.
-/

namespace QueryShapes

structure PoolSettings where
  host : Option String
  port : UInt16
  user : Option String
  password : Option String
  database : Option String
  connectionLimit : UInt32
deriving DecidableEq

namespace PoolSettings

def defaultPort : UInt16 := 3306

def defaultLimit : UInt32 := 10

def default : PoolSettings := ⟨none, defaultPort, none, none, none, defaultLimit⟩

/-! ## Connection strings -/

def port? (text : String) : Option UInt16 := (naturalUpTo? 65535 text).map UInt16.ofNat

def limit? (text : String) : Option UInt32 := (naturalUpTo? 4294967295 text).map UInt32.ofNat

/-- The connection limit of a query, which is the first value under either of its names. -/
def queryLimit? (url : Url) : Except ConfigurationFault UInt32 :=
  match url.queryPairs.find? fun pair => pair.1 = "connectionLimit" ∨ pair.1 = "connection_limit" with
  | some (_, text) => match limit? text with
    | some limit => .ok limit
    | none => .error (.connectionLimit text)
  | none => .ok defaultLimit

/-- A text that is not empty. -/
def nonempty? (text : String) : Option String := if text.isEmpty then none else some text

/-- The database that a path names. -/
def databaseOf? (path : String) : Option String :=
  match path.toList with
  | '/' :: rest => nonempty? (String.ofList rest)
  | _ => none

def ofUrl? (url : Url) : Except ConfigurationFault PoolSettings := do
  if url.scheme ≠ "mysql" then .error (.scheme url.scheme)
  let limit ← queryLimit? url
  return ⟨url.host, (url.port.map UInt16.ofNat).getD defaultPort, nonempty? url.username,
    url.password, databaseOf? url.path, limit⟩

theorem ofUrl?_eq_ok_iff {url : Url} {settings : PoolSettings} :
    ofUrl? url = .ok settings ↔ url.scheme = "mysql" ∧ ∃ limit, queryLimit? url = .ok limit ∧
      settings = ⟨url.host, (url.port.map UInt16.ofNat).getD defaultPort, nonempty? url.username,
        url.password, databaseOf? url.path, limit⟩ := by
  by_cases known : url.scheme = "mysql"
  · cases limit : queryLimit? url <;>
      simp [ofUrl?, known, limit, bind, Except.bind, pure, Except.pure, eq_comm]
  · simp [ofUrl?, known, bind, Except.bind]

/-- The settings of a connection string. User, password and database stay as they are encoded. -/
def ofUrlText? (text : String) : Except ConfigurationFault PoolSettings :=
  match Url.ofText? text with
  | .ok url => ofUrl? url
  | .error fault => .error (.connectionString fault)

/-! ## Layers -/

/-- The settings with all that another layer sets. A layer sets no port and no limit where these
have their default values. -/
def merge (base layer : PoolSettings) : PoolSettings where
  host := layer.host <|> base.host
  port := if layer.port = defaultPort then base.port else layer.port
  user := layer.user <|> base.user
  password := layer.password <|> base.password
  database := layer.database <|> base.database
  connectionLimit :=
    if layer.connectionLimit = defaultLimit then base.connectionLimit else layer.connectionLimit

/-- The settings with variables of the environment for what is unset. -/
def withEnvironment (lookup : String → Option String) (base : PoolSettings) : PoolSettings where
  host := base.host <|> lookup "MYSQL_HOST"
  port :=
    if base.port = defaultPort then ((lookup "MYSQL_TCP_PORT").bind port?).getD base.port
    else base.port
  user := base.user <|> lookup "MYSQL_USER"
  password := base.password <|> lookup "MYSQL_PWD"
  database := base.database <|> lookup "MYSQL_DATABASE"
  connectionLimit := base.connectionLimit

/-- The settings as they are shown, without the password. -/
def summary (settings : PoolSettings) : String :=
  settings.database.getD "unknown" ++ " @ " ++ settings.host.getD "localhost" ++ ":" ++
    toString settings.port.toNat

theorem merge_port (base layer : PoolSettings) (h : layer.port ≠ defaultPort) :
    (base.merge layer).port = layer.port := by
  simp [merge, h]

theorem merge_default (base : PoolSettings) : base.merge default = base := by
  simp [merge, default]

theorem merge_merge (a b c : PoolSettings) : (a.merge b).merge c = a.merge (b.merge c) := by
  have port : ∀ x y : UInt16, (if (if y = defaultPort then x else y) = defaultPort then a.port
      else if y = defaultPort then x else y) =
      if y = defaultPort then (if x = defaultPort then a.port else x) else y := by
    intro x y; split <;> simp_all
  have limit : ∀ x y : UInt32, (if (if y = defaultLimit then x else y) = defaultLimit then
      a.connectionLimit else if y = defaultLimit then x else y) =
      if y = defaultLimit then (if x = defaultLimit then a.connectionLimit else x) else y := by
    intro x y; split <;> simp_all
  simp [merge, port, limit, Option.or_assoc]

end PoolSettings

end QueryShapes
