import QueryShapes.Command.Settings
import QueryShapes.Proofs.Success

/-!
# Settings given by arguments

- `Arguments.given`: host, port, user and database as the arguments give them, by a URL or by
  options of their own.
- `Arguments.settings?_given`: the layer that the arguments make up shows what is given, except that
  it has the default port where no port is given.
- `PoolSettings.layered_port`: a layer with the default port leaves the choice of the port to the
  file and to the environment.
- `Arguments.resolve_keeps_given_iff`: so a run keeps what is given, unless that is the default port
  or nothing but a port.
-/

namespace QueryShapes

/-! ## What is given -/

/-- Settings that may be given. -/
structure GivenSettings where
  host : Option String
  port : Option UInt16
  user : Option String
  database : Option String

namespace GivenSettings

def nothing : GivenSettings := ⟨none, none, none, none⟩

/-- The parts that a connection string has. -/
def ofUrl (url : Url) : GivenSettings where
  host := url.host
  port := url.port.map UInt16.ofNat
  user := PoolSettings.nonempty? url.username
  database := PoolSettings.databaseOf? url.path

/-- Host, user and database are as they are given. -/
structure NamesKeptBy (given : GivenSettings) (settings : PoolSettings) : Prop where
  host : ∀ name, given.host = some name → settings.host = some name
  user : ∀ name, given.user = some name → settings.user = some name
  database : ∀ name, given.database = some name → settings.database = some name

/-- All that is given is in the settings. -/
structure KeptBy (given : GivenSettings) (settings : PoolSettings) : Prop extends
    NamesKeptBy given settings where
  port : ∀ number, given.port = some number → settings.port = number

/-- Where the names are kept it is the port that matters. -/
theorem keptBy_iff {given : GivenSettings} {settings : PoolSettings} {told : UInt16 → Prop}
    (names : given.NamesKeptBy settings)
    (port : ∀ number, given.port = some number → (settings.port = number ↔ told number)) :
    given.KeptBy settings ↔ ∀ number, given.port = some number → told number := by
  constructor
  · intro kept number h
    exact (port number h).mp (kept.port number h)
  · intro all
    exact ⟨names, fun number h => (port number h).mpr (all number h)⟩

/-- A layer has what is given, and nothing or the default port where nothing is. -/
structure ShownBy (given : GivenSettings) (layer : PoolSettings) : Prop where
  host : layer.host = given.host
  port : layer.port = given.port.getD PoolSettings.defaultPort
  user : layer.user = given.user
  database : layer.database = given.database

end GivenSettings

namespace Arguments

/-- What the arguments give: by the URL where there is one, and else by options of their own. -/
def given (arguments : Arguments) : GivenSettings :=
  match arguments.url with
  | some text => match Url.ofText? text with
    | .ok url => .ofUrl url
    | .error _ => .nothing
  | none => ⟨arguments.host, arguments.port, arguments.user, arguments.database⟩

/-- The arguments have more than a port. -/
def MakesLayer (arguments : Arguments) : Prop :=
  arguments.url.isSome ∨ arguments.host.isSome ∨ arguments.database.isSome ∨ arguments.user.isSome

/-- A layer tells that this port is given. -/
def TellsPort (arguments : Arguments) (port : UInt16) : Prop :=
  arguments.MakesLayer ∧ port ≠ PoolSettings.defaultPort

end Arguments

/-! ## Layers -/

namespace PoolSettings

theorem shownBy_ofUrl? {url : Url} {layer : PoolSettings} (h : ofUrl? url = .ok layer) :
    (GivenSettings.ofUrl url).ShownBy layer := by
  obtain ⟨_, limit, _, rfl⟩ := ofUrl?_eq_ok_iff.mp h
  exact ⟨rfl, rfl, rfl, rfl⟩

theorem shownBy_ofUrlText? {text : String} {layer : PoolSettings} (h : ofUrlText? text = .ok layer) :
    ∃ url, Url.ofText? text = .ok url ∧ (GivenSettings.ofUrl url).ShownBy layer := by
  unfold ofUrlText? at h
  split at h
  · rename_i url read
    exact ⟨url, read, shownBy_ofUrl? h⟩
  · cases h

section

variable (base layer : PoolSettings) (lookup : String → Option String)

/-- The names that a layer shows win over all that is below it. -/
theorem layered_namesKept {given : GivenSettings} (shown : given.ShownBy layer) :
    given.NamesKeptBy ((base.merge layer).withEnvironment lookup) := by
  constructor
  · intro name h
    simp [withEnvironment, merge, shown.host, h]
  · intro name h
    simp [withEnvironment, merge, shown.user, h]
  · intro name h
    simp [withEnvironment, merge, shown.database, h]

/-- A layer with the default port leaves the port to what is below it and to the variables. -/
theorem layered_port : ((base.merge layer).withEnvironment lookup).port =
    if layer.port = defaultPort then (base.withEnvironment lookup).port else layer.port := by
  by_cases default : layer.port = defaultPort
  · simp [withEnvironment, merge, default]
  · simp [withEnvironment, merge, default]

end

end PoolSettings

/-! ## Resolved settings -/

namespace Arguments

/-- The layer that the arguments make up, or that there is none because no more than a port is
given. -/
theorem settings?_given {arguments : Arguments} {own : Option PoolSettings}
    (h : arguments.settings? = .ok own) :
    (own = none ∧ ¬ arguments.MakesLayer) ∨
      ∃ layer, own = some layer ∧ arguments.MakesLayer ∧ arguments.given.ShownBy layer := by
  unfold settings? at h
  split at h
  · rename_i text url
    obtain ⟨layer, read, rfl⟩ := map_eq_ok_iff.mp h
    obtain ⟨parts, parsed, shown⟩ := PoolSettings.shownBy_ofUrlText? read
    refine .inr ⟨layer, rfl, .inl (by simp [url]), ?_⟩
    rw [given, url]
    dsimp only
    rw [parsed]
    exact shown
  · rename_i url
    split at h
    · rename_i some_name
      obtain rfl := Except.ok.inj h
      refine .inr ⟨_, rfl, .inr some_name, ?_⟩
      rw [given, url]
      exact ⟨rfl, rfl, rfl, rfl⟩
    · rename_i no_name
      refine .inl ⟨(Except.ok.inj h).symm, ?_⟩
      rintro (some_url | some_name)
      · simp [url] at some_url
      · exact no_name some_name

/-- Without a layer nothing but a port is given. -/
theorem namesKept_of_no_layer {arguments : Arguments} (layer : ¬ arguments.MakesLayer)
    (settings : PoolSettings) : arguments.given.NamesKeptBy settings := by
  simp only [MakesLayer, not_or, Option.not_isSome_iff_eq_none] at layer
  obtain ⟨url, host, database, user⟩ := layer
  rw [given, url]
  constructor
  · intro name h
    cases host.symm.trans h
  · intro name h
    cases user.symm.trans h
  · intro name h
    cases database.symm.trans h

theorem resolve_eq_ok {arguments : Arguments} {configuration : Configuration}
    {environment : Environment} {settings : PoolSettings}
    (h : arguments.resolve configuration environment = .ok settings) :
    ∃ base own, configuration.resolve arguments.connection = .ok base ∧
      arguments.settings? = .ok own ∧
      settings = (own.elim base base.merge).withEnvironment environment.get? := by
  obtain ⟨base, found, h⟩ := bind_eq_ok_iff.mp h
  obtain ⟨own, made, h⟩ := bind_eq_ok_iff.mp h
  exact ⟨base, own, found, made, (Except.ok.inj h).symm⟩

/-- Host, user and database that are given are in the settings of a run. A given port is if it is
not the default one and more than a port is given, or else if file and environment come to the same
port. -/
theorem resolve_keeps_given_iff {arguments : Arguments} {configuration : Configuration}
    {environment : Environment} {settings : PoolSettings}
    (resolved : arguments.resolve configuration environment = .ok settings) :
    ∃ base, configuration.resolve arguments.connection = .ok base ∧
      arguments.given.NamesKeptBy settings ∧
      (arguments.given.KeptBy settings ↔ ∀ port, arguments.given.port = some port →
        arguments.TellsPort port ∨ (base.withEnvironment environment.get?).port = port) := by
  obtain ⟨base, own, found, made, rfl⟩ := resolve_eq_ok resolved
  obtain ⟨rfl, alone⟩ | ⟨layer, rfl, more, shown⟩ := settings?_given made
  · have names := namesKept_of_no_layer alone (base.withEnvironment environment.get?)
    refine ⟨base, found, names, GivenSettings.keptBy_iff names ?_⟩
    intro port given
    exact (or_iff_right fun told => alone told.1).symm
  · have names := PoolSettings.layered_namesKept base layer environment.get? shown
    refine ⟨base, found, names, GivenSettings.keptBy_iff names ?_⟩
    intro port given
    have here : layer.port = port := by
      rw [shown.port, given, Option.getD_some]
    change ((base.merge layer).withEnvironment environment.get?).port = port ↔ _
    rw [PoolSettings.layered_port, here]
    by_cases default : port = PoolSettings.defaultPort
    · have untold : ¬ arguments.TellsPort port := fun told => told.2 default
      rw [if_pos default, or_iff_right untold]
    · have told : arguments.TellsPort port := ⟨more, default⟩
      rw [if_neg default]
      exact iff_of_true rfl (.inl told)

/-- A URL gives a port over that of the file, and options beside the URL do not count. -/
theorem resolve_keeps_given_iff_url :
    let arguments : Arguments :=
      { empty with url := some "mysql://ada@db.local:3307/shop", host := some "other" }
    let configuration : Configuration :=
      ⟨{ PoolSettings.default with port := 4000, user := some "root" }, []⟩
    let settings : PoolSettings := ⟨some "db.local", 3307, some "ada", none, some "shop", 10⟩
    arguments.resolve configuration [] = .ok settings ∧
    arguments.given.port = some 3307 ∧
    ∃ base, configuration.resolve none = .ok base ∧
      arguments.given.NamesKeptBy settings ∧
      (arguments.given.KeptBy settings ↔ ∀ port, arguments.given.port = some port →
        arguments.TellsPort port ∨ (base.withEnvironment (Environment.get? [])).port = port) := by
  have resolved : Arguments.resolve
      { empty with url := some "mysql://ada@db.local:3307/shop", host := some "other" }
      ⟨{ PoolSettings.default with port := 4000, user := some "root" }, []⟩ [] =
        .ok ⟨some "db.local", 3307, some "ada", none, some "shop", 10⟩ := by
    rfl
  exact ⟨resolved, by decide, resolve_keeps_given_iff resolved⟩

/-- The default port is given, but the port of the file is taken. -/
theorem default_port_not_kept :
    let arguments : Arguments := { empty with host := some "db.local", port := some 3306 }
    let configuration : Configuration := ⟨{ PoolSettings.default with port := 3307 }, []⟩
    let settings : PoolSettings := ⟨some "db.local", 3307, none, none, none, 10⟩
    Arguments.ofList ["-H", "db.local", "-p", "3306"] = .ok arguments ∧
    Configuration.ofText? "[pool]\nport = 3307\n" = some configuration ∧
    arguments.resolve configuration [] = .ok settings ∧
    ¬ arguments.given.KeptBy settings := by
  refine ⟨rfl, by decide +kernel, rfl, ?_⟩
  intro kept
  have given : (3307 : UInt16) = 3306 := kept.port 3306 rfl
  exact absurd given (by decide)

end Arguments

end QueryShapes
