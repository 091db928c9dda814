import Twilight.Config.Environment
import Twilight.Files.FileSystem
import Twilight.Text.Blank
import Twilight.Window

namespace Twilight

/-!
# Configuration of the daemon

* `Config` — the fields of the configuration file, each of which may be absent.
* `Config.user`, `Config.settingsPath?`, … — the values in effect.
* `Config.validate` — the configurations that the daemon runs with.
* `ConfigError` — why a configuration is refused or cannot be had, as a chain of messages.
-/

/-- The configuration as it is stored. -/
structure Config where
  settingsPath : Option String := none
  parametersPath : Option String := none
  userId : Option Int := none
  debug : Option Bool := none
  watchSettings : Option Bool := none
  monitorSystemEvents : Option Bool := none
  deriving DecidableEq, Repr, Inhabited

/-- Why there is no configuration to run with. -/
inductive ConfigError where
  | noConfigDirectory
  | noStateDirectory
  | noHomeDirectory
  | negativeUser (user : Int)
  | blankPath (field : String)
  | sharedPath (path : String)
  | notFound (path : String)
  | unreadable (path : String) (problem : FileProblem)
  | unparsable (path : String)
  | defaultNotWritten (path : String) (problem : FileProblem)
  | notLoaded (path : String) (cause : ConfigError)
  | directoryAlreadySet
  deriving DecidableEq, Repr

/-- The messages of an error, the outermost first. -/
def ConfigError.chain : ConfigError → List String
  | .noConfigDirectory => ["Could not determine config directory"]
  | .noStateDirectory => ["Could not determine a state directory"]
  | .noHomeDirectory => ["Could not determine home directory"]
  | .negativeUser user => [s!"user_id must be zero or greater (got {user})"]
  | .blankPath field => [s!"{field} must not be empty"]
  | .sharedPath path => [s!"settings_path and parameters_path must differ (both are {path})"]
  | .notFound path => [s!"Configuration file not found at {path}"]
  | .unreadable path problem => [s!"Failed to read config from {path}", problem.message]
  | .unparsable path => [s!"Failed to parse config from {path}", "TOML parse error"]
  | .defaultNotWritten path problem =>
    ["Failed to create default config during load", s!"Failed to write default config to {path}",
      problem.message]
  | .notLoaded path cause => s!"Failed to load configuration from {path}" :: cause.chain
  | .directoryAlreadySet => ["Configuration directory already set"]

namespace Config

/-- The name of the configuration file. -/
def fileName : String := "appearanced.toml"

/-! ### Values in effect -/

/-- The user whose settings are observed at startup. -/
def user (c : Config) : UserId := c.userId.getD 0

def debugEnabled (c : Config) : Bool := c.debug.getD false

def watchesSettings (c : Config) : Bool := c.watchSettings.getD true

def monitorsSystemEvents (c : Config) : Bool := c.monitorSystemEvents.getD true

/-- A path with `~/` at its front taken from the home directory. -/
def expandHome (env : Environment) (path : String) : Except ConfigError String :=
  match path.toList with
  | '~' :: '/' :: rest =>
    match env.homeDirectory? with
    | some home => .ok (Path.join home (String.ofList rest))
    | none => .error .noHomeDirectory
  | _ => .ok path

/-- A configured path, or a file of the daemon's own in the directory for state. -/
def stateFile (env : Environment) (configured : Option String) (name : String) :
    Except ConfigError String :=
  match configured with
  | some path => expandHome env path
  | none =>
    match env.stateDirectory? with
    | some dir => .ok (Path.join (Path.join dir "appearanced") name)
    | none => .error .noStateDirectory

/-- Where the settings of all users are stored. -/
def settingsPath? (c : Config) (env : Environment) : Except ConfigError String :=
  stateFile env c.settingsPath "settings.toml"

/-- Where the persisted parameters are stored. -/
def parametersPath? (c : Config) (env : Environment) : Except ConfigError String :=
  stateFile env c.parametersPath "parameters.toml"

/-! ### Validation -/

/-- Whether a configured path is there and blank. -/
def isBlankPath (path : Option String) : Bool :=
  match path with
  | some p => (Text.trim p.toList).isEmpty
  | none => false

/-- Refuse what the daemon cannot run with: a negative user, a blank path, and one path for both
    stores, each of which rewrites its whole file. -/
def validate (c : Config) : Except ConfigError Unit :=
  if c.userId.any (· < 0) then .error (.negativeUser c.user)
  else if isBlankPath c.settingsPath then .error (.blankPath "settings_path")
  else if isBlankPath c.parametersPath then .error (.blankPath "parameters_path")
  else
    match c.settingsPath, c.parametersPath with
    | some settings, some parameters =>
      if settings = parameters then .error (.sharedPath settings) else .ok ()
    | _, _ => .ok ()

/-- The path of the configuration file: in the directory given, else in the user's. -/
def path? (env : Environment) (custom : Option String) : Except ConfigError String :=
  match custom with
  | some dir => .ok (Path.join dir fileName)
  | none =>
    match env.configDirectory? with
    | some dir => .ok (Path.join (Path.join dir "appearanced") fileName)
    | none => .error .noConfigDirectory

end Config

end Twilight
