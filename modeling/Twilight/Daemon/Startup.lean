import Twilight.Config.Loading
import Twilight.Daemon.Settings

namespace Twilight

/-!
# Starting a daemon

* `Daemon.setConfigDirectory`, `Daemon.loadConfig` — the configuration to run with.
* `Daemon.assemble` — fresh collaborators over the files that a configuration names.
* `Daemon.statusOf` — resolve a user once and describe the result; nothing is applied, and the
  daemon that asks stays as it is.
* `StartError` — why there is nothing to start, as a chain of messages.
-/

/-- Why a daemon could not start. -/
inductive StartError where
  | config (cause : ConfigError)
  | settingsNotOpened (path : String) (cause : Fault)
  | parametersNotOpened (path : String) (cause : Fault)
  | lock (cause : LockProblem)
  | notActivated (user : UserId) (cause : Fault)
  | fault (cause : Fault)
  deriving DecidableEq

/-- The messages of an error, the outermost first. -/
def StartError.chain : StartError → List String
  | .config cause => cause.chain
  | .settingsNotOpened path cause => [s!"Failed to open settings store {path}", cause.message]
  | .parametersNotOpened path cause => [s!"Failed to open parameter store {path}", cause.message]
  | .lock cause => cause.chain
  | .notActivated user cause => [s!"Failed to activate user {user}", cause.message]
  | .fault cause => [cause.message]

namespace Daemon

/-- A daemon with the same surroundings and fresh collaborators. -/
def renewed (d : Daemon) : Daemon where
  zone := d.zone
  clock := d.clock
  journal := d.journal
  environment := d.environment
  configDirectory := d.configDirectory
  files := d.files
  processes := d.processes

/-- Decide on the directory of the configuration file; that can be done once. -/
def setConfigDirectory (directory : Option String) : Act (Except ConfigError Unit) :=
  modifyGet fun d =>
    match d.configDirectory with
    | some _ => (.error .directoryAlreadySet, d)
    | none => (.ok (), { d with configDirectory := some directory })

/-- The directory of the configuration file, if one was given. -/
def customDirectory (d : Daemon) : Option String := d.configDirectory.getD none

/-- Load the configuration; where there is no file, the default one is written first. -/
def loadConfig : Act (Except ConfigError Config) := do
  let d ← get
  let loading := Config.load d.files d.environment d.customDirectory
  set { d with files := loading.files }
  logAll loading.lines
  pure loading.result

/-- Make the timers. -/
def createTimers : Act Unit := debug "Creating timer manager for DarkColorMode"

/-- Open the settings store over a file. -/
def openSettings (path : String) : Act (Except Fault Unit) := do
  match readSettings? (← get).files path with
  | .error f => pure (.error f)
  | .ok reading =>
    warnIgnored reading.ignored
    modifySettings fun s => { s with values := reading.table, file := some path }
    pure (.ok ())

/-- Open the parameters over a file. -/
def openParameters (path : String) : Act (Except Fault Unit) := do
  match Parameters.open? (← get).files path with
  | .error f => pure (.error f)
  | .ok parameters =>
    modifyAppearance fun a => { a with parameters := parameters }
    pure (.ok ())

/-- Open the settings store that a configuration names. -/
def openConfiguredSettings (config : Config) : Act (Except StartError Unit) := do
  match config.settingsPath? (← get).environment with
  | .error e => pure (.error (.config e))
  | .ok path =>
    match ← openSettings path with
    | .ok _ => pure (.ok ())
    | .error f => pure (.error (.settingsNotOpened path f))

/-- Open the parameters that a configuration names. -/
def openConfiguredParameters (config : Config) : Act (Except StartError Unit) := do
  match config.parametersPath? (← get).environment with
  | .error e => pure (.error (.config e))
  | .ok path =>
    match ← openParameters path with
    | .ok _ => pure (.ok ())
    | .error f => pure (.error (.parametersNotOpened path f))

/-- Fresh collaborators over the files that a configuration names. -/
def assemble (config : Config) : Act (Except StartError Unit) := do
  modify renewed
  createTimers
  match ← openConfiguredSettings config with
  | .error e => pure (.error e)
  | .ok _ => openConfiguredParameters config

/-- Let the appearance service apply every status. -/
def connect : Act Unit := install { applies := true, reports := false }

/-! ### Status -/

/-- Resolve the user of an assembled daemon, describe the result, and drop the timers again. -/
def describeUser (user : UserId) : Act (Except StartError Snapshot) := do
  install { applies := false, reports := false }
  if let .error f := ← load .quiet user false then
    debug s!"User {user} does not resolve: {f.message}"
  let snapshot ← dump
  match ← clearAllTimers .quiet with
  | .ok _ => pure (.ok snapshot)
  | .error f => pure (.error (.fault f))

/-- What a daemon with this configuration would make of its user. -/
def statusOf (config : Config) : Act (Except StartError Snapshot) := do
  let outer ← get
  let result ← do
    match ← assemble config with
    | .error e => pure (.error e)
    | .ok _ => describeUser config.user
  modify fun inner => { outer with journal := inner.journal, files := inner.files }
  pure result

end Daemon

end Twilight
