import Twilight.Config.Basic
import Twilight.Log.Line
import Twilight.Text.Numeral
import Twilight.Toml.Document

namespace Twilight.Config

/-!
# The configuration file

* `defaultText` — the file that is written where there is none.
* `read?` — the configuration that a text describes; fields it does not know do not count.
* `loadFrom`, `load` — a configuration read from a file and validated.
* `logLines` — what the daemon says about the configuration it runs with.
-/

open Toml Log

/-- The configuration file of a first start. -/
def defaultText : String :=
  "#[Settings]\n" ++
  "# settings_path = \"~/.local/state/appearanced/settings.toml\"\n" ++
  "# parameters_path = \"~/.local/state/appearanced/parameters.toml\"\n" ++
  "user_id = 0                  # User whose settings are observed at startup\n" ++
  "\n" ++
  "#[Behaviour]\n" ++
  "debug = false                # Verbose scheduling output\n" ++
  "watch_settings = true        # Pick up external edits of the settings file\n" ++
  "monitor_system_events = true # Re-arm timers after resume and clock changes\n"

/-! ### Reading -/

/-- A field read by `as?`: `none` if its value does not fit, `some none` if it is absent. -/
def field? {α : Type} (as? : Value → Option α) (root : Entries) (name : String) :
    Option (Option α) :=
  match root.get? name with
  | none => some none
  | some value => (as? value).map some

def asText? : Value → Option String
  | .text s => some s
  | _ => none

def asBoolean? : Value → Option Bool
  | .boolean b => some b
  | _ => none

/-- A signed number of 32 bits. -/
def asInt32? : Value → Option Int
  | .integer n =>
    if -(Text.Numeral.int32Max + 1 : Int) ≤ n ∧ n ≤ Text.Numeral.int32Max then some n else none
  | _ => none

/-- The configuration that a text describes. -/
def read? (text : String) : Option Config := do
  let root ← document? text
  return {
    settingsPath := ← field? asText? root "settings_path"
    parametersPath := ← field? asText? root "parameters_path"
    userId := ← field? asInt32? root "user_id"
    debug := ← field? asBoolean? root "debug"
    watchSettings := ← field? asBoolean? root "watch_settings"
    monitorSystemEvents := ← field? asBoolean? root "monitor_system_events" }

/-- The validated configuration of a file. -/
def loadFrom (fs : FileSystem) (path : String) : Except ConfigError Config :=
  if fs.exists? path then
    match fs.readText path with
    | .error problem => .error (.unreadable path problem)
    | .ok text =>
      match read? text with
      | none => .error (.unparsable path)
      | some config =>
        match config.validate with
        | .ok _ => .ok config
        | .error e => .error e
  else .error (.notFound path)

/-- What `load` found and did. -/
structure Loading where
  result : Except ConfigError Config
  files : FileSystem
  lines : List Line := []

/-- The configuration of the file at `path`, with its path around the reason of a failure. -/
def loadOrExplain (fs : FileSystem) (path : String) : Except ConfigError Config :=
  match loadFrom fs path with
  | .ok config => .ok config
  | .error e => .error (.notLoaded path e)

/-- Load the configuration of the daemon; where there is no file, the default one is written
    first. -/
def load (fs : FileSystem) (env : Environment) (custom : Option String) : Loading :=
  match path? env custom with
  | .error e => { result := .error e, files := fs }
  | .ok path =>
    if fs.exists? path then { result := loadOrExplain fs path, files := fs }
    else
      match fs.replace path defaultText with
      | (.error problem, fs) => { result := .error (.defaultNotWritten path problem), files := fs }
      | (.ok _, fs) =>
        { result := loadOrExplain fs path, files := fs
          lines := blockStart "Created default configuration" ++ [.indented path] }

/-! ### Logging -/

def yesNo (b : Bool) : String := if b then "yes" else "no"

/-- The lines about a configuration loaded from `path`. -/
def logLines (c : Config) (env : Environment) (path : String) : List Line :=
  let settings := match c.settingsPath? env with
    | .ok path => path
    | .error e => "unresolved (" ++ e.chain.headD "" ++ ")"
  blockStart "Loaded configuration" ++
    [.indented s!"File: {path}",
      .indented ("Settings: " ++ settings),
      .indented s!"Active user: {c.user}",
      .indented ("Watch settings file: " ++ yesNo c.watchesSettings),
      .indented ("Follow resume and clock changes: " ++ yesNo c.monitorsSystemEvents)]

end Twilight.Config
