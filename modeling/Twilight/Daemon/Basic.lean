import Twilight.Alarm.Service
import Twilight.Appearance.Basic
import Twilight.Daemon.Snapshot
import Twilight.Lock.Basic
import Twilight.Log.Journal
import Twilight.Settings.Store

namespace Twilight

/-!
# The daemon

* `Daemon` — everything that a daemon keeps, together with what happened in the current step.
* `Act` — an action on a daemon.
* `Hooks` — what else happens while the daemon is busy: before each call on the alarm service, and
  when one of its callbacks is a script.
* `Daemon.info`, `Daemon.warn`, … — write the journal.
-/

open Log Time

/-! ### Timers -/

/-- What an armed alarm does: ask the manager to honour a request, or run a script. -/
inductive AlarmAction where
  | boundary (request : ScheduleRequest) (boundary : Boundary)
  | script (label : String) (boundary : Boundary) (steps : Script)

/-- A user's timers: the alarms that could be armed, the window they were armed for, and what they
    do. -/
structure TimerRecord where
  alarms : Pair (Option AlarmId)
  window : Window
  actions : Pair AlarmAction

/-- The alarms of a pair that were armed, the one for the start first. -/
def pairIds (pair : Pair (Option AlarmId)) : List AlarmId := pair.toList.filterMap id

/-- The alarms of a record that were armed. -/
def TimerRecord.ids (r : TimerRecord) : List AlarmId := pairIds r.alarms

/-! ### The manager -/

/-- What receives the statuses that the manager resolves. -/
structure Receiver where
  /-- Whether the appearance service applies them. -/
  applies : Bool
  /-- Whether they are reported, and answered by a script. -/
  reports : Bool
  deriving DecidableEq

/-- The manager of modes. -/
structure Manager where
  receiver : Option Receiver := none
  /-- The user whose settings are observed. -/
  active : UserId := noUser
  /-- Whether all their observers could be registered. -/
  allRegistered : Bool := false
  states : Table UserId DarkModeState := {}
  /-- The last status known of each user. -/
  lastStatus : Table UserId Bool := {}
  deriving Inhabited

/-! ### Events and answers -/

/-- The answer to a step. -/
inductive Answer where
  | nothing
  | flag (value : Bool)
  | number (value : Int)
  | text (value : String)
  | optionalText (value : Option String)
  | logged (text : String)
  | moment (value : Moment)
  | window (value : Option Window)
  | mode (value : Mode)
  | timers (value : List TimerView)
  | state (value : Option DarkModeState)
  | request (value : Option ScheduleRequest)
  | snapshot (value : Snapshot)
  | updates (value : List (Bool × UserId))
  | done (answer : Answer)
  | refused (fault : Fault)
  | failed (chain : List String)

/-- What a callback did. -/
inductive Event where
  | update (dark : Bool) (user : UserId)
  | fired (label : String) (boundary : Boundary)
  | changed (label key : String) (user : UserId)
  | arming
  | cancelling
  | step (name : String) (answer : Answer)

/-! ### State -/

/-- The watch on the settings file: its path, the directory that is watched for it until that is
    removed, its name there, and how many changes of files were seen. -/
structure Watch where
  path : String
  directory : Option Place
  name : String
  seen : Nat

/-- A daemon with its collaborators. -/
structure Daemon where
  zone : Zone := {}
  clock : Moment
  journal : Journal := {}
  environment : Environment := {}
  /-- The directory of the configuration file, once it was decided; `none` inside is the user's. -/
  configDirectory : Option (Option String) := none
  files : FileSystem := {}
  processes : Processes
  alarms : AlarmService AlarmAction := {}
  timers : Table UserId TimerRecord := {}
  settings : SettingsStore := {}
  watch : Option Watch := none
  manager : Manager := {}
  appearance : Appearance := {}
  locks : Table String LockGuard := {}
  /-- Scripts for the next call on the alarm service, and for every status received. -/
  onArm : Option Script := none
  onCancel : Option Script := none
  onUpdate : Script := []
  /-- Every status received, the latest first. -/
  updates : List (Bool × UserId) := []
  /-- What callbacks did in the current step, the latest first. -/
  events : List Event := []

instance : Inhabited Daemon := ⟨{ clock := default, processes := default }⟩

/-- An action on a daemon. -/
abbrev Act := StateM Daemon

/-- What happens inside an operation, besides the operation itself. -/
structure Hooks where
  beforeArm : Act Unit
  beforeCancel : Act Unit
  run : Script → Act Unit

/-- Nothing happens besides. -/
def Hooks.quiet : Hooks := ⟨pure (), pure (), fun _ => pure ()⟩

namespace Daemon

/-! ### The journal -/

/-- Log a line. -/
def log (line : Line) : Act Unit :=
  modify fun d => { d with journal := d.journal.emit d.clock line }

/-- Log lines in order. -/
def logAll (lines : List Line) : Act Unit :=
  modify fun d => { d with journal := d.journal.emitAll d.clock lines }

def info (message : String) : Act Unit := log (.info message)
def warn (message : String) : Act Unit := log (.warning message)
def fail (message : String) : Act Unit := log (.error message)
def debug (message : String) : Act Unit := log (.debug message)

/-- Log the start of a block. -/
def block (message : String) : Act Unit := logAll (blockStart message)

/-- Note what a callback did. -/
def note (event : Event) : Act Unit := modify fun d => { d with events := event :: d.events }

end Daemon

end Twilight
