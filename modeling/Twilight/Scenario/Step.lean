import Twilight.Config.Basic
import Twilight.Item
import Twilight.Mode
import Twilight.Settings.Faults

namespace Twilight

/-!
# Steps of a scenario

* `Step` — everything that can be asked of a daemon and its collaborators, grouped by whom it is
  asked of.
* `Script` — steps by the names they are reported under. A script is also what a callback runs: the
  groups with callbacks take the type of the steps as a parameter, and `Step` closes the knot.
-/

/-- Set or read the clock. -/
inductive ClockStep where
  | set (nanos : Int)
  | advance (seconds : Int)
  | timeOfDay (hour minute : Int)
  | now

/-- Use the alarm service directly, or make it fail. -/
inductive AlarmStep (σ : Type) where
  | fire
  | failAfter (count : Nat)
  | failCancels (count : Nat)
  | drop
  | count
  | replay (id : Nat)
  | cancel (id : Nat)
  | onArm (script : List (String × σ))
  | onCancel (script : List (String × σ))

/-- Use the timers of users. -/
inductive TimerStep (σ : Type) where
  | schedule (window : Window) (user : UserId) (label : String)
      (onStart onFinish : List (String × σ))
  | valid (window : Window)
  | within (window : Window)
  | has (user : UserId)
  | clear (user : UserId)
  | clearAll
  | restart (user : UserId)
  | restartAll
  | setup (user : UserId)
  | snapshot
  | shared

/-- Use the settings store, or make it fail. -/
inductive SettingsStep (σ : Type) where
  | put (key value : String) (user : UserId)
  | read (key : String) (user : UserId)
  | raw (key : String) (user : UserId)
  | count
  | ready
  | observe (key : String) (user : UserId) (label : String) (script : List (String × σ))
  | unobserve (key : String) (user : UserId)
  | faults (change : SettingsFaultChange)
  | reload
  | path
  | reopen (key : String) (user : UserId)
  | watch
  | wait
  | unwatch
  | awaitLog (text : String)

/-- Use the manager of modes. -/
inductive ManagerStep (σ : Type) where
  | install (applies : Bool)
  | onUpdate (script : List (String × σ))
  | switch (user : UserId)
  | load (user : UserId) (notify : Bool)
  | change (user : UserId) (notify : Bool)
  | observed (user : UserId) (dark : Bool)
  | restart
  | active
  | state (user : UserId)
  | request (user : UserId)
  | dump
  | updates
  | forgetUpdates

/-- Use the appearance service, its configuration, its parameters and its permission. -/
inductive AppearanceStep where
  | setMode (mode : Mode)
  | setScale (item : Item) (value : String)
  | restore
  | mode
  | scale (item : Item)
  | apply (dark : Bool) (user : UserId)
  | grant (granted : Bool)
  | update (item : Item) (value : String)
  | read (item : Item)
  | itemName (item : Item)
  | configurationFaults (update get : Bool)
  | parameter (key fallback : String)
  | setParameter (key value : String)
  | parameterFaults (get set : Bool)
  | parameterPath
  | reopen (path key fallback : String)

/-- Use files. -/
inductive FileStep where
  | write (path text : String)
  | writeBytes (path : String) (bytes : List UInt8)
  | remove (path : String)
  | removeDirectory (path : String)
  | exists (path : String)
  | read (path : String)

/-- Take or give back the lock of a daemon. -/
inductive LockStep where
  | acquire (label path settings : String)
  | release (label : String)

/-- A step. -/
inductive Step where
  | clock (step : ClockStep)
  | alarms (step : AlarmStep Step)
  | timers (step : TimerStep Step)
  | settings (step : SettingsStep Step)
  | manager (step : ManagerStep Step)
  | appearance (step : AppearanceStep)
  | files (step : FileStep)
  | lock (step : LockStep)
  | status (config : Config)

/-- Steps by the names they are reported under. -/
abbrev Script := List (String × Step)

end Twilight
