import Twilight.Mode

namespace Twilight

/-!
# The settings that make up a state

* `StateKey` — the three settings that a user's state is read from, and the names they are stored
  under.
-/

/-- A setting that a user's state is read from. -/
inductive StateKey where
  | mode
  | start
  | finish
  deriving DecidableEq, Repr

namespace StateKey

/-- The name that the setting is stored under. -/
def name : StateKey → String
  | .mode => "settings.uiappearance.darkmode_mode"
  | .start => "settings.uiappearance.darkmode_starttime"
  | .finish => "settings.uiappearance.darkmode_endtime"

/-- All of them, in the order in which they are observed. -/
def all : List StateKey := [.mode, .start, .finish]

/-- The list `all` of the keys of the decoded settings is complete. -/
theorem mem_all (k : StateKey) : k ∈ all := by
  cases k <;> simp [all]

/-- The setting of a name. -/
def ofName? (name : String) : Option StateKey := all.find? fun k => k.name = name

/-- Reading the name of a key by `ofName?` gets the key back, so the names differ. -/
@[simp] theorem ofName?_name (k : StateKey) : ofName? k.name = some k := by
  cases k <;> decide

end StateKey

/-- A new value for one part of a state. -/
inductive StateChange where
  | mode (value : Mode)
  | start (value : Int)
  | finish (value : Int)
  deriving DecidableEq, Repr

/-- The state with one part changed. -/
def DarkModeState.changed (s : DarkModeState) : StateChange → DarkModeState
  | .mode value => { s with mode := value }
  | .start value => { s with window := { s.window with start := value } }
  | .finish value => { s with window := { s.window with finish := value } }

end Twilight
