import Twilight.Appearance.Parameters
import Twilight.Scenario.Step

namespace Twilight

/-!
# The settings store

* `SettingsStore` — the settings in memory, kept in a file or not, with the observers of single
  values.
* `SettingsStore.open?` — the settings of a file; one that is missing holds none.
* `SettingsStore.getInt` — a value read as an integer.
-/

/-- What an observer does about a change. -/
inductive ObserverAction where
  | manager
  | script (label : String) (steps : Script)

/-- An observer, and the key that it takes the change to be of. -/
structure Observer where
  told : String
  action : ObserverAction

/-- A settings store. -/
structure SettingsStore where
  values : SettingsTable := {}
  file : Option String := none
  observers : Table (String × UserId) Observer := {}
  faults : SettingsFaults := {}

instance : Inhabited SettingsStore := ⟨{}⟩

/-- The settings of a file, with the names in it that denote no user. -/
def readSettings (fs : FileSystem) (path : String) : Except Fault SettingsTable.Reading :=
  match fs.readText path with
  | .error problem => .error (.unreadable path problem)
  | .ok text =>
    match SettingsTable.read? text with
    | some reading => .ok reading
    | none => .error (.unparsable path)

/-- As `readSettings`; a file that is missing holds no settings. -/
def readSettings? (fs : FileSystem) (path : String) : Except Fault SettingsTable.Reading :=
  if fs.exists? path then readSettings fs path else .ok {}

/-- An integer that is stored as a text; white space around it does not count. -/
def SettingsTable.getInt (t : SettingsTable) (key : String) (user : UserId) : Except Fault Int :=
  match t.value? key user with
  | none => .error (.missingValue key user)
  | some value =>
    match Text.Numeral.readInt32 (Text.trim value.toList) with
    | .ok n => .ok n
    | .error problem => .error (.notAnInteger value key user problem)

namespace SettingsStore

/-- Read a value as an integer. -/
def getInt (s : SettingsStore) (key : String) (user : UserId) : Except Fault Int :=
  if s.faults.failsGet key then .error .storeOffline else s.values.getInt key user

/-- Observe a value, in the place of an observer it had before. -/
def observe (s : SettingsStore) (key : String) (user : UserId) (action : ObserverAction) :
    Except Fault Unit × SettingsStore :=
  if s.faults.failsRegister key then (.error .storeOffline, s)
  else
    let told := s.faults.toldKey.getD key
    (.ok (), { s with observers := s.observers.insert (key, user) ⟨told, action⟩ })

/-- Stop observing a value. -/
def unobserve (s : SettingsStore) (key : String) (user : UserId) :
    Except Fault Unit × SettingsStore :=
  if s.faults.failsUnregister key then (.error .storeOffline, s)
  else (.ok (), { s with observers := s.observers.erase (key, user) })

/-- Ask a store that is not ready to initialize. -/
def bringUp (s : SettingsStore) : Except Fault Unit × SettingsStore :=
  match s.faults.onInitialize with
  | .becomesReady => (.ok (), { s with faults := { s.faults with ready := true } })
  | .staysUnready => (.ok (), s)
  | .fails => (.error .storeOffline, s)

/-- Take a table in the place of the old one; answers what changed. -/
def replaceAll (s : SettingsStore) (t : SettingsTable) : List (String × UserId) × SettingsStore :=
  (s.values.changes t, { s with values := t })

end SettingsStore

end Twilight
