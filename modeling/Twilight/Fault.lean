import Twilight.ClockText
import Twilight.Files.FileSystem
import Twilight.Item
import Twilight.Mode
import Twilight.Time.Stamp

namespace Twilight

/-!
# Faults of the core

* `Fault` — every reason for which scheduling, settings, modes or the appearance service refuse.
* `Fault.kind` — the five kinds that callers tell apart.
* `Fault.message` — the words, led by those of the kind.
-/

/-- The number of an armed alarm. -/
abbrev AlarmId := Nat

/-- An alarm number as it is written in messages. -/
def alarmName (id : AlarmId) : String := s!"#{id}"

/-- The permission that every call on the appearance service needs. -/
def updatePermission : String := "ohos.permission.UPDATE_CONFIGURATION"

/-- What kind of refusal a fault is. -/
inductive FaultKind where
  | invalidArgument
  | notInitialized
  | operationInvalid
  | systemError
  | permissionDenied
  deriving DecidableEq, Repr

/-- The words that lead a message. -/
def FaultKind.words : FaultKind → String
  | .invalidArgument => "invalid argument"
  | .notInitialized => "not initialized"
  | .operationInvalid => "operation invalid"
  | .systemError => "system error"
  | .permissionDenied => "permission denied"

/-- Why an operation of the core was refused. -/
inductive Fault where
  | minuteOutOfRange (minute : Int)
  | noOccurrence (minute : Int) (now : Time.Moment)
  | notATime (text : String) (problem : ClockText.Problem)
  | scheduleOutOfRange (request : ScheduleRequest)
  | windowOutOfRange (request : ScheduleRequest)
  | modeUnset (user : UserId)
  | armRejected
  | cancelRejected (id : AlarmId)
  | storeOffline
  | storeUnavailable (cause : Fault)
  | storeNotReady
  | observersMissing
  | observersRefused (count : Nat) (user : UserId)
  | missingValue (key : String) (user : UserId)
  | notAnInteger (value key : String) (user : UserId) (problem : Text.Numeral.Problem)
  | unreadable (path : String) (problem : FileProblem)
  | unparsable (path : String)
  | unwritable (path : String) (problem : FileProblem)
  | notPermitted
  | alreadyInMode (mode : Mode)
  | notAColorMode (mode : Mode)
  | unknownColorMode (value : String)
  | emptyScale (item : Item)
  | itemUnset (item : Item)
  | updateRefused
  | itemUnreadable
  | updateUnconfirmed (item : Item) (cause : Fault)
  | parametersUnreadable
  | parametersReadOnly
  deriving DecidableEq

namespace Fault

/-- The kind of a fault. -/
def kind : Fault → FaultKind
  | .minuteOutOfRange _ | .notATime _ _ | .scheduleOutOfRange _ | .windowOutOfRange _
  | .notAColorMode _ => .invalidArgument
  | .storeUnavailable _ | .storeNotReady | .observersMissing
  | .observersRefused _ _ => .notInitialized
  | .modeUnset _ => .operationInvalid
  | .notPermitted => .permissionDenied
  | .noOccurrence _ _ | .armRejected | .cancelRejected _ | .storeOffline | .missingValue _ _
  | .notAnInteger _ _ _ _ | .unreadable _ _ | .unparsable _ | .unwritable _ _ | .alreadyInMode _
  | .unknownColorMode _ | .emptyScale _ | .itemUnset _ | .updateRefused | .itemUnreadable
  | .updateUnconfirmed _ _ | .parametersUnreadable | .parametersReadOnly => .systemError

/-- What a fault says about itself. -/
def message (f : Fault) : String :=
  f.kind.words ++ ": " ++
    match f with
    | .minuteOutOfRange minute => s!"minute of day {minute} outside [0, {minutesPerDay})"
    | .noOccurrence minute now =>
      s!"no local occurrence of {minuteText minute} after {now.spaced}"
    | .notATime text problem => s!"'{text}' is not a HH:MM time: {problem.message}"
    | .scheduleOutOfRange r =>
      s!"schedule window {r.window.start}..{r.window.finish} out of range for user {r.user}"
    | .windowOutOfRange r =>
      s!"window {r.window.start}..{r.window.finish} for user {r.user} is out of range"
    | .modeUnset user => s!"no dark mode configured for user {user}"
    | .armRejected => "alarm arm rejected"
    | .cancelRejected id => s!"cancel of {alarmName id} rejected"
    | .storeOffline => "backend offline"
    | .storeUnavailable cause => "settings store unavailable: " ++ cause.message
    | .storeNotReady => "settings store unavailable"
    | .observersMissing => "dark mode manager has no observers, call initialize first"
    | .observersRefused count user =>
      s!"{count} settings observers failed to register for user {user}"
    | .missingValue key user => s!"no value for '{key}' (user {user})"
    | .notAnInteger value key user problem =>
      s!"value '{value}' for '{key}' (user {user}) is not an integer: {problem.message}"
    | .unreadable path problem => s!"failed to read {path}: {problem.message}"
    | .unparsable path => s!"failed to parse {path}: TOML parse error"
    | .unwritable path problem => s!"failed to write {path}: {problem.message}"
    | .notPermitted => updatePermission
    | .alreadyInMode mode => s!"color mode is already {mode.name}"
    | .notAColorMode mode => s!"color mode must be light or dark, got {mode.name}"
    | .unknownColorMode value => s!"persisted color mode '{value}' is neither light nor dark"
    | .emptyScale item => s!"{item.name} is empty"
    | .itemUnset item => s!"{item.name} has not been set"
    | .updateRefused => "busy"
    | .itemUnreadable => "unreadable"
    | .updateUnconfirmed item cause => s!"{item.name} update failed: " ++ cause.message
    | .parametersUnreadable => "parameters unreadable"
    | .parametersReadOnly => "parameters read-only"

end Fault

/-- The fault of a failed result. -/
def faultOf? {α : Type} : Except Fault α → Option Fault
  | .error f => some f
  | .ok _ => none

/-- Success, unless there was a fault. -/
def settle : Option Fault → Except Fault Unit
  | some f => .error f
  | none => .ok ()

@[simp] theorem settle_none : settle none = .ok () := rfl
@[simp] theorem settle_some (f : Fault) : settle (some f) = .error f := rfl

end Twilight
