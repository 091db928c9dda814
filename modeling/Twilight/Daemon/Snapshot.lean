import Twilight.Fault
import Twilight.Table

namespace Twilight

/-!
# Views of a running daemon

* `TimerView` — one user's timers.
* `Snapshot` — the manager's state, for diagnostics.
-/

/-- The timers of a user: the window, and the alarms that could be armed for its bounds. -/
structure TimerView where
  user : UserId
  window : Window
  alarms : Pair (Option AlarmId)
  deriving DecidableEq, Repr

/-- The manager's state. -/
structure Snapshot where
  activeUser : UserId
  observersRegistered : Bool
  observerCount : Nat
  states : Table UserId DarkModeState
  timers : List TimerView

end Twilight
