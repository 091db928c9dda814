import Twilight.Time.Stamp

namespace Twilight

/-!
# Alarms

* `Alarm α` — an instant to fire at, an optional interval to repeat at, and what firing means.
* `Alarm.isDue`, `Alarm.next?` — when it fires, and how a repeating alarm goes on: at the first
  multiple of its interval, counted from its trigger, that lies after the firing.
-/

open Time

/-- An alarm that fires at `trigger`; `interval`, in nanoseconds, is there for repeating ones. -/
structure Alarm (α : Type) where
  trigger : Moment
  interval : Option Int
  action : α

namespace Alarm

variable {α : Type}

/-- An alarm that fires once. -/
def once (trigger : Moment) (action : α) : Alarm α := ⟨trigger, none, action⟩

/-- Repeat at an interval; one that is not positive leaves the alarm a one-shot. -/
def withInterval (a : Alarm α) (nanos : Int) : Alarm α :=
  { a with interval := if 0 < nanos then some nanos else none }

def isRepeating (a : Alarm α) : Bool := a.interval.isSome

/-- Whether the alarm fires at `now`. -/
def isDue (a : Alarm α) (now : Moment) : Bool := a.trigger.nanos ≤ now.nanos

/-- How many intervals after its trigger an alarm that fires at `now` fires again. -/
def stepsPast (a : Alarm α) (interval : Int) (now : Moment) : Int :=
  max 1 ((now.nanos - a.trigger.nanos) / interval + 1)

/-- The alarm that follows a repeating one fired at `now`. -/
def next? (z : Zone) (a : Alarm α) (now : Moment) : Option (Alarm α) :=
  a.interval.map fun interval =>
    { a with trigger := a.trigger.after z (a.stepsPast interval now * interval) }

/-- A description for diagnostics. -/
def describe (a : Alarm α) : String :=
  let interval := match a.interval with
    | none => "None"
    | some n => "Some(TimeDelta \x7b secs: " ++ toString (n / nanosPerSecond) ++ ", nanos: " ++
        toString (n % nanosPerSecond) ++ " \x7d)"
  "AlarmEntity \x7b trigger_at: " ++ a.trigger.rfc3339 ++ ", interval: " ++ interval ++ ", .. \x7d"

end Alarm

end Twilight
