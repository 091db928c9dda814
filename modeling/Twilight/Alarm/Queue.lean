import Twilight.Alarm.Basic
import Twilight.Fault
import Twilight.Table

namespace Twilight

/-!
# The queue of pending alarms

* `AlarmQueue α` — the pending alarms by number; numbers count up and are never used again.
* `AlarmQueue.arm`, `AlarmQueue.cancel` — put an alarm in and take one out.
* `AlarmQueue.takeDue` — take out every alarm that is due, in the order of their numbers. Those that
  repeat stay pending under their number.
-/

open Time

/-- Alarms that wait to fire, and the last number given out. -/
structure AlarmQueue (α : Type) where
  pending : Table AlarmId (Alarm α) := {}
  lastId : AlarmId := 0

namespace AlarmQueue

variable {α : Type}

instance : Inhabited (AlarmQueue α) := ⟨{}⟩

/-- Put an alarm in under a number of its own. -/
def arm (q : AlarmQueue α) (a : Alarm α) : AlarmId × AlarmQueue α :=
  (q.lastId + 1, { pending := q.pending.insert (q.lastId + 1) a, lastId := q.lastId + 1 })

/-- Take an alarm out; a number that is not pending changes nothing. -/
def cancel (q : AlarmQueue α) (id : AlarmId) : AlarmQueue α :=
  { q with pending := q.pending.erase id }

def isPending (q : AlarmQueue α) (id : AlarmId) : Bool := q.pending.contains id

/-- The alarms that are due, in the order of their numbers. -/
def due (q : AlarmQueue α) (now : Moment) : List (AlarmId × Alarm α) :=
  q.pending.entries.filter fun p => p.2.isDue now

/-- The queue once every due alarm is taken out or, if it repeats, moved on. -/
def afterDue (z : Zone) (q : AlarmQueue α) (now : Moment) : AlarmQueue α :=
  { q with pending := q.pending.filterMap fun _ a =>
      if a.isDue now then a.next? z now else some a }

/-- Take out every due alarm. -/
def takeDue (z : Zone) (q : AlarmQueue α) (now : Moment) :
    List (AlarmId × Alarm α) × AlarmQueue α :=
  (q.due now, q.afterDue z now)

@[simp] theorem arm_fst (q : AlarmQueue α) (a : Alarm α) : (q.arm a).1 = q.lastId + 1 := rfl
@[simp] theorem arm_lastId (q : AlarmQueue α) (a : Alarm α) :
    (q.arm a).2.lastId = q.lastId + 1 := rfl
@[simp] theorem cancel_lastId (q : AlarmQueue α) (id : AlarmId) :
    (q.cancel id).lastId = q.lastId := rfl
@[simp] theorem afterDue_lastId (z : Zone) (q : AlarmQueue α) (now : Moment) :
    (q.afterDue z now).lastId = q.lastId := rfl

end AlarmQueue

end Twilight
