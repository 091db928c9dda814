import Twilight.Alarm.Queue

namespace Twilight

/-!
# The alarm service

* `AlarmService α` — a queue of alarms with the calls that shall fail.
* `AlarmService.arm`, `AlarmService.cancel` — one call each; a call that fails changes nothing but
  the number of calls.
* `AlarmService.takeDue` — what is due now, taken out in the order of the numbers.
-/

/-- An alarm service. Which calls fail is decided by their number, counted from zero. -/
structure AlarmService (α : Type) where
  queue : AlarmQueue α := {}
  /-- The alarms that were cancelled while they were pending, in order. -/
  cancelled : List AlarmId := []
  /-- The alarms of which a call to cancel failed, in order. -/
  rejected : List AlarmId := []
  /-- What every alarm that was ever armed does. -/
  armed : Table AlarmId α := {}
  armCalls : Nat := 0
  cancelCalls : Nat := 0
  armFails : Nat → Bool := fun _ => false
  cancelFails : Nat → Bool := fun _ => false

namespace AlarmService

variable {α : Type}

instance : Inhabited (AlarmService α) := ⟨{}⟩

/-- Arm an alarm. A failed call takes no number. -/
def arm (s : AlarmService α) (a : Alarm α) : Except Fault AlarmId × AlarmService α :=
  let called := { s with armCalls := s.armCalls + 1 }
  if s.armFails s.armCalls then (.error .armRejected, called)
  else
    let (id, queue) := s.queue.arm a
    (.ok id, { called with queue := queue, armed := s.armed.insert id a.action })

/-- Cancel an alarm. One that is no longer pending is left alone. -/
def cancel (s : AlarmService α) (id : AlarmId) : Except Fault Unit × AlarmService α :=
  let called := { s with cancelCalls := s.cancelCalls + 1 }
  if s.cancelFails s.cancelCalls then
    (.error (.cancelRejected id), { called with rejected := s.rejected ++ [id] })
  else if s.queue.isPending id then
    (.ok (), { called with queue := s.queue.cancel id, cancelled := s.cancelled ++ [id] })
  else (.ok (), called)

/-- Take out everything that is due. -/
def takeDue (z : Time.Zone) (s : AlarmService α) (now : Time.Moment) :
    List (AlarmId × Alarm α) × AlarmService α :=
  let (due, queue) := s.queue.takeDue z now
  (due, { s with queue := queue })

/-- Forget every pending alarm. -/
def dropAll (s : AlarmService α) : AlarmService α :=
  { s with queue := { s.queue with pending := {} } }

/-- Let every call to arm fail after the next `count`. -/
def failArmsAfter (s : AlarmService α) (count : Nat) : AlarmService α :=
  { s with armFails := fun call => s.armCalls + count ≤ call }

/-- Let the next `count` calls to cancel fail. -/
def failCancels (s : AlarmService α) (count : Nat) : AlarmService α :=
  { s with cancelFails := fun call => call < s.cancelCalls + count }

/-- How many alarms are pending. -/
def pendingCount (s : AlarmService α) : Nat := s.queue.pending.size

/-- The triggers of the pending alarms, in the order of their numbers. -/
def triggers (s : AlarmService α) : List Time.Moment :=
  s.queue.pending.values.map fun a => a.trigger

end AlarmService

end Twilight
