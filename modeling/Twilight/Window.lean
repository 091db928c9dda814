import Twilight.Time.Zone

namespace Twilight

/-!
# Windows of the day

* `Window` — two minutes of the day; from `start` up to, not including, `finish`.
* `Window.valid` — both bounds are minutes of the day.
* `Window.contains` — membership around the clock: a window whose start lies behind its finish
  crosses midnight, and one whose bounds are equal is empty.
* `ScheduleRequest` — the window that a user's alarms are armed for.
-/

/-- The number that names a user. -/
abbrev UserId := Int

/-- No user; as the target of a restart, every user. -/
def noUser : UserId := -1

def minutesPerDay : Int := 1440

/-- Whether `minute` counts the minutes since some midnight. -/
def isMinuteOfDay (minute : Int) : Bool := 0 ≤ minute && minute < minutesPerDay

/-- The test `isMinuteOfDay` says of an integer that it is a minute of a day: not negative, and less
    than `minutesPerDay`. -/
@[simp] theorem isMinuteOfDay_iff (minute : Int) :
    isMinuteOfDay minute = true ↔ 0 ≤ minute ∧ minute < minutesPerDay := by
  simp [isMinuteOfDay]

/-- A daily window, in minutes since midnight. -/
structure Window where
  start : Int
  finish : Int
  deriving DecidableEq, Repr, Inhabited

namespace Window

/-- Both bounds are minutes of the day; they may be equal. -/
def valid (w : Window) : Bool := isMinuteOfDay w.start && isMinuteOfDay w.finish

/-- Whether the minute `now` lies inside. -/
def contains (w : Window) (now : Int) : Bool :=
  if w.start < w.finish then w.start ≤ now && now < w.finish
  else if w.finish < w.start then w.start ≤ now || now < w.finish
  else false

/-- Whether the wall clock shows a minute inside. -/
def containsMoment (w : Window) (now : Time.Moment) : Bool := w.contains now.minuteOfDay

/-- A window whose bounds are equal contains no minute: `contains` takes it for empty, not for the
    whole day. -/
@[simp] theorem contains_of_eq {w : Window} (h : w.start = w.finish) (now : Int) :
    w.contains now = false := by
  simp [contains, h]

end Window

/-- One of the two bounds of a window. -/
inductive Boundary where
  | start
  | finish
  deriving DecidableEq, Repr

/-- The boundary's word in reports. -/
def Boundary.word : Boundary → String
  | .start => "start"
  | .finish => "end"

/-- The boundary's name in log lines. -/
def Boundary.name : Boundary → String
  | .start => "Start"
  | .finish => "End"

/-- The bound that a boundary marks. -/
def Window.bound (w : Window) : Boundary → Int
  | .start => w.start
  | .finish => w.finish

/-- A value for either boundary. -/
structure Pair (α : Type) where
  start : α
  finish : α
  deriving DecidableEq, Repr

/-- Both values, the start first. -/
def Pair.toList {α : Type} (p : Pair α) : List α := [p.start, p.finish]

/-- The window that a user's pair of alarms is armed for. -/
structure ScheduleRequest where
  user : UserId
  window : Window
  deriving DecidableEq, Repr

end Twilight
