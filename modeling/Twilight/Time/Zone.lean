namespace Twilight.Time

/-!
# Time zones and moments

* `Zone` — an offset from UTC and the instants at which it changes.
* `Zone.offsetAt` — the offset that the wall clock has at an instant.
* `Zone.offsetFor?` — the offset that a reading of the wall clock is taken to have: none inside a
  gap, the later of the two instants where the reading comes twice.
* `Moment` — an instant together with the offset under which it is read.
-/

/-- Nanoseconds in a second. -/
def nanosPerSecond : Int := 1000000000

/-- Seconds in a day. -/
def secondsPerDay : Int := 86400

/-- From `instant` (Unix seconds) on, local time is `offset` seconds ahead of UTC. -/
structure Transition where
  instant : Int
  offset : Int
  deriving DecidableEq, Repr

/-- The offset before the first transition, and the transitions in ascending order. -/
structure Zone where
  base : Int := 0
  transitions : List Transition := []
  deriving DecidableEq, Repr, Inhabited

namespace Zone

/-- The offset in force at `instant`, when it is `current` before the transitions. -/
def offsetFrom (current instant : Int) : List Transition → Int
  | [] => current
  | t :: ts => if t.instant ≤ instant then offsetFrom t.offset instant ts else current

/-- The offset of the last transition at or before `instant`, else the base. -/
def offsetAt (z : Zone) (instant : Int) : Int := offsetFrom z.base instant z.transitions

/-- The offset under which the wall clock shows `reading`, when it is `current` before the
    transitions. A transition makes the clock jump from `instant + current` to
    `instant + offset`: back over a fold, or forward over a gap. -/
def readingOffsetFrom (current reading : Int) : List Transition → Option Int
  | [] => some current
  | t :: ts =>
    let left := t.instant + current
    let right := t.instant + t.offset
    -- A fold: the readings from `right` to `left` come twice.
    if right < left then
      if reading < right then some current
      else if reading ≤ left then some t.offset
      else readingOffsetFrom t.offset reading ts
    -- No jump.
    else if left = right then
      if reading < left then some current
      else if reading = left then some t.offset
      else readingOffsetFrom t.offset reading ts
    -- A gap: the readings between `left` and `right` never come.
    else if reading ≤ left then some current
    else if reading < right then none
    else if reading = right then some t.offset
    else readingOffsetFrom t.offset reading ts

/-- The offset of a wall-clock reading in seconds. In a fold, ends included, it is the offset after
    the transition. A reading inside a gap has none; the first one that is skipped still has the
    offset before the gap. -/
def offsetFor? (z : Zone) (reading : Int) : Option Int :=
  readingOffsetFrom z.base reading z.transitions

end Zone

/-- An instant in nanoseconds since 1 January 1970 UTC, read `offset` seconds east of UTC. -/
structure Moment where
  nanos : Int
  offset : Int
  deriving DecidableEq, Repr, Inhabited

namespace Moment

/-- Unix seconds, rounded down. -/
def seconds (m : Moment) : Int := m.nanos / nanosPerSecond

/-- Nanoseconds after the last full second. -/
def fraction (m : Moment) : Int := m.nanos % nanosPerSecond

/-- What the wall clock shows, as seconds since 1 January 1970 of local time. -/
def reading (m : Moment) : Int := m.seconds + m.offset

/-- The local date as a number of days since 1 January 1970. -/
def day (m : Moment) : Int := m.reading / secondsPerDay

/-- Seconds since local midnight. -/
def secondOfDay (m : Moment) : Int := m.reading % secondsPerDay

/-- Full minutes since local midnight. -/
def minuteOfDay (m : Moment) : Int := m.secondOfDay / 60

/-- The moment of an instant, with the offset in force there. -/
def ofNanos (z : Zone) (nanos : Int) : Moment := ⟨nanos, z.offsetAt (nanos / nanosPerSecond)⟩

/-- The moment of an instant in Unix seconds. -/
def ofSeconds (z : Zone) (seconds : Int) : Moment := ofNanos z (seconds * nanosPerSecond)

/-- The moment at which the wall clock shows `reading`; it keeps the offset it was found with. -/
def ofReading? (z : Zone) (reading : Int) : Option Moment :=
  (z.offsetFor? reading).map fun offset => ⟨(reading - offset) * nanosPerSecond, offset⟩

/-- The moment a duration later, with the offset in force there. -/
def after (z : Zone) (m : Moment) (nanos : Int) : Moment := ofNanos z (m.nanos + nanos)

@[simp] theorem ofNanos_nanos (z : Zone) (n : Int) : (ofNanos z n).nanos = n := rfl
@[simp] theorem after_nanos (z : Zone) (m : Moment) (n : Int) :
    (m.after z n).nanos = m.nanos + n := rfl

end Moment

end Twilight.Time
