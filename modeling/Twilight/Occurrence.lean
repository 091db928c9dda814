import Twilight.Fault

namespace Twilight

/-!
# Occurrences of a minute of the day

* `nextOccurrence` — the next moment at which the wall clock shows a minute of the day: today's if
  it is still ahead, else tomorrow's or that of the day after.
* `occurrenceOn?` — the occurrence on one date. Where the reading falls into a gap, the wall clock
  is taken to resume one hour later.
* `readMinute` — the minute of the day that a text denotes.
-/

open Time

/-- The moment at which the wall clock shows a reading, or else a reading one hour later. -/
def resolveReading? (z : Zone) (reading : Int) : Option Moment :=
  match Moment.ofReading? z reading with
  | some m => some m
  | none => Moment.ofReading? z (reading + 3600)

/-- The occurrence of a minute on a date, given as days since 1 January 1970. -/
def occurrenceOn? (z : Zone) (day minute : Int) : Option Moment :=
  resolveReading? z (day * secondsPerDay + minute * 60)

/-- The occurrences looked at from `now` on: today's, tomorrow's and that of the day after. -/
def occurrencesFrom (z : Zone) (now : Moment) (minute : Int) : List Moment :=
  [now.day, now.day + 1, now.day + 2].filterMap fun day => occurrenceOn? z day minute

/-- The next moment, strictly after `now`, at which the wall clock shows `minute`. -/
def nextOccurrence (z : Zone) (now : Moment) (minute : Int) : Except Fault Moment :=
  if isMinuteOfDay minute then
    match (occurrencesFrom z now minute).find? fun m => now.nanos < m.nanos with
    | some m => .ok m
    | none => .error (.noOccurrence minute now)
  else .error (.minuteOutOfRange minute)

/-- Ask for one minute after the other, each from the answer before, up to the first fault. -/
def occurrenceChain (z : Zone) (now : Moment) : List Int → List (Except Fault Moment)
  | [] => []
  | minute :: rest =>
    match nextOccurrence z now minute with
    | .ok next => .ok next :: occurrenceChain z next rest
    | .error f => [.error f]

/-- The next occurrences of both bounds of a window. -/
def Window.occurrences (w : Window) (z : Zone) (now : Moment) : Except Fault (Pair Moment) :=
  match nextOccurrence z now w.start with
  | .error f => .error f
  | .ok start =>
    match nextOccurrence z now w.finish with
    | .error f => .error f
    | .ok finish => .ok ⟨start, finish⟩

/-- The minute of the day that a text denotes, white space around it aside. -/
def readMinute (text : String) : Except Fault Int :=
  match ClockText.read (Text.trim text.toList) with
  | .ok minute => .ok minute
  | .error problem => .error (.notATime text problem)

end Twilight
