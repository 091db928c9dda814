import Twilight.Occurrence

namespace Twilight

/-!
# Zones with one offset

* `Time.Zone.Answers` — a zone in which every minute of the day occurs again.
* `Time.Zone.Constant` — the wall clock is always the same offset ahead of UTC.
* `Time.Zone.occurrenceAt`, `Time.Zone.lastDay` — the moment at which a minute occurs on a date, and
  the date on which it occurred last. They are adjoint: `Time.Zone.occurrenceAt_le_iff`.
* `nextOccurrence_of_constant` — the next occurrence is that of the day after the last one.
* `Window.containsMoment_of_lastDay` — whether the clock is inside a window is decided by the dates
  on which its bounds occurred last.
-/

namespace Time.Zone

/-- Every minute of the day has a next occurrence, whatever the time is. -/
def Answers (z : Zone) : Prop :=
  ∀ nanos minute, isMinuteOfDay minute = true →
    ∃ m, nextOccurrence z (.ofNanos z nanos) minute = .ok m

/-- In a zone that always answers, so do windows with bounds in range. -/
theorem Answers.occurrences {z : Zone} (hz : z.Answers) {w : Window} (hv : w.valid = true)
    (nanos : Int) : ∃ triggers, w.occurrences z (.ofNanos z nanos) = .ok triggers := by
  unfold Window.valid at hv
  rw [Bool.and_eq_true] at hv
  obtain ⟨start, hs⟩ := hz nanos w.start hv.1
  obtain ⟨finish, hf⟩ := hz nanos w.finish hv.2
  refine ⟨⟨start, finish⟩, ?_⟩
  unfold Window.occurrences
  simp only [hs, hf]

/-- All transitions lead to the offset that was there before. -/
def Constant (z : Zone) : Prop := ∀ t ∈ z.transitions, t.offset = z.base

variable {z : Zone}

/-- Transitions that lead to the offset from before make no difference to `offsetFrom`. -/
theorem offsetFrom_of_constant {current : Int} (instant : Int) {ts : List Transition}
    (ht : ∀ t ∈ ts, t.offset = current) : offsetFrom current instant ts = current := by
  induction ts with
  | nil => rfl
  | cons t ts ih =>
    unfold offsetFrom
    by_cases hi : t.instant ≤ instant
    · rw [if_pos hi, ht t (by simp)]
      exact ih fun u hu => ht u (by simp [hu])
    · rw [if_neg hi]

/-- Transitions that lead to the offset from before neither skip nor repeat a reading. -/
theorem readingOffsetFrom_of_constant {current : Int} (reading : Int) {ts : List Transition}
    (ht : ∀ t ∈ ts, t.offset = current) :
    readingOffsetFrom current reading ts = some current := by
  induction ts with
  | nil => rfl
  | cons t ts ih =>
    -- the clock does not jump, so the reading is before the transition, at it or after it
    have hoff : t.offset = current := ht t (by simp)
    have hrest := ih fun u hu => ht u (by simp [hu])
    unfold readingOffsetFrom
    simp only [hoff, Int.lt_irrefl, if_false, if_true, hrest]
    by_cases hlt : reading < t.instant + current
    · rw [if_pos hlt]
    · rw [if_neg hlt]
      by_cases heq : reading = t.instant + current
      · rw [if_pos heq]
      · rw [if_neg heq]

/-- A `Constant` zone has its base as the offset at every instant. -/
theorem Constant.offsetAt (hz : z.Constant) (instant : Int) : z.offsetAt instant = z.base :=
  offsetFrom_of_constant instant hz

/-- In a `Constant` zone every reading is taken with the base as its offset. -/
theorem Constant.offsetFor? (hz : z.Constant) (reading : Int) :
    z.offsetFor? reading = some z.base :=
  readingOffsetFrom_of_constant reading hz

/-! ### Occurrences -/

/-- The moment at which a minute occurs on a date, the offset being the base. -/
def occurrenceAt (z : Zone) (day minute : Int) : Moment :=
  ⟨(day * secondsPerDay + minute * 60 - z.base) * nanosPerSecond, z.base⟩

/-- The date on which a minute occurred last, the offset being the base. -/
def lastDay (z : Zone) (nanos minute : Int) : Int :=
  (nanos / nanosPerSecond + z.base - minute * 60) / secondsPerDay

/-- A minute has occurred on a date exactly if that is not after the date of its last
    occurrence. -/
theorem occurrenceAt_le_iff (z : Zone) (nanos day minute : Int) :
    (z.occurrenceAt day minute).nanos ≤ nanos ↔ day ≤ z.lastDay nanos minute := by
  simp only [occurrenceAt, lastDay, nanosPerSecond, secondsPerDay]
  omega

/-- The `lastDay` of a minute stays until its next occurrence. -/
theorem lastDay_eq_of_lt {nanos later minute : Int} (hle : nanos ≤ later)
    (hlt : later < (z.occurrenceAt (z.lastDay nanos minute + 1) minute).nanos) :
    z.lastDay later minute = z.lastDay nanos minute := by
  -- it cannot lie before, since the old occurrence is past, nor after, since the next is not
  have hbefore : z.lastDay nanos minute ≤ z.lastDay later minute := by
    rw [← occurrenceAt_le_iff]
    exact Int.le_trans ((occurrenceAt_le_iff z nanos _ minute).2 (Int.le_refl _)) hle
  have hafter : ¬ z.lastDay nanos minute + 1 ≤ z.lastDay later minute := by
    rw [← occurrenceAt_le_iff]
    omega
  omega

/-- In a `Constant` zone a minute occurs on every date. -/
theorem Constant.occurrenceOn? (hz : z.Constant) (day minute : Int) :
    occurrenceOn? z day minute = some (z.occurrenceAt day minute) := by
  unfold Twilight.occurrenceOn? resolveReading? Moment.ofReading?
  rw [hz.offsetFor?]
  rfl

/-- In a `Constant` zone the date is counted off by the base. -/
theorem Constant.day (hz : z.Constant) (nanos : Int) :
    (Moment.ofNanos z nanos).day = (nanos / nanosPerSecond + z.base) / secondsPerDay := by
  unfold Moment.day Moment.reading Moment.seconds Moment.ofNanos
  rw [hz.offsetAt]

/-- The last occurrence of a minute of the day is one of today or yesterday. -/
theorem Constant.lastDay_cases (hz : z.Constant) {minute : Int} (hm : isMinuteOfDay minute = true)
    (nanos : Int) :
    z.lastDay nanos minute = (Moment.ofNanos z nanos).day ∨
      z.lastDay nanos minute + 1 = (Moment.ofNanos z nanos).day := by
  rw [isMinuteOfDay_iff] at hm
  rw [hz.day]
  simp only [lastDay, secondsPerDay, minutesPerDay] at *
  omega

end Time.Zone

open Time

variable {z : Zone}

/-- The next occurrence of a minute is the one on the day after its last occurrence. -/
theorem nextOccurrence_of_constant (hz : z.Constant) {minute : Int}
    (hm : isMinuteOfDay minute = true) (nanos : Int) :
    nextOccurrence z (.ofNanos z nanos) minute =
      .ok (z.occurrenceAt (z.lastDay nanos minute + 1) minute) := by
  -- an occurrence is still to come exactly on the days after the last one
  have hahead : ∀ day, nanos < (z.occurrenceAt day minute).nanos ↔
      z.lastDay nanos minute + 1 ≤ day := by
    intro day
    have := z.occurrenceAt_le_iff nanos day minute
    omega
  have hlist : occurrencesFrom z (.ofNanos z nanos) minute =
      [(Moment.ofNanos z nanos).day, (Moment.ofNanos z nanos).day + 1,
        (Moment.ofNanos z nanos).day + 2].map fun day => z.occurrenceAt day minute := by
    unfold occurrencesFrom
    simp only [hz.occurrenceOn?]
    rfl
  unfold nextOccurrence
  rw [if_pos hm, hlist]
  rcases hz.lastDay_cases hm nanos with hlast | hlast
  · -- it occurred today already
    have hnow : ¬ nanos < (z.occurrenceAt (Moment.ofNanos z nanos).day minute).nanos := by
      rw [hahead]
      omega
    have hnext : nanos < (z.occurrenceAt ((Moment.ofNanos z nanos).day + 1) minute).nanos := by
      rw [hahead]
      omega
    rw [hlast]
    simp [hnow, hnext]
  · have hnow : nanos < (z.occurrenceAt (Moment.ofNanos z nanos).day minute).nanos := by
      rw [hahead]
      omega
    rw [hlast]
    simp [hnow]

/-- In a `Constant` zone every minute has a next occurrence. -/
theorem Time.Zone.Constant.answers (hz : z.Constant) : z.Answers :=
  fun nanos _ hm => ⟨_, nextOccurrence_of_constant hz hm nanos⟩

/-- The next occurrences of both bounds of a window, the offset being the base. -/
def Window.occurrencesAt (w : Window) (z : Zone) (nanos : Int) : Pair Moment :=
  ⟨z.occurrenceAt (z.lastDay nanos w.start + 1) w.start,
    z.occurrenceAt (z.lastDay nanos w.finish + 1) w.finish⟩

/-- In a `Constant` zone the next `occurrences` of the bounds of a valid window are those of
    `occurrencesAt`. -/
theorem Window.occurrences_of_constant (hz : z.Constant) {w : Window} (hv : w.valid = true)
    (nanos : Int) : w.occurrences z (.ofNanos z nanos) = .ok (w.occurrencesAt z nanos) := by
  unfold Window.valid at hv
  rw [Bool.and_eq_true] at hv
  unfold Window.occurrences
  simp only [nextOccurrence_of_constant hz hv.1, nextOccurrence_of_constant hz hv.2]
  rfl

/-- The `occurrencesAt` an instant are both still to come. -/
theorem Window.lt_occurrencesAt (w : Window) (z : Zone) (nanos : Int) :
    nanos < (w.occurrencesAt z nanos).start.nanos ∧
      nanos < (w.occurrencesAt z nanos).finish.nanos := by
  have hs := z.occurrenceAt_le_iff nanos (z.lastDay nanos w.start + 1) w.start
  have hf := z.occurrenceAt_le_iff nanos (z.lastDay nanos w.finish + 1) w.finish
  unfold occurrencesAt
  constructor <;> simp only [] <;> omega

/-- The clock is inside a window that does not cross midnight when its start occurred on a later
    date than its finish, and inside one that does when both occurred on the same date. -/
theorem Window.containsMoment_of_lastDay (hz : z.Constant) {w : Window} (hv : w.valid = true)
    (nanos : Int) :
    w.containsMoment (.ofNanos z nanos) =
      if w.start < w.finish then
        decide (z.lastDay nanos w.start ≠ z.lastDay nanos w.finish)
      else if w.finish < w.start then
        decide (z.lastDay nanos w.start = z.lastDay nanos w.finish)
      else false := by
  unfold Window.valid at hv
  rw [Bool.and_eq_true, isMinuteOfDay_iff, isMinuteOfDay_iff] at hv
  unfold Window.containsMoment Window.contains Moment.minuteOfDay Moment.secondOfDay
    Moment.reading Moment.seconds Moment.ofNanos
  rw [hz.offsetAt]
  unfold minutesPerDay at hv
  -- both sides compare the minute of the day with the bounds, on the left by reading the clock
  by_cases hlt : w.start < w.finish
  · rw [if_pos hlt, if_pos hlt, Bool.eq_iff_iff]
    simp only [Bool.and_eq_true, decide_eq_true_eq]
    simp only [Zone.lastDay, nanosPerSecond, secondsPerDay]
    omega
  · rw [if_neg hlt, if_neg hlt]
    by_cases hgt : w.finish < w.start
    · rw [if_pos hgt, if_pos hgt, Bool.eq_iff_iff]
      simp only [Bool.or_eq_true, decide_eq_true_eq]
      simp only [Zone.lastDay, nanosPerSecond, secondsPerDay]
      omega
    · rw [if_neg hgt, if_neg hgt]

/-- In a `Constant` zone the clock stays inside the window, or outside, as long as neither bound
    occurs. -/
theorem Window.containsMoment_eq_of_lt (hz : z.Constant) {w : Window} (hv : w.valid = true)
    {nanos later : Int} (hle : nanos ≤ later)
    (hs : later < (w.occurrencesAt z nanos).start.nanos)
    (hf : later < (w.occurrencesAt z nanos).finish.nanos) :
    w.containsMoment (.ofNanos z later) = w.containsMoment (.ofNanos z nanos) := by
  rw [containsMoment_of_lastDay hz hv, containsMoment_of_lastDay hz hv,
    Zone.lastDay_eq_of_lt hle hs, Zone.lastDay_eq_of_lt hle hf]

end Twilight
