import Twilight.Proofs.Time.Constant
import Twilight.Proofs.Time.Jumps
import Twilight.Proofs.Time.Search

namespace Twilight

/-!
# Occurrences where the clock jumps

* `Time.Jump.Landing` — where a reading comes to lie next to a jump: before it, behind it, or behind
  it because it was skipped and an hour later was taken.
* `Time.Zone.Near.landing` — occurrences in a zone are such landings.
* `Time.Zone.Near.ahead` — a reading that is ahead of the clock lands ahead of it.
* `Time.Zone.ReadsBack` — what the clock shows at the moment that was found for a reading.
* `readsBack_of_spaced` — every minute of the day has a next occurrence, at which the clock shows
  it, or else what comes of a gap.
-/

open Time

namespace Time

/-! ### Readings next to a jump -/

/-- Where a reading comes to lie, in Unix seconds, and the offset with which it does. -/
inductive Jump.Landing (j : Jump) (reading : Int) : Option (Int × Int) → Prop where
  /-- The clock shows the reading before it jumps, or jumps when it would show it. -/
  | before (left : reading ≤ j.left) (right : reading < j.right) :
    Jump.Landing j reading (some (reading - j.before, j.before))
  /-- The clock shows the reading after it has jumped. -/
  | after (right : j.right ≤ reading) : Jump.Landing j reading (some (reading - j.after, j.after))
  /-- The reading is skipped, and the one an hour later is not. -/
  | later (left : j.left < reading) (right : reading < j.right) (hour : j.right ≤ reading + 3600) :
    Jump.Landing j reading (some (reading + 3600 - j.after, j.after))
  /-- Both are skipped. -/
  | lost (left : j.left < reading) (hour : reading + 3600 < j.right) : Jump.Landing j reading none

/-- The moment at an instant in Unix seconds, with an offset. -/
def Moment.landed (place : Int × Int) : Moment := ⟨place.1 * nanosPerSecond, place.2⟩

@[simp] theorem Moment.landed_nanos (place : Int × Int) :
    (Moment.landed place).nanos = place.1 * nanosPerSecond := rfl

/-- A reading that is shown before a jump is taken with the offset from before. -/
theorem Jump.offsetFor?_of_before {j : Jump} {reading : Int} (hleft : reading ≤ j.left)
    (hright : reading < j.right) : j.offsetFor? reading = some j.before := by
  unfold offsetFor?
  by_cases hback : j.right ≤ j.left
  · rw [if_pos hback, if_pos hright]
  · rw [if_neg hback, if_pos hleft]

/-- A reading from the end of a jump on is taken with the offset from after. -/
theorem Jump.offsetFor?_of_after {j : Jump} {reading : Int} (hright : j.right ≤ reading) :
    j.offsetFor? reading = some j.after := by
  unfold offsetFor?
  by_cases hback : j.right ≤ j.left
  · rw [if_pos hback, if_neg (by omega)]
  · rw [if_neg hback, if_neg (by omega), if_neg (by omega)]

/-- A reading that is skipped has no offset. -/
theorem Jump.offsetFor?_of_skipped {j : Jump} {reading : Int} (hleft : j.left < reading)
    (hright : reading < j.right) : j.offsetFor? reading = none := by
  unfold offsetFor?
  rw [if_neg (by omega), if_neg (by omega), if_pos hright]

namespace Zone

variable {z : Zone} {n day minute : Int} {j : Jump}

/-- The reading of a minute on a date. -/
def readingOn (day minute : Int) : Int := day * secondsPerDay + minute * 60

/-- Occurrences are landings, on all dates around the instant that the clock is read at. -/
theorem Near.landing (hj : z.Near n j)
    (hfrom : n + z.offsetAt n - secondsPerDay ≤ readingOn day minute)
    (hto : readingOn day minute ≤ n + z.offsetAt n + 3 * secondsPerDay) :
    ∃ place, Jump.Landing j (readingOn day minute) place ∧
      occurrenceOn? z day minute = place.map Moment.landed := by
  -- the search looks up the reading and the one an hour later, both as if the clock jumped once
  have hlook : ∀ r, readingOn day minute ≤ r → r ≤ readingOn day minute + 3600 →
      z.offsetFor? r = j.offsetFor? r := fun r hge hle => by
    apply hj.readingOffset
    · exact Int.le_trans hfrom hge
    · show r ≤ n + z.offsetAt n + 3 * secondsPerDay + 3600
      omega
  have hunfold : occurrenceOn? z day minute = resolveReading? z (readingOn day minute) := rfl
  rw [hunfold]
  generalize readingOn day minute = r at *
  unfold resolveReading? Moment.ofReading?
  rw [hlook r (by omega) (by omega), hlook (r + 3600) (by omega) (by omega)]
  by_cases hright : j.right ≤ r
  · exact ⟨_, .after hright, by rw [Jump.offsetFor?_of_after hright]; rfl⟩
  · by_cases hleft : r ≤ j.left
    · exact ⟨_, .before hleft (by omega), by
        rw [Jump.offsetFor?_of_before hleft (by omega)]; rfl⟩
    · -- the reading is skipped
      rw [Jump.offsetFor?_of_skipped (by omega) (by omega)]
      by_cases hhour : j.right ≤ r + 3600
      · exact ⟨_, .later (by omega) (by omega) hhour, by
          rw [Jump.offsetFor?_of_after hhour]; rfl⟩
      · exact ⟨_, .lost (by omega) (by omega), by
          rw [Jump.offsetFor?_of_skipped (by omega) (by omega)]; rfl⟩

/-- Near a jump the clock has not jumped yet, or it has, and its offset is accordingly. -/
theorem Near.offset_cases (hj : z.Near n j) :
    n < j.instant ∧ z.offsetAt n = j.before ∨ j.instant ≤ n ∧ z.offsetAt n = j.after := by
  have hday : secondsPerDay = 86400 := rfl
  have hoffset : z.offsetAt n = j.offsetAt n := hj.offset n (by omega) (by omega)
  rw [hoffset]
  by_cases hlt : n < j.instant
  · exact .inl ⟨hlt, Jump.offsetAt_of_lt hlt⟩
  · exact .inr ⟨by omega, Jump.offsetAt_of_le (by omega)⟩

/-- Near a jump, a reading that is ahead of what the clock shows lands ahead of it. -/
theorem Near.ahead (hj : z.Near n j) {r s o : Int} (hl : Jump.Landing j r (some (s, o)))
    (hr : n + z.offsetAt n < r) : n < s := by
  have hleft : j.left = j.instant + j.before := rfl
  have hright : j.right = j.instant + j.after := rfl
  have hnow := hj.offset_cases
  cases hl <;> omega

/-- A reading lands within a day and an hour of where it would land with the offset of now. -/
theorem Near.le (hj : z.Near n j) {r s o : Int} (hl : Jump.Landing j r (some (s, o))) :
    s ≤ r - z.offsetAt n + secondsPerDay + 3600 := by
  obtain ⟨hafter, hbefore⟩ := hj.small
  have hday : secondsPerDay = 86400 := rfl
  have hnow := hj.offset_cases
  cases hl <;> omega

/-- Readings that are skipped an hour later too are not skipped the next day. -/
theorem Near.exists_landed (hj : z.Near n j) {r : Int} {place place' : Option (Int × Int)}
    (hl : Jump.Landing j r place) (hl' : Jump.Landing j (r + secondsPerDay) place') :
    (∃ s o, place = some (s, o)) ∨ ∃ s o, place' = some (s, o) := by
  obtain ⟨hafter, hbefore⟩ := hj.small
  have hleft : j.left = j.instant + j.before := rfl
  have hright : j.right = j.instant + j.after := rfl
  have hday : secondsPerDay = 86400 := rfl
  cases hl with
  | before _ _ | after _ | later _ _ _ => exact .inl ⟨_, _, rfl⟩
  | lost hskipped hhour =>
    cases hl' with
    | before _ _ | after _ | later _ _ _ => exact .inr ⟨_, _, rfl⟩
    | lost _ _ => omega

/-! ### What the clock shows -/

/-- What the clock shows at a moment that was taken for a reading: the reading itself, or, if that
    is skipped, the end of the gap for the first reading in it and an hour more for any other. -/
inductive ReadsBack (z : Zone) (reading : Int) (m : Moment) : Prop where
  | shown (exact : m.reading = reading)
  | resumed (j : Jump) (mem : j ∈ z.jumps) (forward : j.left < j.right) (skipped : reading = j.left)
    (resumes : m.reading = j.right)
  | later (j : Jump) (mem : j ∈ z.jumps) (left : j.left < reading) (right : reading < j.right)
    (later : m.reading = reading + 3600)

/-- At a whole second nothing of it has gone. -/
theorem fraction_ofNanos (z : Zone) (s : Int) :
    (Moment.ofNanos z (s * nanosPerSecond)).fraction = 0 :=
  Int.mul_emod_left s nanosPerSecond

/-- What the clock shows at a whole second is counted off by the offset. -/
theorem reading_ofNanos (z : Zone) (s : Int) :
    (Moment.ofNanos z (s * nanosPerSecond)).reading = s + z.offsetAt s := by
  have hdiv : s * nanosPerSecond / nanosPerSecond = s := Int.mul_ediv_cancel s (by decide)
  unfold Moment.reading Moment.seconds Moment.ofNanos
  rw [hdiv]

/-- A jump forward that an instant is `Near` is one of the zone's. -/
theorem Near.mem_jumps (hj : z.Near n j) (hforward : j.left < j.right) : j ∈ z.jumps := by
  apply hj.mem
  intro heq
  unfold Jump.left Jump.right at hforward
  omega

/-- Near a jump the offset of a second before it is the one from before. -/
theorem Near.offsetAt_of_lt (hj : z.Near n j) {s : Int} (hge : n ≤ s)
    (hle : s ≤ n + 5 * secondsPerDay) (hlt : s < j.instant) : z.offsetAt s = j.before := by
  have hday : secondsPerDay = 86400 := rfl
  exact (hj.offset s (by omega) hle).trans (Jump.offsetAt_of_lt hlt)

/-- Near a jump the offset of a second from it on is the one from after. -/
theorem Near.offsetAt_of_le (hj : z.Near n j) {s : Int} (hge : n ≤ s)
    (hle : s ≤ n + 5 * secondsPerDay) (hlt : j.instant ≤ s) : z.offsetAt s = j.after := by
  have hday : secondsPerDay = 86400 := rfl
  exact (hj.offset s (by omega) hle).trans (Jump.offsetAt_of_le hlt)

/-- Near a jump, what a reading comes to by `Landing` is shown by the clock as `ReadsBack` says. -/
theorem Near.readsBack (hj : z.Near n j) {r s o : Int} (hl : Jump.Landing j r (some (s, o)))
    (hge : n ≤ s) (hle : s ≤ n + 5 * secondsPerDay) :
    ReadsBack z r (.ofNanos z (s * nanosPerSecond)) := by
  have hleft : j.left = j.instant + j.before := rfl
  have hright : j.right = j.instant + j.after := rfl
  have hreading := reading_ofNanos z s
  cases hl with
  | before hold hnew =>
    by_cases heq : r = j.left
    · -- the first reading in the gap lands where the clock jumps
      rw [hj.offsetAt_of_le hge hle (by omega)] at hreading
      exact .resumed j (hj.mem_jumps (by omega)) (by omega) heq (by omega)
    · rw [hj.offsetAt_of_lt hge hle (by omega)] at hreading
      exact .shown (by omega)
  | after hnew =>
    rw [hj.offsetAt_of_le hge hle (by omega)] at hreading
    exact .shown (by omega)
  | later hold hnew hhour =>
    rw [hj.offsetAt_of_le hge hle (by omega)] at hreading
    exact .later j (hj.mem_jumps (by omega)) hold hnew (by omega)

/-! ### The dates that are searched -/

/-- What the clock shows at a moment lies on the moment's date. -/
theorem day_bounds (z : Zone) (nanos : Int) :
    (Moment.ofNanos z nanos).day * secondsPerDay ≤
        nanos / nanosPerSecond + z.offsetAt (nanos / nanosPerSecond) ∧
      nanos / nanosPerSecond + z.offsetAt (nanos / nanosPerSecond) <
        ((Moment.ofNanos z nanos).day + 1) * secondsPerDay := by
  have hday : (Moment.ofNanos z nanos).day =
      (nanos / nanosPerSecond + z.offsetAt (nanos / nanosPerSecond)) / secondsPerDay := rfl
  rw [hday]
  unfold secondsPerDay
  omega

/-- A whole second is ahead of an instant exactly if it is ahead of the second that has begun then.
    -/
theorem lt_mul_nanosPerSecond (nanos s : Int) :
    nanos < s * nanosPerSecond ↔ nanos / nanosPerSecond < s := by
  unfold nanosPerSecond
  omega

/-- Near a jump, `occurrenceOn?` of the dates that are searched is the landing of the minute's
    reading. -/
theorem Near.searched {nanos : Int} (hj : z.Near (nanos / nanosPerSecond) j)
    (hm : isMinuteOfDay minute = true) (hfrom : (Moment.ofNanos z nanos).day ≤ day)
    (hto : day ≤ (Moment.ofNanos z nanos).day + 2) :
    ∃ place, Jump.Landing j (readingOn day minute) place ∧
      occurrenceOn? z day minute = place.map Moment.landed := by
  have hbounds := day_bounds z nanos
  rw [isMinuteOfDay_iff] at hm
  unfold minutesPerDay at hm
  apply hj.landing
  all_goals
    unfold readingOn
    unfold secondsPerDay at *
    omega

/-- Near a jump, the occurrence that is `FirstAhead` is a landing within five days. -/
theorem Near.found {nanos : Int} {m : Moment} (hj : z.Near (nanos / nanosPerSecond) j)
    (hm : isMinuteOfDay minute = true) (hf : FirstAhead z (.ofNanos z nanos) minute day m) :
    ∃ s o, Jump.Landing j (readingOn day minute) (some (s, o)) ∧ m = Moment.landed (s, o) ∧
      nanos / nanosPerSecond < s ∧ s ≤ nanos / nanosPerSecond + 5 * secondsPerDay := by
  obtain ⟨place, hl, hoccurs⟩ := hj.searched hm hf.fromToday hf.within
  rw [hf.occurs] at hoccurs
  obtain ⟨⟨s, o⟩, rfl, rfl⟩ := Option.map_eq_some_iff.1 hoccurs.symm
  refine ⟨s, o, hl, rfl, (lt_mul_nanosPerSecond nanos s).1 hf.ahead, ?_⟩
  have hle := hj.le hl
  have hbounds := day_bounds z nanos
  have hto := hf.within
  rw [isMinuteOfDay_iff] at hm
  unfold minutesPerDay at hm
  unfold readingOn at hle
  unfold secondsPerDay at *
  omega

/-- In a `Spaced` zone, today or one of the next two dates has an occurrence that is `FirstAhead`.
    -/
theorem Spaced.exists_firstAhead (hz : z.Spaced) (hm : isMinuteOfDay minute = true) (nanos : Int) :
    ∃ day m, FirstAhead z (.ofNanos z nanos) minute day m := by
  obtain ⟨j, hj⟩ := hz.exists_near (nanos / nanosPerSecond)
  have hbounds := day_bounds z nanos
  have hminute := (isMinuteOfDay_iff minute).1 hm
  generalize htoday : (Moment.ofNanos z nanos).day = today at hbounds
  -- whatever it lands on, a reading of a later date is ahead
  have hahead : ∀ d s o, today < d → d ≤ today + 2 →
      Jump.Landing j (readingOn d minute) (some (s, o)) →
      occurrenceOn? z d minute = some (Moment.landed (s, o)) →
      ∃ day m, FirstAhead z (.ofNanos z nanos) minute day m := by
    intro d s o hd hd' hl hoccurs
    have hs := hj.ahead hl (by
      unfold readingOn
      unfold secondsPerDay at *
      omega)
    exact Twilight.exists_firstAhead (by omega) (by omega) hoccurs
      ((lt_mul_nanosPerSecond nanos s).2 hs)
  have htomorrow : (Moment.ofNanos z nanos).day ≤ today + 1 := by omega
  have hafterwards : (Moment.ofNanos z nanos).day ≤ today + 2 := by omega
  obtain ⟨place₁, hl₁, hoccurs₁⟩ := hj.searched hm htomorrow (by omega)
  obtain ⟨place₂, hl₂, hoccurs₂⟩ := hj.searched hm hafterwards (by omega)
  have hnext : readingOn (today + 2) minute = readingOn (today + 1) minute + secondsPerDay := by
    unfold readingOn secondsPerDay
    omega
  rcases hj.exists_landed hl₁ (hnext ▸ hl₂) with ⟨s, o, rfl⟩ | ⟨s, o, rfl⟩
  · exact hahead _ s o (by omega) (by omega) hl₁ hoccurs₁
  · exact hahead _ s o (by omega) (by omega) hl₂ hoccurs₂

end Zone

end Time

variable {z : Zone} {minute : Int}

/-- In a `Spaced` zone every minute has a next occurrence. -/
theorem Time.Zone.Spaced.answers (hz : z.Spaced) : z.Answers := by
  intro nanos minute hm
  obtain ⟨day, m, hfirst⟩ := hz.exists_firstAhead hm nanos
  exact ⟨m, (nextOccurrence_eq_ok_iff hm).2 ⟨day, hfirst⟩⟩

/-- **In a spaced zone every minute of the day has a next occurrence.** It is ahead, and of today,
    tomorrow or the day after; at its instant, in full seconds, the wall clock shows the minute, or
    what comes of a gap if the minute is skipped on that date. -/
theorem readsBack_of_spaced (hz : z.Spaced) (hm : isMinuteOfDay minute = true) (nanos : Int) :
    ∃ m day, nextOccurrence z (.ofNanos z nanos) minute = .ok m ∧ nanos < m.nanos ∧
      (Moment.ofNanos z nanos).day ≤ day ∧ day ≤ (Moment.ofNanos z nanos).day + 2 ∧
      (Moment.ofNanos z m.nanos).fraction = 0 ∧
      z.ReadsBack (day * secondsPerDay + minute * 60) (.ofNanos z m.nanos) := by
  obtain ⟨day, m, hfirst⟩ := hz.exists_firstAhead hm nanos
  obtain ⟨j, hj⟩ := hz.exists_near (nanos / nanosPerSecond)
  obtain ⟨s, o, hl, rfl, hlt, hle⟩ := hj.found hm hfirst
  refine ⟨_, day, (nextOccurrence_eq_ok_iff hm).2 ⟨day, hfirst⟩, hfirst.ahead, hfirst.fromToday,
    hfirst.within, z.fraction_ofNanos s, ?_⟩
  exact hj.readsBack hl (by omega) hle

/-- A zone an hour ahead of UTC, and two hours in the summer of 2025: at two o'clock on 30 March the
    clock is put forward, at three o'clock on 26 October back. -/
def Time.Zone.summer : Zone := ⟨3600, [⟨1743296400, 7200⟩, ⟨1761440400, 3600⟩]⟩

/-- The two transitions of `summer` are far enough apart, and both are small. -/
theorem Time.Zone.summer_spaced : Zone.summer.Spaced := ⟨by decide, by decide⟩

/-- On the night in March, half past two is taken to be half past three. -/
theorem readsBack_of_summer :
    Zone.summer.Spaced ∧ isMinuteOfDay 150 = true ∧
      ∃ day, Zone.summer.ReadsBack (day * secondsPerDay + 150 * 60)
        (.ofNanos .summer (1743298200 * nanosPerSecond)) := by
  have hm : isMinuteOfDay 150 = true := by decide
  obtain ⟨m, day, hnext, -, -, -, -, hback⟩ :=
    readsBack_of_spaced Zone.summer_spaced hm (1743292800 * nanosPerSecond)
  have hfound : nextOccurrence .summer (.ofNanos .summer (1743292800 * nanosPerSecond)) 150 =
      .ok ⟨1743298200 * nanosPerSecond, 7200⟩ := rfl
  rw [hfound] at hnext
  cases hnext
  exact ⟨Zone.summer_spaced, hm, day, hback⟩

end Twilight
