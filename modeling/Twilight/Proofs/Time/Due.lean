import Mathlib.Order.Bounds.Defs
import Twilight.Proofs.Time.Landing

namespace Twilight

/-!
# What is due next

A minute of the day is due whenever the wall clock strikes it, and where the clock goes on after a
gap in which it was skipped.

* `Time.Zone.Due` — the instants at which a minute is due.
* `Time.Zone.Overlooks` — the four ways in which the search for the next occurrence misses what is
  due next: two at gaps, two where readings come twice.
* `isLeast_iff_of_spaced` — the next occurrence is what is due next, exactly if nothing is
  overlooked.
* `not_isLeast_of_gap` — in a gap, the search goes on an hour too far.
-/

open Time

namespace Time

/-- A minute of the day is skipped by a jump. The first reading in a gap is the one at which the
    clock jumps. -/
def Jump.Skips (j : Jump) (minute : Int) : Prop :=
  ∃ day, j.left ≤ Zone.readingOn day minute ∧ Zone.readingOn day minute < j.right

namespace Zone

/-- The wall clock shows the very start of a minute of the day, or goes on after it skipped that. -/
def Due (z : Zone) (minute nanos : Int) : Prop :=
  (Moment.ofNanos z nanos).Strikes minute ∨
    ∃ j ∈ z.jumps, j.Skips minute ∧ nanos = j.instant * nanosPerSecond

/-- The search for the next occurrence misses what is due next. -/
inductive Overlooks (z : Zone) (minute nanos : Int) : Prop where
  /-- The minute is skipped next, and the reading an hour later is not the end of the gap. -/
  | skipped (j : Jump) (mem : j ∈ z.jumps) (day : Int)
    (left : j.left < readingOn day minute) (right : readingOn day minute < j.right)
    (hour : readingOn day minute + 3600 ≠ j.right)
    (eve : (readingOn (day - 1) minute - j.before) * nanosPerSecond ≤ nanos)
    (ahead : nanos < j.instant * nanosPerSecond)
  /-- The minute was skipped, and the reading an hour later is still to come. -/
  | hourLater (j : Jump) (mem : j ∈ z.jumps) (day : Int)
    (left : j.left < readingOn day minute) (right : readingOn day minute < j.right)
    (today : (Moment.ofNanos z nanos).day ≤ day)
    (passed : j.instant * nanosPerSecond ≤ nanos)
    (ahead : nanos < (readingOn day minute + 3600 - j.after) * nanosPerSecond)
  /-- The minute comes twice, and the first time is next. -/
  | firstOfTwo (j : Jump) (mem : j ∈ z.jumps) (day : Int)
    (right : j.right ≤ readingOn day minute) (left : readingOn day minute < j.left)
    (eve : (readingOn (day - 1) minute - j.before) * nanosPerSecond ≤ nanos)
    (ahead : nanos < (readingOn day minute - j.before) * nanosPerSecond)
  /-- The minute comes twice, and the second time is next, but on a date that has ended before. -/
  | secondOfTwo (j : Jump) (mem : j ∈ z.jumps) (day : Int)
    (right : j.right ≤ readingOn day minute) (left : readingOn day minute < j.left)
    (yesterday : day < (Moment.ofNanos z nanos).day)
    (passed : (readingOn day minute - j.before) * nanosPerSecond ≤ nanos)
    (ahead : nanos < (readingOn day minute - j.after) * nanosPerSecond)

variable {z : Zone} {n s day minute nanos : Int} {j : Jump}

/-- The reading of a minute on the date before is a day less. -/
theorem readingOn_pred (day minute : Int) :
    readingOn (day - 1) minute = readingOn day minute - secondsPerDay := by
  unfold readingOn secondsPerDay
  omega

/-! ### Due seconds -/

/-- The same by the second: the clock shows the minute on some date, or goes on after it. -/
def DueAt (z : Zone) (minute s : Int) : Prop :=
  (∃ day, s + z.offsetAt s = readingOn day minute) ∨ ∃ j ∈ z.jumps, j.Skips minute ∧ s = j.instant

/-- A minute is `Due` at whole seconds only, those at which it is `DueAt`. -/
theorem due_iff (hm : isMinuteOfDay minute = true) (z : Zone) (nanos : Int) :
    z.Due minute nanos ↔ ∃ s, nanos = s * nanosPerSecond ∧ z.DueAt minute s := by
  rw [isMinuteOfDay_iff] at hm
  unfold minutesPerDay at hm
  constructor
  · rintro (⟨hsecond, hfraction⟩ | ⟨j, hmem, hskips, rfl⟩)
    · -- the clock shows the very start of a second
      have hfull : nanos = nanos / nanosPerSecond * nanosPerSecond := by
        unfold Moment.fraction at hfraction
        exact (Int.ediv_mul_cancel_of_emod_eq_zero hfraction).symm
      refine ⟨nanos / nanosPerSecond, hfull, .inl ⟨(Moment.ofNanos z nanos).day, ?_⟩⟩
      have hreading : (Moment.ofNanos z nanos).reading =
          nanos / nanosPerSecond + z.offsetAt (nanos / nanosPerSecond) := rfl
      rw [← hreading]
      unfold readingOn
      rw [← hsecond]
      exact (Int.ediv_mul_add_emod _ _).symm
    · exact ⟨j.instant, rfl, .inr ⟨j, hmem, hskips, rfl⟩⟩
  · rintro ⟨s, rfl, ⟨day, hshown⟩ | ⟨j, hmem, hskips, rfl⟩⟩
    · left
      refine ⟨?_, z.fraction_ofNanos s⟩
      unfold Moment.secondOfDay
      rw [reading_ofNanos, hshown]
      unfold readingOn secondsPerDay
      omega
    · exact .inr ⟨j, hmem, hskips, rfl⟩

/-- Why a minute is due at a second near a jump. -/
inductive NearlyDue (j : Jump) (minute s : Int) : Prop where
  | before (day : Int) (lt : s < j.instant) (shown : s + j.before = readingOn day minute)
  | after (day : Int) (le : j.instant ≤ s) (shown : s + j.after = readingOn day minute)
  | resumed (day : Int) (eq : s = j.instant) (left : j.left ≤ readingOn day minute)
    (right : readingOn day minute < j.right)

/-- Near a jump, a minute is due at a second for one of the reasons of `NearlyDue`. -/
theorem Near.dueAt_iff (hj : z.Near n j) (hge : n ≤ s) (hle : s ≤ n + 5 * secondsPerDay) :
    z.DueAt minute s ↔ NearlyDue j minute s := by
  have hday : secondsPerDay = 86400 := rfl
  constructor
  · rintro (⟨day, hshown⟩ | ⟨k, hk, ⟨day, hleft, hright⟩, rfl⟩)
    · by_cases hlt : s < j.instant
      · rw [hj.offsetAt_of_lt hge hle hlt] at hshown
        exact .before day hlt hshown
      · rw [hj.offsetAt_of_le hge hle (by omega)] at hshown
        exact .after day (by omega) hshown
    · obtain rfl : k = j := hj.only k hk (by omega) hle
      exact .resumed day rfl hleft hright
  · rintro (⟨day, hlt, hshown⟩ | ⟨day, hle', hshown⟩ | ⟨day, rfl, hleft, hright⟩)
    · exact .inl ⟨day, by rw [hj.offsetAt_of_lt hge hle hlt, hshown]⟩
    · exact .inl ⟨day, by rw [hj.offsetAt_of_le hge hle hle', hshown]⟩
    · exact .inr ⟨j, hj.mem_jumps (by omega), ⟨day, hleft, hright⟩, rfl⟩

/-! ### The search is the first landing ahead -/

/-- A reading has one landing. -/
theorem landing_unique {r : Int} {p q : Option (Int × Int)} (hp : Jump.Landing j r p)
    (hq : Jump.Landing j r q) : p = q := by
  cases hp <;> cases hq <;> first | rfl | omega

/-- Readings a day apart land one after the other, as a small jump moves the clock by less. -/
theorem landing_lt (hj : j.IsSmall) {r r' s s' o o' : Int}
    (hl : Jump.Landing j r (some (s, o))) (hl' : Jump.Landing j r' (some (s', o')))
    (hlt : r + secondsPerDay ≤ r') : s < s' := by
  obtain ⟨hafter, hbefore⟩ := hj
  have hday : secondsPerDay = 86400 := rfl
  have hleft : j.left = j.instant + j.before := rfl
  have hright : j.right = j.instant + j.after := rfl
  cases hl <;> cases hl' <;> omega

/-- The minute lands on `day` at the second `s`, and on no earlier date that is searched does it
    land ahead of the clock. -/
structure Found (z : Zone) (minute nanos : Int) (j : Jump) (day s : Int) : Prop where
  near : z.Near (nanos / nanosPerSecond) j
  landing : ∃ o, Jump.Landing j (readingOn day minute) (some (s, o))
  fromToday : (Moment.ofNanos z nanos).day ≤ day
  ahead : nanos / nanosPerSecond < s
  within : s ≤ nanos / nanosPerSecond + 5 * secondsPerDay
  passed : ∀ d s' o, (Moment.ofNanos z nanos).day ≤ d → d < day →
    Jump.Landing j (readingOn d minute) (some (s', o)) → s' ≤ nanos / nanosPerSecond

/-- The first occurrence ahead lands where `Found` says, and at a whole second. -/
theorem Found.of_firstAhead {m : Moment} (hj : z.Near (nanos / nanosPerSecond) j)
    (hm : isMinuteOfDay minute = true) (hf : FirstAhead z (.ofNanos z nanos) minute day m) :
    ∃ s, Found z minute nanos j day s ∧ m.nanos = s * nanosPerSecond := by
  obtain ⟨s, o, hl, rfl, hlt, hle⟩ := hj.found hm hf
  refine ⟨s, ⟨hj, ⟨o, hl⟩, hf.fromToday, hlt, hle, ?_⟩, rfl⟩
  intro d s' o' hd hd' hl'
  have hto := hf.within
  obtain ⟨place, hplace, hoccurs⟩ := hj.searched hm hd (by omega)
  rw [landing_unique hplace hl'] at hoccurs
  have hpassed := hf.passed d hd hd' _ hoccurs
  have hnot : ¬ nanos < s' * nanosPerSecond := Int.not_lt.2 hpassed
  rw [lt_mul_nanosPerSecond] at hnot
  omega

/-- What is `Found` is the first landing ahead, of all dates from today on. -/
theorem Found.le (hf : Found z minute nanos j day s) {d s' o : Int}
    (hd : (Moment.ofNanos z nanos).day ≤ d)
    (hl : Jump.Landing j (readingOn d minute) (some (s', o)))
    (hlt : nanos / nanosPerSecond < s') : s ≤ s' := by
  obtain ⟨o₁, hfound⟩ := hf.landing
  rcases Int.lt_trichotomy d day with hbefore | rfl | hbehind
  · have := hf.passed d s' o hd hbefore hl
    omega
  · have heq := landing_unique hfound hl
    simp only [Option.some.injEq, Prod.mk.injEq] at heq
    omega
  · have := landing_lt hf.near.small hfound hl (by
      unfold readingOn secondsPerDay
      omega)
    omega

/-- A date whose reading the clock has not reached yet is not before today. -/
theorem today_le_of_lt (hm : isMinuteOfDay minute = true) {d : Int}
    (hlt : nanos / nanosPerSecond + z.offsetAt (nanos / nanosPerSecond) < readingOn d minute) :
    (Moment.ofNanos z nanos).day ≤ d := by
  have hbounds := day_bounds z nanos
  rw [isMinuteOfDay_iff] at hm
  unfold minutesPerDay at hm
  unfold readingOn at hlt
  unfold secondsPerDay at *
  omega

/-- The clock has passed the readings of a minute on all dates before today. -/
theorem lt_of_lt_today (z : Zone) (nanos : Int) (hm : isMinuteOfDay minute = true) {d : Int}
    (hlt : d < (Moment.ofNanos z nanos).day) :
    readingOn d minute < nanos / nanosPerSecond + z.offsetAt (nanos / nanosPerSecond) := by
  have hbounds := day_bounds z nanos
  rw [isMinuteOfDay_iff] at hm
  unfold minutesPerDay at hm
  unfold readingOn
  unfold secondsPerDay at *
  omega

/-- If the clock has not jumped yet, the stroke of a day before the jump is not ahead where what was
    found comes later. -/
theorem Found.eve (hf : Found z minute nanos j day s) (hm : isMinuteOfDay minute = true)
    (hbefore : nanos / nanosPerSecond < j.instant) {d : Int} (hleft : readingOn d minute ≤ j.left)
    (hright : readingOn d minute < j.right) (hlt : readingOn d minute - j.before < s) :
    readingOn d minute - j.before ≤ nanos / nanosPerSecond := by
  apply Int.not_lt.1
  intro hahead
  have hnow := hf.near.offset_cases
  have hd : (Moment.ofNanos z nanos).day ≤ d := today_le_of_lt hm (by omega)
  have := hf.le hd (.before hleft hright) (by omega)
  omega

/-- A whole second is not ahead of an instant exactly where it is not ahead of the second that has
    begun then. -/
theorem mul_nanosPerSecond_le (nanos s : Int) :
    s * nanosPerSecond ≤ nanos ↔ s ≤ nanos / nanosPerSecond := by
  unfold nanosPerSecond
  omega

/-- What is `Found` is due, unless the search `Overlooks` something. -/
theorem Found.due (hf : Found z minute nanos j day s) (hm : isMinuteOfDay minute = true)
    (hnone : ¬ z.Overlooks minute nanos) : NearlyDue j minute s := by
  obtain ⟨hafter, hbefore⟩ := hf.near.small
  have hleft : j.left = j.instant + j.before := rfl
  have hright : j.right = j.instant + j.after := rfl
  have hahead := hf.ahead
  obtain ⟨o, hl⟩ := hf.landing
  cases hl with
  | before hold hnew =>
    -- the first reading in a gap is the one at which the clock jumps
    by_cases heq : readingOn day minute = j.left
    · exact .resumed day (by omega) (by omega) hnew
    · exact .before day (by omega) (by omega)
  | after hnew => exact .after day (by omega) (by omega)
  | later hold hnew hhour =>
    by_cases heq : readingOn day minute + 3600 = j.right
    · exact .resumed day (by omega) (by omega) hnew
    · -- the minute is not shown an hour later, so the search should have stopped at the gap
      exfalso
      apply hnone
      have hmem := hf.near.mem_jumps (by omega)
      by_cases hlt : nanos / nanosPerSecond < j.instant
      · have hpred := readingOn_pred day minute
        have heve := hf.eve hm hlt (d := day - 1) (by omega) (by omega) (by omega)
        exact .skipped j hmem day hold hnew heq ((mul_nanosPerSecond_le _ _).2 heve)
          ((lt_mul_nanosPerSecond _ _).2 hlt)
      · exact .hourLater j hmem day hold hnew hf.fromToday
          ((mul_nanosPerSecond_le _ _).2 (by omega)) ((lt_mul_nanosPerSecond _ _).2 hahead)

/-- Nothing is due before what is `Found`, unless the search `Overlooks` something. -/
theorem Found.le_of_due (hf : Found z minute nanos j day s) (hm : isMinuteOfDay minute = true)
    (hnone : ¬ z.Overlooks minute nanos) {s' : Int} (hs' : nanos / nanosPerSecond < s')
    (hdue : NearlyDue j minute s') : s ≤ s' := by
  obtain ⟨hafter, hbefore⟩ := hf.near.small
  have hleft : j.left = j.instant + j.before := rfl
  have hright : j.right = j.instant + j.after := rfl
  have hday : secondsPerDay = 86400 := rfl
  have hnow := hf.near.offset_cases
  apply Int.not_lt.1
  intro hlt
  cases hdue with
  | before e hjump hshown =>
    have hpred := readingOn_pred e minute
    have he : (Moment.ofNanos z nanos).day ≤ e := today_le_of_lt hm (by omega)
    by_cases htwice : j.right ≤ readingOn e minute
    · -- the clock is going to show it again, and the search waits for that
      have heve := hf.eve hm (by omega) (d := e - 1) (by omega) (by omega) (by omega)
      exact hnone (.firstOfTwo j (hf.near.mem (by omega)) e htwice (by omega)
        ((mul_nanosPerSecond_le _ _).2 heve) ((lt_mul_nanosPerSecond _ _).2 (by omega)))
    · have := hf.le he (.before (by omega) (by omega)) (by omega)
      omega
  | after e hjump hshown =>
    have hl : Jump.Landing j (readingOn e minute) (some (s', j.after)) := by
      rw [show s' = readingOn e minute - j.after by omega]
      exact .after (by omega)
    by_cases he : (Moment.ofNanos z nanos).day ≤ e
    · have := hf.le he hl hs'
      omega
    · -- the clock goes back to a date that has ended
      have hpast := lt_of_lt_today z nanos hm (Int.not_le.1 he)
      exact hnone (.secondOfTwo j (hf.near.mem (by omega)) e (by omega) (by omega) (by omega)
        ((mul_nanosPerSecond_le _ _).2 (by omega)) ((lt_mul_nanosPerSecond _ _).2 (by omega)))
  | resumed e heq hge hgap =>
    have hpred := readingOn_pred e minute
    have he : (Moment.ofNanos z nanos).day ≤ e := today_le_of_lt hm (by omega)
    -- the minute is skipped, and due when the clock has jumped
    by_cases hfirst : readingOn e minute = j.left
    · have := hf.le he (.before (by omega) hgap) (by omega)
      omega
    · by_cases hhour : readingOn e minute + 3600 = j.right
      · have := hf.le he (.later (by omega) hgap (by omega)) (by omega)
        omega
      · have heve := hf.eve hm (by omega) (d := e - 1) (by omega) (by omega) (by omega)
        exact hnone (.skipped j (hf.near.mem_jumps (by omega)) e (by omega) hgap hhour
          ((mul_nanosPerSecond_le _ _).2 heve) ((lt_mul_nanosPerSecond _ _).2 (by omega)))

/-! ### What is overlooked -/

/-- Readings of the same minute are the same, or a day apart at least. -/
theorem readingOn_cases (d e minute : Int) :
    readingOn d minute = readingOn e minute ∨
    readingOn d minute + secondsPerDay ≤ readingOn e minute ∨
    readingOn e minute + secondsPerDay ≤ readingOn d minute := by
  unfold readingOn secondsPerDay
  omega

/-- What is found comes after the end of a gap in which the minute is skipped next. -/
theorem Found.lt_of_skipped (hf : Found z minute nanos j day s) {e : Int}
    (hleft : j.left < readingOn e minute) (hright : readingOn e minute < j.right)
    (hhour : readingOn e minute + 3600 ≠ j.right)
    (heve : readingOn (e - 1) minute - j.before ≤ nanos / nanosPerSecond) : j.instant < s := by
  have hjl : j.left = j.instant + j.before := rfl
  have hjr : j.right = j.instant + j.after := rfl
  have hahead := hf.ahead
  obtain ⟨hafter, hbefore⟩ := hf.near.small
  obtain ⟨o, hl⟩ := hf.landing
  rw [readingOn_pred] at heve
  rcases readingOn_cases day e minute with hsame | hsooner | hlater
  · cases hl <;> omega
  · -- then it would be the stroke of an earlier day, which has passed
    cases hl <;> omega
  · cases hl <;> omega

/-- A reading that was skipped is taken an hour later, when the clock has jumped; that is no stroke
    of the minute. -/
theorem Found.not_due_of_hourLater (hf : Found z minute nanos j day s) {e : Int}
    (hleft : j.left < readingOn e minute) (hright : readingOn e minute < j.right)
    (htoday : (Moment.ofNanos z nanos).day ≤ e) (hpassed : j.instant ≤ nanos / nanosPerSecond)
    (hnext : nanos / nanosPerSecond < readingOn e minute + 3600 - j.after) :
    ¬ NearlyDue j minute s := by
  have hjl : j.left = j.instant + j.before := rfl
  have hjr : j.right = j.instant + j.after := rfl
  have hday : secondsPerDay = 86400 := rfl
  have hahead := hf.ahead
  obtain ⟨hafter, hbefore⟩ := hf.near.small
  have hle := hf.le htoday (.later hleft hright (by omega)) hnext
  -- so it is that reading that was found
  have hs : s = readingOn e minute + 3600 - j.after := by
    obtain ⟨o, hl⟩ := hf.landing
    rcases readingOn_cases day e minute with hsame | hsooner | hlater
    · cases hl <;> omega
    · cases hl <;> omega
    · cases hl <;> omega
  intro hdue
  cases hdue with
  | before d hlt hshown => omega
  | after d hge hshown =>
    unfold readingOn secondsPerDay at hs hshown
    omega
  | resumed d heq _ _ => omega

/-- What is found comes after the first of two strokes if that is next. -/
theorem Found.lt_of_firstOfTwo (hf : Found z minute nanos j day s) {e : Int}
    (hright : j.right ≤ readingOn e minute) (hleft : readingOn e minute < j.left)
    (heve : readingOn (e - 1) minute - j.before ≤ nanos / nanosPerSecond) :
    readingOn e minute - j.before < s := by
  have hday : secondsPerDay = 86400 := rfl
  have hjl : j.left = j.instant + j.before := rfl
  have hjr : j.right = j.instant + j.after := rfl
  have hahead := hf.ahead
  obtain ⟨o, hl⟩ := hf.landing
  rw [readingOn_pred] at heve
  rcases readingOn_cases day e minute with hsame | hsooner | hlater
  · cases hl <;> omega
  · cases hl <;> omega
  · cases hl <;> omega

/-- What is found comes after the second of two strokes on a date that has ended. -/
theorem Found.lt_of_secondOfTwo (hf : Found z minute nanos j day s) {e : Int}
    (hright : j.right ≤ readingOn e minute) (hpast : e < (Moment.ofNanos z nanos).day) :
    readingOn e minute - j.after < s := by
  have hday : secondsPerDay = 86400 := rfl
  have hjl : j.left = j.instant + j.before := rfl
  have hjr : j.right = j.instant + j.after := rfl
  obtain ⟨hafter, hbefore⟩ := hf.near.small
  have hlt : e < day := Int.lt_of_lt_of_le hpast hf.fromToday
  have hnext : readingOn e minute + secondsPerDay ≤ readingOn day minute := by
    unfold readingOn secondsPerDay
    omega
  obtain ⟨o, hl⟩ := hf.landing
  cases hl <;> omega

/-- Where something is overlooked, it is due before what is found, or what is found is not due. -/
theorem Found.not_least (hz : z.Spaced) (hf : Found z minute nanos j day s)
    (hover : z.Overlooks minute nanos) (hdue : NearlyDue j minute s)
    (hleast : ∀ s', nanos / nanosPerSecond < s' → s' ≤ nanos / nanosPerSecond + 5 * secondsPerDay →
      NearlyDue j minute s' → s ≤ s') : False := by
  have hday : secondsPerDay = 86400 := rfl
  have hwithin := hf.within
  -- the jump is the one near the clock
  have hnear : ∀ k ∈ z.jumps, nanos / nanosPerSecond - secondsPerDay ≤ k.instant →
      k.instant ≤ nanos / nanosPerSecond + 5 * secondsPerDay → k = j := hf.near.only
  cases hover with
  | skipped k hk e hleft hright hhour heve hnext =>
    obtain ⟨hafter, hbefore⟩ := hz.small k hk
    have hkl : k.left = k.instant + k.before := rfl
    rw [mul_nanosPerSecond_le] at heve
    rw [lt_mul_nanosPerSecond] at hnext
    have hpred := readingOn_pred e minute
    obtain rfl : k = j := hnear k hk (by omega) (by omega)
    have hlt := hf.lt_of_skipped hleft hright hhour heve
    have := hleast k.instant hnext (by omega) (.resumed e rfl (by omega) hright)
    omega
  | hourLater k hk e hleft hright htoday hpassed hnext =>
    have hkr : k.right = k.instant + k.after := rfl
    rw [mul_nanosPerSecond_le] at hpassed
    rw [lt_mul_nanosPerSecond] at hnext
    obtain rfl : k = j := hnear k hk (by omega) (by omega)
    exact hf.not_due_of_hourLater hleft hright htoday hpassed hnext hdue
  | firstOfTwo k hk e hright hleft heve hnext =>
    obtain ⟨hafter, hbefore⟩ := hz.small k hk
    have hkl : k.left = k.instant + k.before := rfl
    have hkr : k.right = k.instant + k.after := rfl
    rw [mul_nanosPerSecond_le] at heve
    rw [lt_mul_nanosPerSecond] at hnext
    have hpred := readingOn_pred e minute
    obtain rfl : k = j := hnear k hk (by omega) (by omega)
    have hlt := hf.lt_of_firstOfTwo hright hleft heve
    have := hleast _ hnext (by omega) (.before e (by omega) (by omega))
    omega
  | secondOfTwo k hk e hright hleft hpast hpassed hnext =>
    obtain ⟨hafter, hbefore⟩ := hz.small k hk
    have hkl : k.left = k.instant + k.before := rfl
    have hkr : k.right = k.instant + k.after := rfl
    rw [mul_nanosPerSecond_le] at hpassed
    rw [lt_mul_nanosPerSecond] at hnext
    obtain rfl : k = j := hnear k hk (by omega) (by omega)
    have hlt := hf.lt_of_secondOfTwo hright hpast
    have := hleast _ hnext (by omega) (.after e (by omega) (by omega))
    omega

end Zone

end Time

variable {z : Zone} {minute : Int}

/-- **The next occurrence is the first instant at which its minute is due, exactly if nothing is
    overlooked.** In a `Spaced` zone `nextOccurrence` always answers; what it answers is the least
    instant ahead at which the minute is `Due`, unless the search `Overlooks` one near a gap or a
    repeated hour. -/
theorem isLeast_iff_of_spaced (hz : z.Spaced) (hm : isMinuteOfDay minute = true) (nanos : Int) :
    ∃ m, nextOccurrence z (.ofNanos z nanos) minute = .ok m ∧
      (IsLeast {t | nanos < t ∧ z.Due minute t} m.nanos ↔ ¬ z.Overlooks minute nanos) := by
  obtain ⟨day, m, hfirst⟩ := hz.exists_firstAhead hm nanos
  obtain ⟨j, hj⟩ := hz.exists_near (nanos / nanosPerSecond)
  obtain ⟨s, hf, hs⟩ := Zone.Found.of_firstAhead hj hm hfirst
  have hwithin := hf.within
  have hahead := hf.ahead
  refine ⟨m, (nextOccurrence_eq_ok_iff hm).2 ⟨day, hfirst⟩, ?_⟩
  rw [hs]
  constructor
  · rintro ⟨⟨_, hdue⟩, hlower⟩ hover
    obtain ⟨s', heq, hdue⟩ := (Zone.due_iff hm z _).1 hdue
    obtain rfl : s = s' := Int.eq_of_mul_eq_mul_right (by decide) heq
    -- what was overlooked is due before what was found
    refine hf.not_least hz hover ((hj.dueAt_iff (by omega) hwithin).1 hdue) ?_
    intro s' hlt hle hdue'
    have hmem : s' * nanosPerSecond ∈ {t | nanos < t ∧ z.Due minute t} :=
      ⟨(Zone.lt_mul_nanosPerSecond _ _).2 hlt,
        (Zone.due_iff hm z _).2 ⟨s', rfl, (hj.dueAt_iff (by omega) hle).2 hdue'⟩⟩
    exact Int.le_of_mul_le_mul_right (hlower hmem) (by decide)
  · intro hnone
    refine ⟨⟨(Zone.lt_mul_nanosPerSecond _ _).2 hahead, ?_⟩, ?_⟩
    · exact (Zone.due_iff hm z _).2
        ⟨s, rfl, (hj.dueAt_iff (by omega) hwithin).2 (hf.due hm hnone)⟩
    · rintro t ⟨hlt, hdue⟩
      obtain ⟨s', rfl, hdue'⟩ := (Zone.due_iff hm z _).1 hdue
      rw [Zone.lt_mul_nanosPerSecond] at hlt
      -- what is due later need not be near the jump
      rcases Int.le_total s s' with hle | hle
      · exact Int.mul_le_mul_of_nonneg_right hle (by decide)
      · have := hf.le_of_due hm hnone hlt ((hj.dueAt_iff (by omega) (by omega)).1 hdue')
        exact Int.mul_le_mul_of_nonneg_right this (by decide)

/-- Once the first half past two of the night in October has passed, the second is the next. -/
theorem isLeast_of_summer :
    Zone.summer.Spaced ∧ isMinuteOfDay 150 = true ∧
      IsLeast {t | 1761438600 * nanosPerSecond < t ∧ Zone.summer.Due 150 t}
        (1761442200 * nanosPerSecond) := by
  have hm : isMinuteOfDay 150 = true := by decide
  have hnone : ¬ Zone.summer.Overlooks 150 (1761438600 * nanosPerSecond) := by
    have htoday : (Moment.ofNanos .summer (1761438600 * nanosPerSecond)).day = 20387 := rfl
    have hjumps : ∀ j ∈ Zone.summer.jumps,
        j = ⟨1743296400, 3600, 7200⟩ ∨ j = ⟨1761440400, 7200, 3600⟩ := by decide
    -- the jump in March is far away, and the one in October comes after the first of two strokes
    rintro (⟨j, hj⟩ | ⟨j, hj⟩ | ⟨j, hj⟩ | ⟨j, hj⟩)
    all_goals
      rcases hjumps j hj with rfl | rfl
      all_goals
        simp only [Jump.left, Jump.right, Zone.readingOn, secondsPerDay, nanosPerSecond] at *
        omega
  obtain ⟨m, hnext, hleast⟩ :=
    isLeast_iff_of_spaced Zone.summer_spaced hm (1761438600 * nanosPerSecond)
  have hfound : nextOccurrence .summer (.ofNanos .summer (1761438600 * nanosPerSecond)) 150 =
      .ok ⟨1761442200 * nanosPerSecond, 3600⟩ := rfl
  rw [hfound] at hnext
  cases hnext
  exact ⟨Zone.summer_spaced, hm, hleast.2 hnone⟩

/-- On the night in March, the clock goes on at three o'clock, but the search for half past two goes
    on to half past three. -/
theorem not_isLeast_of_gap :
    Zone.summer.Spaced ∧ isMinuteOfDay 150 = true ∧
      ∃ m, nextOccurrence .summer (.ofNanos .summer (1743292800 * nanosPerSecond)) 150 = .ok m ∧
        ¬ IsLeast {t | 1743292800 * nanosPerSecond < t ∧ Zone.summer.Due 150 t} m.nanos := by
  refine ⟨Zone.summer_spaced, by decide, ⟨1743298200 * nanosPerSecond, 7200⟩, rfl, ?_⟩
  rintro ⟨-, hlower⟩
  have hdue : Zone.summer.Due 150 (1743296400 * nanosPerSecond) :=
    .inr ⟨⟨1743296400, 3600, 7200⟩, by decide, ⟨20177, by decide, by decide⟩, rfl⟩
  have hle := hlower ⟨by decide, hdue⟩
  exact absurd hle (by decide)

end Twilight
