import Twilight.Proofs.Time.Constant
import Twilight.Proofs.Time.Search

namespace Twilight

/-!
# Minutes that come every day

Where the wall clock is always the same offset ahead of UTC, a minute of the day strikes once in
24 hours, and the search for its next occurrence loses none of them.

* `Time.Zone.Constant.strikes_iff` — a minute strikes at its occurrences, one on every date.
* `nextOccurrence_occurrenceAt` — what follows the occurrence of a minute on a date.
* `answersFrom` — the answers of a chain that asks for two minutes by turns.
* `daily_of_constant` — the next occurrence is the only stroke within 24 hours; chains go from one
  stroke to the next.
-/

open Time

namespace Time

/-- Nanoseconds in a day. -/
def nanosPerDay : Int := secondsPerDay * nanosPerSecond

namespace Zone

variable {z : Zone} {minute other : Int}

/-- In a `Constant` zone a moment has the base as its offset. -/
theorem Constant.ofNanos (hz : z.Constant) (nanos : Int) :
    Moment.ofNanos z nanos = ⟨nanos, z.base⟩ := by
  unfold Moment.ofNanos
  rw [hz.offsetAt]

/-- An occurrence is read with the offset that it was found with. -/
theorem Constant.ofNanos_occurrenceAt (hz : z.Constant) (day minute : Int) :
    Moment.ofNanos z (z.occurrenceAt day minute).nanos = z.occurrenceAt day minute := hz.ofNanos _

theorem occurrenceAt_nanos (z : Zone) (day minute : Int) :
    (z.occurrenceAt day minute).nanos =
      (day * secondsPerDay + minute * 60 - z.base) * nanosPerSecond := rfl

/-- In a `Constant` zone a minute `Strikes` at its occurrences, and at no other instant. -/
theorem Constant.strikes_iff (hz : z.Constant) (hm : isMinuteOfDay minute = true) (t : Int) :
    (Moment.ofNanos z t).Strikes minute ↔ ∃ day, t = (z.occurrenceAt day minute).nanos := by
  rw [isMinuteOfDay_iff] at hm
  rw [hz.ofNanos]
  simp only [Moment.Strikes, Moment.secondOfDay, Moment.reading, Moment.seconds, Moment.fraction,
    occurrenceAt_nanos]
  unfold minutesPerDay at hm
  unfold secondsPerDay nanosPerSecond
  constructor
  · rintro ⟨hsecond, hfraction⟩
    exact ⟨(t / 1000000000 + z.base) / 86400, by omega⟩
  · rintro ⟨day, rfl⟩
    omega

/-- The last occurrence of another minute is of the same date if that comes later in the day. -/
theorem lastDay_occurrenceAt (z : Zone) (hm : isMinuteOfDay minute = true)
    (ho : isMinuteOfDay other = true) (day : Int) :
    z.lastDay (z.occurrenceAt day minute).nanos other + 1 =
      if minute < other then day else day + 1 := by
  rw [isMinuteOfDay_iff] at hm ho
  simp only [lastDay, occurrenceAt_nanos]
  unfold minutesPerDay at hm ho
  unfold secondsPerDay nanosPerSecond
  by_cases hlt : minute < other
  · rw [if_pos hlt]
    omega
  · rw [if_neg hlt]
    omega

end Zone

end Time

variable {z : Zone} {minute other : Int}

/-- After the occurrence of a minute on a date, another one occurs on the same date if it comes
    later in the day, and else on the next date. -/
theorem nextOccurrence_occurrenceAt (hz : z.Constant) (hm : isMinuteOfDay minute = true)
    (ho : isMinuteOfDay other = true) (day : Int) :
    nextOccurrence z (z.occurrenceAt day minute) other =
      .ok (z.occurrenceAt (if minute < other then day else day + 1) other) := by
  have hnext := nextOccurrence_of_constant hz ho (z.occurrenceAt day minute).nanos
  rw [hz.ofNanos_occurrenceAt] at hnext
  rw [hnext, z.lastDay_occurrenceAt hm ho]

/-! ### The stroke of a day -/

/-- In a `Constant` zone the next occurrence is the only stroke of the next 24 hours. -/
theorem strikes_within_day_iff (hz : z.Constant) (hm : isMinuteOfDay minute = true)
    (nanos t : Int) :
    (nanos < t ∧ t ≤ nanos + nanosPerDay ∧ (Moment.ofNanos z t).Strikes minute) ↔
      t = (z.occurrenceAt (z.lastDay nanos minute + 1) minute).nanos := by
  have hlast := z.occurrenceAt_le_iff nanos (z.lastDay nanos minute) minute
  have hnext := z.occurrenceAt_le_iff nanos (z.lastDay nanos minute + 1) minute
  rw [hz.strikes_iff hm]
  rw [Zone.occurrenceAt_nanos] at hlast hnext ⊢
  unfold nanosPerDay
  constructor
  · rintro ⟨hlt, hle, day, rfl⟩
    -- it lies after the last occurrence, and not a whole day after the next
    have hday := z.occurrenceAt_le_iff nanos day minute
    rw [Zone.occurrenceAt_nanos] at hlt hle hday ⊢
    unfold secondsPerDay nanosPerSecond at *
    omega
  · intro ht
    refine ⟨?_, ?_, _, ht⟩ <;> unfold secondsPerDay nanosPerSecond at * <;> omega

/-! ### Chains -/

/-- In a `Constant` zone the answers to one and the same minute are a day apart. By induction on how
    many there are. -/
theorem occurrenceChain_replicate (hz : z.Constant) (hm : isMinuteOfDay minute = true)
    {now : Moment} {day : Int}
    (hfirst : nextOccurrence z now minute = .ok (z.occurrenceAt day minute)) (n : Nat) :
    occurrenceChain z now (List.replicate n minute) =
      (List.range n).map fun i => .ok (z.occurrenceAt (day + i) minute) := by
  have hminutes : List.replicate n minute = (List.range n).map fun _ => minute := by
    rw [List.map_const', List.length_range]
  rw [hminutes]
  refine occurrenceChain_range ?_ ?_ n
  · rw [hfirst, Int.natCast_zero, Int.add_zero]
  · intro i
    rw [nextOccurrence_occurrenceAt hz hm hm, if_neg (Int.lt_irrefl _), Int.natCast_add,
      Int.add_assoc]
    rfl

/-- Two minutes by turns, the first one first. -/
def alternately (minute other : Int) (i : Nat) : Int := if i % 2 = 0 then minute else other

/-- The answers to two minutes by turns, when the first answer is of `day`. -/
def answersFrom (z : Zone) (day minute other : Int) (i : Nat) : Moment :=
  if i % 2 = 0 then z.occurrenceAt (day + (i / 2 : Nat)) minute
  else z.occurrenceAt ((if minute < other then day else day + 1) + (i / 2 : Nat)) other

/-- The first minute is answered at the even places, one date after the other. -/
theorem answersFrom_even (z : Zone) (day minute other : Int) (k : Nat) :
    answersFrom z day minute other (2 * k) = z.occurrenceAt (day + k) minute := by
  unfold answersFrom
  rw [if_pos (by omega), show 2 * k / 2 = k by omega]

/-- The other minute is answered at the odd places, on the same date if it is the later one, and
    otherwise on the next one. -/
theorem answersFrom_odd (z : Zone) (day minute other : Int) (k : Nat) :
    answersFrom z day minute other (2 * k + 1) =
      z.occurrenceAt ((if minute < other then day else day + 1) + k) other := by
  unfold answersFrom
  rw [if_neg (by omega), show (2 * k + 1) / 2 = k by omega]

/-- Turns are of the first minute or of the second. -/
theorem turn_cases (i : Nat) : ∃ k, i = 2 * k ∨ i = 2 * k + 1 := ⟨i / 2, by omega⟩

/-- Each of `answersFrom` is the next occurrence, seen from the one before, of the minute whose turn
    it is. -/
theorem nextOccurrence_answersFrom (hz : z.Constant) (hm : isMinuteOfDay minute = true)
    (ho : isMinuteOfDay other = true) (hne : other ≠ minute) (day : Int) (i : Nat) :
    nextOccurrence z (answersFrom z day minute other i) (alternately minute other (i + 1)) =
      .ok (answersFrom z day minute other (i + 1)) := by
  unfold alternately
  obtain ⟨k, rfl | rfl⟩ := turn_cases i
  · -- the other minute after the first one
    rw [answersFrom_even, answersFrom_odd, if_neg (by omega), nextOccurrence_occurrenceAt hz hm ho]
    by_cases hlt : minute < other
    · rw [if_pos hlt, if_pos hlt]
    · rw [if_neg hlt, if_neg hlt, Int.add_right_comm]
  · rw [answersFrom_odd, show 2 * k + 1 + 1 = 2 * (k + 1) by omega, answersFrom_even,
      if_pos (show 2 * (k + 1) % 2 = 0 by omega), nextOccurrence_occurrenceAt hz ho hm]
    by_cases hlt : minute < other
    · rw [if_pos hlt, if_neg (by omega), Int.natCast_add, Int.add_assoc]
      rfl
    · rw [if_neg hlt, if_pos (by omega), Int.natCast_add, Int.add_right_comm, Int.add_assoc]
      rfl

/-- The answers of `answersFrom` ascend. -/
theorem answersFrom_lt (hz : z.Constant) (hm : isMinuteOfDay minute = true)
    (ho : isMinuteOfDay other = true) (hne : other ≠ minute) (day : Int) {i k : Nat} (hik : i < k) :
    (answersFrom z day minute other i).nanos < (answersFrom z day minute other k).nanos := by
  have hnext : ∀ i, (answersFrom z day minute other i).nanos <
      (answersFrom z day minute other (i + 1)).nanos := by
    intro i
    have hvalid : isMinuteOfDay (alternately minute other (i + 1)) = true := by
      unfold alternately
      by_cases hi : (i + 1) % 2 = 0
      · rw [if_pos hi, hm]
      · rw [if_neg hi, ho]
    obtain ⟨_, hfirst⟩ := (nextOccurrence_eq_ok_iff hvalid).1
      (nextOccurrence_answersFrom hz hm ho hne day i)
    exact hfirst.ahead
  induction hik with
  | refl => exact hnext i
  | step _ ih => exact Int.lt_trans ih (hnext _)

/-- Each answer is a stroke of either minute, and no stroke is left out from the first answer on. -/
theorem exists_answersFrom_iff (hz : z.Constant) (hm : isMinuteOfDay minute = true)
    (ho : isMinuteOfDay other = true) (hne : other ≠ minute) (day t : Int) :
    (∃ i, (answersFrom z day minute other i).nanos = t) ↔
      (z.occurrenceAt day minute).nanos ≤ t ∧
        ((Moment.ofNanos z t).Strikes minute ∨ (Moment.ofNanos z t).Strikes other) := by
  rw [hz.strikes_iff hm, hz.strikes_iff ho]
  constructor
  · rintro ⟨i, rfl⟩
    constructor
    · -- the answers ascend, so the first one is the least
      have hzero : answersFrom z day minute other 0 = z.occurrenceAt day minute := by
        rw [show (0 : Nat) = 2 * 0 from rfl, answersFrom_even, Int.natCast_zero, Int.add_zero]
      rw [← hzero]
      rcases Nat.eq_zero_or_pos i with rfl | hi
      · exact Int.le_refl _
      · exact Int.le_of_lt (answersFrom_lt hz hm ho hne day hi)
    · obtain ⟨k, rfl | rfl⟩ := turn_cases i
      · rw [answersFrom_even]
        exact .inl ⟨_, rfl⟩
      · rw [answersFrom_odd]
        exact .inr ⟨_, rfl⟩
  · rw [isMinuteOfDay_iff] at hm ho
    unfold minutesPerDay at hm ho
    rintro ⟨hfrom, ⟨d, rfl⟩ | ⟨d, rfl⟩⟩
    · -- the minute asked for first: its strokes have the even turns
      have hd : day ≤ d := by
        simp only [Zone.occurrenceAt_nanos] at hfrom
        unfold secondsPerDay nanosPerSecond at hfrom
        omega
      refine ⟨2 * (d - day).toNat, ?_⟩
      rw [answersFrom_even, Int.toNat_of_nonneg (by omega), show day + (d - day) = d by omega]
    · -- the other minute has the odd turns, and begins on the next date if it is the earlier one
      have hd : (if minute < other then day else day + 1) ≤ d := by
        simp only [Zone.occurrenceAt_nanos] at hfrom
        unfold secondsPerDay nanosPerSecond at hfrom
        by_cases hlt : minute < other
        · rw [if_pos hlt]
          omega
        · rw [if_neg hlt]
          omega
      refine ⟨2 * (d - if minute < other then day else day + 1).toNat + 1, ?_⟩
      rw [answersFrom_odd, Int.toNat_of_nonneg (by omega)]
      congr 1
      rw [Int.add_comm, Int.sub_add_cancel]

/-! ### The next occurrence -/

/-- **The next occurrence is the only stroke of the next 24 hours.** A chain that asks for the same
    minute goes on by 24 hours with each answer; a chain that asks for two minutes by turns goes
    through all strokes of both, in order, from its first answer on. -/
theorem daily_of_constant (hz : z.Constant) (hm : isMinuteOfDay minute = true) (nanos : Int) :
    ∃ first, nextOccurrence z (.ofNanos z nanos) minute = .ok first ∧
      first = .ofNanos z first.nanos ∧
      (∀ t, (nanos < t ∧ t ≤ nanos + nanosPerDay ∧ (Moment.ofNanos z t).Strikes minute) ↔
        t = first.nanos) ∧
      (∀ n, occurrenceChain z (.ofNanos z nanos) (List.replicate n minute) =
        (List.range n).map fun i => .ok (first.after z (i * nanosPerDay))) ∧
      ∀ other, isMinuteOfDay other = true → other ≠ minute →
        ∃ answers : Nat → Moment,
          (∀ n, occurrenceChain z (.ofNanos z nanos)
              ((List.range n).map (alternately minute other)) =
            (List.range n).map fun i => .ok (answers i)) ∧
          (∀ i k, i < k → (answers i).nanos < (answers k).nanos) ∧
          ∀ t, (∃ i, answers i = .ofNanos z t) ↔
            first.nanos ≤ t ∧
              ((Moment.ofNanos z t).Strikes minute ∨ (Moment.ofNanos z t).Strikes other) := by
  have hfirst := nextOccurrence_of_constant hz hm nanos
  refine ⟨_, hfirst, (hz.ofNanos_occurrenceAt _ _).symm, strikes_within_day_iff hz hm nanos, ?_, ?_⟩
  · intro n
    rw [occurrenceChain_replicate hz hm hfirst]
    -- an occurrence some days on is one that many times 24 hours later
    refine List.map_congr_left fun i _ => congrArg Except.ok ?_
    unfold Moment.after
    rw [hz.ofNanos, Zone.occurrenceAt_nanos]
    unfold Zone.occurrenceAt nanosPerDay
    congr 1
    unfold secondsPerDay nanosPerSecond
    omega
  · intro other ho hne
    refine ⟨answersFrom z (z.lastDay nanos minute + 1) minute other, ?_,
      fun _ _ => answersFrom_lt hz hm ho hne _, ?_⟩
    · apply occurrenceChain_range
      · rw [show (0 : Nat) = 2 * 0 from rfl, answersFrom_even, Int.natCast_zero, Int.add_zero]
        exact hfirst
      · exact nextOccurrence_answersFrom hz hm ho hne _
    · intro t
      rw [← exists_answersFrom_iff hz hm ho hne]
      refine exists_congr fun i => ?_
      have hbase : (answersFrom z (z.lastDay nanos minute + 1) minute other i).offset = z.base := by
        unfold answersFrom
        split <;> rfl
      rw [hz.ofNanos]
      constructor
      · intro heq
        rw [heq]
      · intro heq
        rw [← heq, ← hbase]

/-- Half past five in a zone five and a half hours ahead, one nanosecond before it comes. -/
theorem daily_of_halfPast :
    (⟨19800, [⟨0, 19800⟩]⟩ : Zone).Constant ∧ isMinuteOfDay 330 = true ∧
      occurrenceChain ⟨19800, [⟨0, 19800⟩]⟩ (.ofNanos ⟨19800, [⟨0, 19800⟩]⟩ (-1)) [330, 330] =
        [.ok ⟨0, 19800⟩, .ok ⟨86400000000000, 19800⟩] := by
  have hz : (⟨19800, [⟨0, 19800⟩]⟩ : Zone).Constant := by
    intro t ht
    obtain rfl := List.mem_singleton.1 ht
    rfl
  have hm : isMinuteOfDay 330 = true := by decide
  obtain ⟨first, -, hoffset, hstroke, hchain, -⟩ := daily_of_constant hz hm (-1)
  have hnanos : first.nanos = 0 :=
    ((hstroke 0).1 ⟨by decide, by decide, by decide⟩).symm
  refine ⟨hz, hm, ?_⟩
  have htwo := hchain 2
  rw [hoffset, hnanos] at htwo
  exact htwo

end Twilight
