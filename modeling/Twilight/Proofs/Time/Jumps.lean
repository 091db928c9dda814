import Mathlib.Tactic.SplitIfs
import Twilight.Time.Zone

namespace Twilight.Time

/-!
# Jumps of the wall clock

* `Jump` — a transition together with the offset before it. `Jump.left` is the reading at which the
  clock jumps, `Jump.right` the one to which it jumps.
* `Zone.readingOffsetFrom_jump` — a reading is looked for behind a jump, or is settled by it.
* `Zone.Spaced` — transitions are a week apart, and each moves the clock by less than a day.
* `Zone.Near` — around an instant, the clock is read as if it jumped once only: from a day before to
  five days after it.
* `Zone.Spaced.exists_near` — in a spaced zone there is such a jump for every instant.
-/

/-- A change of offset at an instant. -/
structure Jump where
  instant : Int
  before : Int
  after : Int
  deriving DecidableEq, Repr

namespace Jump

/-- The reading that the clock has reached when it jumps. -/
def left (j : Jump) : Int := j.instant + j.before

/-- The reading from which the clock goes on. -/
def right (j : Jump) : Int := j.instant + j.after

/-- The clock is moved by less than a day, forward or back. -/
def IsSmall (j : Jump) : Prop :=
  j.after < j.before + secondsPerDay ∧ j.before < j.after + secondsPerDay

instance (j : Jump) : Decidable j.IsSmall := inferInstanceAs (Decidable (_ ∧ _))

/-- The offset in force at an instant, if the clock never jumps but here. -/
def offsetAt (j : Jump) (instant : Int) : Int := if instant < j.instant then j.before else j.after

/-- The offset of a reading, if the clock never jumps but here. -/
def offsetFor? (j : Jump) (reading : Int) : Option Int :=
  if j.right ≤ j.left then
    if reading < j.right then some j.before else some j.after
  else if reading ≤ j.left then some j.before
  else if reading < j.right then none
  else some j.after

/-- Before a jump the offset is the one from before. -/
theorem offsetAt_of_lt {j : Jump} {instant : Int} (hlt : instant < j.instant) :
    j.offsetAt instant = j.before := if_pos hlt

/-- From a jump on the offset is the one from after. -/
theorem offsetAt_of_le {j : Jump} {instant : Int} (hle : j.instant ≤ instant) :
    j.offsetAt instant = j.after := if_neg (by omega)

/-- A reading that neither side of the jump has reached has the old offset. -/
theorem offsetFor?_of_lt {j : Jump} {reading : Int} (hleft : reading < j.left)
    (hright : reading < j.right) : j.offsetFor? reading = some j.before := by
  unfold offsetFor?
  by_cases hback : j.right ≤ j.left
  · rw [if_pos hback, if_pos hright]
  · rw [if_neg hback, if_pos (by omega)]

end Jump

/-- The jump of a transition from an offset. -/
def Transition.jump (current : Int) (t : Transition) : Jump := ⟨t.instant, current, t.offset⟩

namespace Zone

/-- The jumps of transitions that begin with an offset. -/
def jumpsFrom (current : Int) : List Transition → List Jump
  | [] => []
  | t :: ts => t.jump current :: jumpsFrom t.offset ts

/-- The jumps of a zone, in order. -/
def jumps (z : Zone) : List Jump := jumpsFrom z.base z.transitions

/-- Transitions that begin with an offset are a week apart, and all their jumps are small. -/
structure SpacedFrom (current : Int) (ts : List Transition) : Prop where
  apart : ts.Pairwise fun t u => t.instant + 7 * secondsPerDay ≤ u.instant
  small : ∀ j ∈ jumpsFrom current ts, j.IsSmall

/-- Transitions are at least a week apart, and each moves the clock by less than a day. -/
def Spaced (z : Zone) : Prop := SpacedFrom z.base z.transitions

/-- Around an instant, transitions are read like a single jump. -/
structure NearFrom (current : Int) (ts : List Transition) (instant : Int) (j : Jump) : Prop where
  small : j.IsSmall
  mem : j.before ≠ j.after → j ∈ jumpsFrom current ts
  only : ∀ k ∈ jumpsFrom current ts, instant - secondsPerDay ≤ k.instant →
    k.instant ≤ instant + 5 * secondsPerDay → k = j
  offset : ∀ s, instant - secondsPerDay ≤ s → s ≤ instant + 5 * secondsPerDay →
    offsetFrom current s ts = j.offsetAt s
  readingOffset : ∀ r, instant + offsetFrom current instant ts - secondsPerDay ≤ r →
    r ≤ instant + offsetFrom current instant ts + 3 * secondsPerDay + 3600 →
    readingOffsetFrom current r ts = j.offsetFor? r

variable {current instant reading : Int} {t : Transition} {ts : List Transition}

/-- Transitions are spaced from the second one on, too. -/
theorem SpacedFrom.tail (hs : SpacedFrom current (t :: ts)) : SpacedFrom t.offset ts where
  apart := (List.pairwise_cons.1 hs.apart).2
  small := fun j hj => hs.small j (List.mem_cons_of_mem _ hj)

/-- The first transition moves the clock by less than a day. -/
theorem SpacedFrom.head (hs : SpacedFrom current (t :: ts)) :
    t.offset < current + secondsPerDay ∧ current < t.offset + secondsPerDay :=
  hs.small _ List.mem_cons_self

/-- All other transitions are at least a week later than the first. -/
theorem SpacedFrom.later (hs : SpacedFrom current (t :: ts)) {u : Transition} (hu : u ∈ ts) :
    t.instant + 7 * secondsPerDay ≤ u.instant := (List.pairwise_cons.1 hs.apart).1 u hu

/-- Each of `jumpsFrom` is at the instant of a transition. -/
theorem exists_of_mem_jumpsFrom {j : Jump} (hj : j ∈ jumpsFrom current ts) :
    ∃ u ∈ ts, u.instant = j.instant := by
  induction ts generalizing current with
  | nil => cases hj
  | cons t ts ih =>
    rcases List.mem_cons.1 hj with rfl | hj
    · exact ⟨t, List.mem_cons_self, rfl⟩
    · obtain ⟨u, hu, heq⟩ := ih hj
      exact ⟨u, List.mem_cons_of_mem _ hu, heq⟩

/-! ### Looking past a transition -/

/-- Before all transitions `offsetFrom` is the offset from before. -/
theorem offsetFrom_of_before (hb : ∀ u ∈ ts, instant < u.instant) :
    offsetFrom current instant ts = current := by
  cases ts with
  | nil => rfl
  | cons t ts =>
    have ht := hb t List.mem_cons_self
    rw [offsetFrom, if_neg (by omega)]

/-- From the first transition on its offset counts, or that of a later one. -/
theorem offsetFrom_cons_of_le (ht : t.instant ≤ instant) :
    offsetFrom current instant (t :: ts) = offsetFrom t.offset instant ts := by
  rw [offsetFrom, if_pos ht]

/-- Up to the first transition nothing counts but the offset from before. -/
theorem offsetFrom_cons_of_lt (ht : instant < t.instant) :
    offsetFrom current instant (t :: ts) = current := by
  rw [offsetFrom, if_neg (by omega)]

/-- A reading that both sides of a jump have passed is looked for behind it; any other is settled by
    the jump. -/
theorem readingOffsetFrom_jump (current reading : Int) (t : Transition) (ts : List Transition) :
    readingOffsetFrom current reading (t :: ts) =
      if (t.jump current).left < reading ∧ (t.jump current).right < reading then
        readingOffsetFrom t.offset reading ts
      else (t.jump current).offsetFor? reading := by
  have hleft : (t.jump current).left = t.instant + current := rfl
  have hright : (t.jump current).right = t.instant + t.offset := rfl
  rw [readingOffsetFrom, ← hleft, ← hright]
  unfold Jump.offsetFor?
  rcases Int.lt_trichotomy (t.jump current).right (t.jump current).left with hback | hstill | hgap
  · -- a fold is behind the reading if its later end is
    rw [if_pos hback, if_pos (Int.le_of_lt hback)]
    split_ifs <;> first | rfl | omega
  · rw [if_neg (Int.not_lt.2 (Int.le_of_eq hstill.symm)), if_pos hstill.symm,
      if_pos (Int.le_of_eq hstill)]
    split_ifs <;> first | rfl | omega
  · rw [if_neg (Int.not_lt.2 (Int.le_of_lt hgap)), if_neg (Int.ne_of_lt hgap),
      if_neg (Int.not_le.2 hgap)]
    split_ifs <;> first | rfl | omega

/-- A reading that is a day before all transitions is taken with the offset from before. -/
theorem readingOffsetFrom_of_before (hs : SpacedFrom current ts)
    (hb : ∀ u ∈ ts, reading + secondsPerDay ≤ u.instant + current) :
    readingOffsetFrom current reading ts = some current := by
  have hday : secondsPerDay = 86400 := rfl
  cases ts with
  | nil => rfl
  | cons t ts =>
    have ht := hb t List.mem_cons_self
    obtain ⟨hafter, hbefore⟩ := hs.head
    have hleft : (t.jump current).left = t.instant + current := rfl
    have hright : (t.jump current).right = t.instant + t.offset := rfl
    rw [readingOffsetFrom_jump, if_neg (by omega)]
    exact Jump.offsetFor?_of_lt (by omega) (by omega)

/-- While the second transition is out of reach, only the first one counts. -/
theorem readingOffsetFrom_cons (hs : SpacedFrom current (t :: ts))
    (hreach : reading ≤ t.instant + t.offset + 6 * secondsPerDay) :
    readingOffsetFrom current reading (t :: ts) = (t.jump current).offsetFor? reading := by
  have hleft : (t.jump current).left = t.instant + current := rfl
  have hright : (t.jump current).right = t.instant + t.offset := rfl
  rw [readingOffsetFrom_jump]
  -- behind both sides of the jump the next one is too far to matter
  by_cases hpast : (t.jump current).left < reading ∧ (t.jump current).right < reading
  · have hrest : readingOffsetFrom t.offset reading ts = some t.offset :=
      readingOffsetFrom_of_before hs.tail fun u hu => by
        have := hs.later hu
        omega
    rw [if_pos hpast, hrest]
    unfold Jump.offsetFor?
    by_cases hback : (t.jump current).right ≤ (t.jump current).left
    · rw [if_pos hback, if_neg (by omega)]
      rfl
    · rw [if_neg hback, if_neg (by omega), if_neg (by omega)]
      rfl
  · rw [if_neg hpast]

/-- From a day before a jump on, the clock is never behind the reading that it has there. -/
theorem SpacedFrom.le_reading (hs : SpacedFrom current ts) {earlier : Int}
    (hle : earlier ≤ instant) (hb : ∀ u ∈ ts, earlier + secondsPerDay ≤ u.instant) :
    earlier + current ≤ instant + offsetFrom current instant ts := by
  have hday : secondsPerDay = 86400 := rfl
  induction ts generalizing current earlier with
  | nil =>
    show earlier + current ≤ instant + current
    omega
  | cons t ts ih =>
    by_cases ht : t.instant ≤ instant
    · -- a jump is less than the day that lies before it
      have hrest := ih hs.tail ht fun u hu => by
        have := hs.later hu
        omega
      have hfirst := hb t List.mem_cons_self
      obtain ⟨hafter, hbefore⟩ := hs.head
      rw [offsetFrom_cons_of_le ht]
      omega
    · rw [offsetFrom_cons_of_lt (by omega)]
      omega

/-! ### One jump at a time -/

/-- An instant less than two days after the first transition sees that one only. -/
theorem SpacedFrom.near_head (hs : SpacedFrom current (t :: ts))
    (hn : instant < t.instant + 2 * secondsPerDay) :
    NearFrom current (t :: ts) instant (t.jump current) := by
  have hday : secondsPerDay = 86400 := rfl
  have hinstant : (t.jump current).instant = t.instant := rfl
  -- all other transitions are at least a week after the first
  have hoffset : ∀ s, s ≤ instant + 5 * secondsPerDay →
      offsetFrom current s (t :: ts) = (t.jump current).offsetAt s := by
    intro s hs'
    by_cases ht : t.instant ≤ s
    · rw [offsetFrom_cons_of_le ht, Jump.offsetAt_of_le ht]
      refine offsetFrom_of_before fun u hu => ?_
      have := hs.later hu
      omega
    · rw [offsetFrom_cons_of_lt (by omega), Jump.offsetAt_of_lt (by omega)]
      rfl
  refine ⟨hs.head, fun _ => List.mem_cons_self, ?_, fun s _ hle => hoffset s hle, ?_⟩
  · intro k hk _ hle
    rcases List.mem_cons.1 hk with rfl | hk
    · rfl
    · -- the jumps behind the first are too far ahead
      obtain ⟨u, hu, heq⟩ := exists_of_mem_jumpsFrom hk
      have := hs.later hu
      omega
  · intro r _ hle
    obtain ⟨hafter, hbefore⟩ := hs.head
    apply readingOffsetFrom_cons hs
    by_cases ht : t.instant ≤ instant
    · have hnow : offsetFrom current instant (t :: ts) = t.offset := by
        rw [hoffset instant (by omega), Jump.offsetAt_of_le ht]
        rfl
      omega
    · rw [offsetFrom_cons_of_lt (by omega)] at hle
      omega

/-- An instant two days after the first transition, or more, sees what those behind it show. -/
theorem NearFrom.cons {j : Jump} (hj : NearFrom t.offset ts instant j)
    (hs : SpacedFrom current (t :: ts)) (hn : t.instant + 2 * secondsPerDay ≤ instant) :
    NearFrom current (t :: ts) instant j := by
  have hday : secondsPerDay = 86400 := rfl
  -- the clock shows at least two days more than after the first jump
  have hreading := hs.tail.le_reading hn fun u hu => by
    have := hs.later hu
    omega
  refine ⟨hj.small, fun hne => List.mem_cons_of_mem _ (hj.mem hne), ?_, ?_, ?_⟩
  · intro k hk hge hle
    rcases List.mem_cons.1 hk with rfl | hk
    · have hinstant : (t.jump current).instant = t.instant := rfl
      omega
    · exact hj.only k hk hge hle
  · intro s hge hle
    rw [offsetFrom_cons_of_le (by omega)]
    exact hj.offset s hge hle
  · intro r hge hle
    rw [offsetFrom_cons_of_le (by omega)] at hge hle
    obtain ⟨hafter, hbefore⟩ := hs.head
    have hleft : (t.jump current).left = t.instant + current := rfl
    have hright : (t.jump current).right = t.instant + t.offset := rfl
    rw [readingOffsetFrom_jump, if_pos (by omega)]
    exact hj.readingOffset r hge hle

/-- Around every instant, spaced transitions are read like a single jump. By induction on the
    transitions, as all but one of them are too far away to count. -/
theorem SpacedFrom.exists_near (hs : SpacedFrom current ts) (instant : Int) :
    ∃ j, NearFrom current ts instant j := by
  induction ts generalizing current with
  | nil =>
    -- the offset never changes: take a jump to the same offset
    have hstill : Jump.right ⟨instant, current, current⟩ = Jump.left ⟨instant, current, current⟩ :=
      rfl
    refine ⟨⟨instant, current, current⟩, ?_, fun hne => absurd rfl hne, ?_, ?_, ?_⟩
    · exact ⟨Int.lt_add_of_pos_right _ (by decide), Int.lt_add_of_pos_right _ (by decide)⟩
    · intro k hk
      cases hk
    · intro s _ _
      exact (ite_self _).symm
    · intro r _ _
      unfold Jump.offsetFor?
      rw [if_pos (by omega), ite_self]
      rfl
  | cons t ts ih =>
    by_cases hn : instant < t.instant + 2 * secondsPerDay
    · exact ⟨_, hs.near_head hn⟩
    · obtain ⟨j, hj⟩ := ih hs.tail
      exact ⟨j, hj.cons hs (by omega)⟩

/-- Around an instant, the clock is read as if it jumped once only. -/
def Near (z : Zone) (instant : Int) (j : Jump) : Prop := NearFrom z.base z.transitions instant j

/-- **Around every instant, the clock of a spaced zone is read as if it jumped once only.** -/
theorem Spaced.exists_near {z : Zone} (hz : z.Spaced) (instant : Int) : ∃ j, z.Near instant j :=
  SpacedFrom.exists_near hz instant

end Zone

end Twilight.Time
