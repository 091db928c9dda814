import Twilight.Proofs.Alarm.Service
import Twilight.Proofs.Daemon.Act

namespace Twilight

/-!
# What stays pending

Single calls on the alarm service and runs of them, described by the alarms that are pending
afterwards. Alarms may get lost while an operation is busy; whether that is allowed for is one
parameter, `lossy`, of all descriptions.

* `Hooks.Losing` — hooks that do nothing but lose pending alarms, and that only if `lossy`.
* `UpToLoss` — the same pending alarms, except for lost ones.
* `Daemon.Cancelled`, `Daemon.PairArmed` — some alarms were taken out; a pair of them was put in.
* `Daemon.discardAll_on`, `Daemon.armPair_on` — when no cancelling fails, that is what happens.
-/

open Time

/-! ### Losing alarms -/

/-- Pending alarms by their numbers. -/
abbrev Pending := Nat → Option (Alarm AlarmAction)

/-- What is pending once some alarms were taken out. -/
def Pending.without (p : Pending) (ids : List AlarmId) : Pending :=
  fun i => if i ∈ ids then none else p i

/-- What is pending in `without` is what was pending, but for the numbers taken out. -/
theorem Pending.without_eq_some {p : Pending} {ids : List AlarmId} {i : AlarmId}
    {a : Alarm AlarmAction} : p.without ids i = some a ↔ i ∉ ids ∧ p i = some a := by
  unfold Pending.without
  by_cases hi : i ∈ ids <;> simp [hi]

/-- What is pending once the alarms of `x` were put in. -/
def Pending.adding (p x : Pending) : Pending := fun i => (x i).or (p i)

/-- The same pending alarms, except for lost ones. -/
def UpToLoss (lossy : Prop) (p q : Pending) : Prop := ∀ i, p i = q i ∨ lossy ∧ p i = none

namespace UpToLoss

variable {lossy : Prop} {p q r : Pending}

theorem refl (p : Pending) : UpToLoss lossy p p := fun _ => .inl rfl

/-- Tables that agree on every number are the same `UpToLoss`. -/
theorem of_eq (h : ∀ i, p i = q i) : UpToLoss lossy p q := fun i => .inl (h i)

theorem trans (h₁ : UpToLoss lossy p q) (h₂ : UpToLoss lossy q r) : UpToLoss lossy p r := by
  intro i
  rcases h₁ i with h₁ | h₁
  · rw [h₁]
    exact h₂ i
  · exact .inr h₁

/-- Alarms of `adding` are there on both sides, so that `UpToLoss` is kept. -/
theorem adding (x : Pending) (h : UpToLoss lossy p q) :
    UpToLoss lossy (p.adding x) (q.adding x) := by
  intro i
  cases hx : x i with
  | some a => simp [Pending.adding, hx]
  | none => simpa [Pending.adding, hx] using h i

/-- Taking numbers out by `without` on both sides keeps `UpToLoss`: what is taken out anyway may as
    well have been lost. -/
theorem without (ids : List AlarmId) (h : UpToLoss lossy p q) :
    UpToLoss lossy (p.without ids) (q.without ids) := by
  intro i
  by_cases hi : i ∈ ids
  · simp [Pending.without, hi]
  · simpa [Pending.without, hi] using h i

/-- What is pending `UpToLoss` of something was pending there. -/
theorem of_some (h : UpToLoss lossy p q) {i : Nat} {a : Alarm AlarmAction} (ha : p i = some a) :
    q i = some a := by
  rcases h i with h | ⟨_, h⟩
  · rw [← h, ha]
  · rw [ha] at h
    contradiction

/-- Without losses there is no difference. -/
theorem eq (h : UpToLoss False p q) (i : AlarmId) : p i = q i := (h i).resolve_right fun h => h.1

end UpToLoss

namespace Daemon

/-- The pending alarm of a number. -/
def pending? (d : Daemon) : Pending := d.alarms.pending?

/-- `d₁` is `d` but for alarms that got lost. -/
def Lost (lossy : Prop) (d d₁ : Daemon) : Prop :=
  ∃ p, d₁ = { d with alarms := d.alarms.withPending p } ∧ UpToLoss lossy p.get? d.pending?

end Daemon

open Daemon

/-- All that happens inside an operation is that alarms get lost, if `lossy`. -/
structure Hooks.Losing (h : Hooks) (lossy : Prop) : Prop where
  beforeArm : ∀ d, Lost lossy d (h.beforeArm.on d).2
  beforeCancel : ∀ d, Lost lossy d (h.beforeCancel.on d).2
  run : ∀ script, h.run script = pure ()

/-- Hooks that do nothing lose no alarm, so they are `Losing` for any `lossy`. -/
theorem Hooks.quiet_losing (lossy : Prop) : Hooks.quiet.Losing lossy where
  beforeArm d := ⟨d.alarms.queue.pending, rfl, .refl _⟩
  beforeCancel d := ⟨d.alarms.queue.pending, rfl, .refl _⟩
  run _ := rfl

namespace Daemon

variable {lossy : Prop} {h : Hooks} {d d₁ d₂ : Daemon}

/-! ### Cancelling -/

/-- `d₁` is `d` without the alarms `ids`. -/
structure Cancelled (lossy : Prop) (ids : List AlarmId) (d d₁ : Daemon) : Prop where
  rescheduled : Rescheduled d d₁
  timers : d₁.timers = d.timers
  plans : d.alarms.SamePlans d₁.alarms
  lastId : d₁.alarms.lastId = d.alarms.lastId
  armed : d₁.alarms.armed = d.alarms.armed
  pending : UpToLoss lossy d₁.pending? (Pending.without d.pending? ids)

/-- Where only lines were `Logged` no alarm was `Cancelled`. -/
theorem Logged.cancelled (hd : Logged d d₁) : Cancelled lossy [] d d₁ := by
  obtain ⟨j, rfl⟩ := hd
  exact ⟨⟨_, _, j, rfl⟩, rfl, .refl _, rfl, rfl,
    .of_eq fun i => by simp [Pending.without, pending?]⟩

/-- To have some numbers `Cancelled` and then others is to have all of them cancelled. -/
theorem Cancelled.append {ids ids₁ : List AlarmId} (h₁ : Cancelled lossy ids d d₁)
    (h₂ : Cancelled lossy ids₁ d₁ d₂) : Cancelled lossy (ids ++ ids₁) d d₂ where
  rescheduled := h₁.rescheduled.trans h₂.rescheduled
  timers := h₂.timers.trans h₁.timers
  plans := h₁.plans.trans h₂.plans
  lastId := h₂.lastId.trans h₁.lastId
  armed := h₂.armed.trans h₁.armed
  pending := by
    refine (h₂.pending.trans (h₁.pending.without ids₁)).trans (.of_eq fun i => ?_)
    by_cases h₁ : i ∈ ids <;> by_cases h₂ : i ∈ ids₁ <;> simp [Pending.without, h₁, h₂]

/-- With a service that `Cancels`, a call of `cancel` takes out its own number and nothing else, but
    for what gets lost meanwhile. -/
theorem cancel_on (hl : h.Losing lossy) (hc : d.alarms.Cancels) (id : AlarmId) :
    ∃ d₁, (cancel h id).on d = (.ok (), d₁) ∧ Cancelled lossy [id] d d₁ := by
  obtain ⟨p, he, hp⟩ := hl.beforeCancel d
  obtain ⟨s, hs, hplans, hlast, hpend⟩ :=
    AlarmService.cancel_eq (s := d.alarms.withPending p) hc id
  have harmed : s.armed = d.alarms.armed := by
    have hcancel := AlarmService.armed_cancel (d.alarms.withPending p) id
    rw [hs] at hcancel
    exact hcancel
  refine ⟨{ d with alarms := s }, ?_, ?_⟩
  · unfold cancel
    simp only [Act.on_bind, Act.on_modifyGet, he, hs]
  · refine ⟨⟨_, _, _, rfl⟩, rfl, ⟨hplans.armFails, hplans.cancelFails⟩, hlast, harmed, ?_⟩
    refine UpToLoss.trans (.of_eq fun i => ?_) (hp.without [id])
    show s.pending? i = _
    rw [hpend i]
    simp [Pending.without]

/-- So does a call of `discard`, which then has no fault to answer. -/
theorem discard_on (hl : h.Losing lossy) (hc : d.alarms.Cancels) (id : AlarmId) :
    ∃ d₁, (discard h id).on d = (none, d₁) ∧ Cancelled lossy [id] d d₁ := by
  obtain ⟨d₁, he, hd⟩ := cancel_on hl hc id
  refine ⟨d₁, ?_, hd⟩
  unfold discard
  simp only [Act.on_bind, he, Act.on_pure]

/-- As long as cancelling works, `discardAll` reports no fault, and all its numbers are `Cancelled`.
    -/
theorem discardAll_on (hl : h.Losing lossy) (ids : List AlarmId) (hc : d.alarms.Cancels) :
    ∃ d₁, (discardAll h ids).on d = (none, d₁) ∧ Cancelled lossy ids d d₁ := by
  induction ids generalizing d with
  | nil => exact ⟨d, rfl, (Logged.refl d).cancelled⟩
  | cons id ids ih =>
    -- the first call keeps the plans, so none of the others fails either
    obtain ⟨d₁, he, hd⟩ := discard_on hl hc id
    obtain ⟨d₂, he₂, hd₂⟩ := ih (d := d₁) (hd.plans.cancels hc)
    refine ⟨d₂, ?_, hd.append hd₂⟩
    unfold discardAll
    simp only [Act.on_bind, he, he₂, Act.on_pure]
    rfl

/-! ### Arming -/

/-- `d₁` is `d` with the alarm `a` under the number `id?`, if there is one: a new number. -/
structure OneArmed (lossy : Prop) (a : Alarm AlarmAction) (id? : Option AlarmId)
    (d d₁ : Daemon) : Prop where
  rescheduled : Rescheduled d d₁
  timers : d₁.timers = d.timers
  plans : d.alarms.SamePlans d₁.alarms
  lastId : d.alarms.lastId ≤ d₁.alarms.lastId
  fresh : ∀ i : Nat, id? = some i → d.alarms.lastId < i ∧ i ≤ d₁.alarms.lastId
  full : d.alarms.Arms → id?.isSome
  armed : d.alarms.ArmsOnly [a.action] d₁.alarms
  pending : UpToLoss lossy d₁.pending?
    (d.pending?.adding fun i => if id? = some i then some a else none)

/-- A call of `arm` puts in its alarm under a new number, or fails and puts in nothing; `OneArmed`
    covers both. -/
theorem arm_on (hl : h.Losing lossy) (a : Alarm AlarmAction) (d : Daemon) :
    OneArmed lossy a ((arm h a).on d).1.toOption d ((arm h a).on d).2 := by
  obtain ⟨p, he, hp⟩ := hl.beforeArm d
  obtain ⟨s, hplans, hs⟩ := AlarmService.arm_eq (d.alarms.withPending p) a
  have hon : (arm h a).on d = (((d.alarms.withPending p).arm a).1,
      { d with alarms := ((d.alarms.withPending p).arm a).2 }) := by
    unfold arm
    simp only [Act.on_bind, Act.on_modifyGet, he]
  -- alarms may have got lost before the call, which is all that `p` differs by
  have harmed : d.alarms.ArmsOnly [a.action] ((d.alarms.withPending p).arm a).2 :=
    AlarmService.armsOnly_arm (d.alarms.withPending p) a
  rw [hon]
  rcases hs with ⟨hs, hlast, hpend⟩ | ⟨hfails, hs, hlast, hpend⟩
  · -- the alarm gets the next number
    rw [hs] at harmed ⊢
    have hlast : s.lastId = d.alarms.lastId + 1 := hlast
    refine ⟨⟨_, _, _, rfl⟩, rfl, ⟨hplans.armFails, hplans.cancelFails⟩, ?_, ?_, fun _ => rfl,
      harmed, ?_⟩
    · show d.alarms.lastId ≤ s.lastId
      omega
    · intro i hi
      obtain rfl := Option.some.inj hi
      show d.alarms.lastId < d.alarms.lastId + 1 ∧ d.alarms.lastId + 1 ≤ s.lastId
      omega
    · refine UpToLoss.trans (.of_eq fun i => ?_) (hp.adding _)
      show s.pending? i = _
      rw [hpend i]
      by_cases hi : i = d.alarms.lastId + 1
      · simp [Pending.adding, Except.toOption, hi]
      · simp [Pending.adding, Except.toOption, hi, Ne.symm hi]
  · -- nothing is armed, and no number is used up
    rw [hs] at harmed ⊢
    have hlast : s.lastId = d.alarms.lastId := hlast
    refine ⟨⟨_, _, _, rfl⟩, rfl, ⟨hplans.armFails, hplans.cancelFails⟩, ?_, ?_, ?_, harmed, ?_⟩
    · show d.alarms.lastId ≤ s.lastId
      omega
    · intro i hi
      contradiction
    · intro harms
      rw [show (d.alarms.withPending p).armFails _ = false from harms _] at hfails
      contradiction
    · refine UpToLoss.trans (.of_eq fun i => ?_) (hp.adding _)
      show s.pending? i = _
      rw [hpend i]
      simp [Pending.adding, Except.toOption]

/-- The alarms of a pair, under the numbers that they got. -/
def pairAlarms (ids : Pair (Option AlarmId)) (triggers : Pair Moment)
    (actions : Pair AlarmAction) : Pending := fun i =>
  if ids.start = some i then some (.once triggers.start actions.start)
  else if ids.finish = some i then some (.once triggers.finish actions.finish)
  else none

/-- The numbers of a pair are those of its two alarms, as far as they were armed. -/
theorem mem_pairIds {ids : Pair (Option AlarmId)} {i : AlarmId} :
    i ∈ pairIds ids ↔ ids.start = some i ∨ ids.finish = some i := by
  simp [pairIds, Pair.toList, eq_comm]

/-- An alarm of a pair is one of the two, under the number that it got. -/
theorem pairAlarms_eq_some {ids : Pair (Option AlarmId)} {triggers : Pair Moment}
    {actions : Pair AlarmAction} {i : Nat} {a : Alarm AlarmAction}
    (ha : pairAlarms ids triggers actions i = some a) :
    i ∈ pairIds ids ∧
      (a = .once triggers.start actions.start ∨ a = .once triggers.finish actions.finish) := by
  unfold pairAlarms at ha
  rw [mem_pairIds]
  by_cases hs : ids.start = some i
  · rw [if_pos hs] at ha
    exact ⟨.inl hs, .inl (Option.some.inj ha).symm⟩
  · rw [if_neg hs] at ha
    by_cases hf : ids.finish = some i
    · rw [if_pos hf] at ha
      exact ⟨.inr hf, .inr (Option.some.inj ha).symm⟩
    · rw [if_neg hf] at ha
      contradiction

/-- The `pairAlarms` of a full pair are two: the one for the start under the first number, and the
    one for the finish under the other. -/
theorem pairAlarms_full {i j : Nat} (hne : i ≠ j) {triggers : Pair Moment}
    {actions : Pair AlarmAction} {k : Nat} {a : Alarm AlarmAction} :
    pairAlarms ⟨some i, some j⟩ triggers actions k = some a ↔
      k = i ∧ a = .once triggers.start actions.start ∨
        k = j ∧ a = .once triggers.finish actions.finish := by
  unfold pairAlarms
  by_cases hi : i = k
  · subst hi
    rw [if_pos rfl]
    simp [hne, eq_comm]
  · rw [if_neg fun h => hi (Option.some.inj h)]
    by_cases hj : j = k
    · subst hj
      rw [if_pos rfl]
      simp [Ne.symm hne, eq_comm]
    · rw [if_neg fun h => hj (Option.some.inj h)]
      simp [Ne.symm hi, Ne.symm hj]

/-- The numbers of a pair are new, and different from each other. -/
structure NewNumbers (ids : Pair (Option AlarmId)) (last last₁ : Nat) : Prop where
  le : last ≤ last₁
  fresh : ∀ i : Nat, i ∈ pairIds ids → last < i ∧ i ≤ last₁
  distinct : ∀ i : Nat, ids.start = some i → ids.finish ≠ some i

/-- `d₁` is `d` with a pair of alarms under the numbers `ids`, as far as they could be armed. -/
structure PairArmed (lossy : Prop) (ids : Pair (Option AlarmId)) (triggers : Pair Moment)
    (actions : Pair AlarmAction) (d d₁ : Daemon) : Prop where
  rescheduled : Rescheduled d d₁
  timers : d₁.timers = d.timers
  plans : d.alarms.SamePlans d₁.alarms
  numbers : NewNumbers ids d.alarms.lastId d₁.alarms.lastId
  full : d.alarms.Arms → ids.start.isSome ∧ ids.finish.isSome
  armed : d.alarms.ArmsOnly actions.toList d₁.alarms
  pending : UpToLoss lossy d₁.pending? (d.pending?.adding (pairAlarms ids triggers actions))

/-- Under `NewNumbers` none of the `pairAlarms` has a number that was given out before. -/
theorem NewNumbers.pairAlarms_eq_none {ids : Pair (Option AlarmId)} {last last₁ i : Nat}
    (hn : NewNumbers ids last last₁) (hi : i ≤ last) (triggers : Pair Moment)
    (actions : Pair AlarmAction) : pairAlarms ids triggers actions i = none := by
  have hs : ids.start ≠ some i := by
    intro hs
    have := hn.fresh i (mem_pairIds.2 (.inl hs))
    omega
  have hf : ids.finish ≠ some i := by
    intro hf
    have := hn.fresh i (mem_pairIds.2 (.inr hf))
    omega
  simp [pairAlarms, hs, hf]

/-- Two alarms that are armed one after the other make a pair with new numbers, which are different
    because the second is greater. -/
theorem OneArmed.pair {a b : Alarm AlarmAction} {i? j? : Option AlarmId} {triggers : Pair Moment}
    {actions : Pair AlarmAction} (ha : a = .once triggers.start actions.start)
    (hb : b = .once triggers.finish actions.finish) (h₁ : OneArmed lossy a i? d d₁)
    (h₂ : OneArmed lossy b j? d₁ d₂) : PairArmed lossy ⟨i?, j?⟩ triggers actions d d₂ where
  rescheduled := h₁.rescheduled.trans h₂.rescheduled
  timers := h₂.timers.trans h₁.timers
  plans := h₁.plans.trans h₂.plans
  numbers := by
    have hlast := h₁.lastId
    have hlast₁ := h₂.lastId
    refine ⟨by omega, fun i hi => ?_, fun i hi hj => ?_⟩
    · rcases mem_pairIds.1 hi with hi | hi
      · have := h₁.fresh i hi
        omega
      · have := h₂.fresh i hi
        omega
    · -- the second number lies behind the first one
      have := h₁.fresh i hi
      have := h₂.fresh i hj
      omega
  full := fun harms => ⟨h₁.full harms, h₂.full (h₁.plans.arms harms)⟩
  armed := by
    subst ha hb
    exact h₁.armed.trans h₂.armed
  pending := by
    refine (h₂.pending.trans (h₁.pending.adding _)).trans (.of_eq fun i => ?_)
    by_cases hi : i? = some i
    · -- no number is given out twice
      have hj : j? ≠ some i := by
        intro hj
        have := h₁.fresh i hi
        have := h₂.fresh i hj
        omega
      simp [Pending.adding, pairAlarms, hi, hj, ha]
    · by_cases hj : j? = some i <;> simp [Pending.adding, pairAlarms, hi, hj, hb]

/-- Arming a pair by `armPair` puts in as many of the two alarms as could be armed, and nothing
    else. -/
theorem armPair_on (hl : h.Losing lossy) (triggers : Pair Moment) (actions : Pair AlarmAction)
    (d : Daemon) :
    PairArmed lossy ((armPair h triggers actions).on d).1.1 triggers actions d
      ((armPair h triggers actions).on d).2 :=
  (arm_on hl _ d).pair rfl rfl (arm_on hl _ _)

end Daemon

end Twilight
