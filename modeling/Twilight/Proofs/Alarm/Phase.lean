import Mathlib.Data.Int.ModEq
import Mathlib.Order.Bounds.Basic
import Mathlib.Tactic.Ring
import Twilight.Proofs.Alarm.Runs

namespace Twilight

/-!
# The phase of repeating alarms

* `Alarm.Climbs` — one interval after another is added to a trigger until it lies ahead.
* `Alarm.GoesOn`, `Alarm.goesOn_next?` — that ends, at the first multiple of the interval ahead.
* `Alarm.OnPhase`, `QueueRun.Phased` — whatever happens to the queue, an alarm under its number
  stays a multiple of its interval away from where it was armed.
* `Alarm.Recurs`, `Alarm.recurs_of_withInterval` — the alarms that repeat, and those that do not.
-/

open Time

namespace Alarm

variable {α : Type} {z : Zone} {a b : Alarm α} {now : Moment} {interval : Int}

/-! ### The next trigger -/

/-- Intervals are added to an instant, one after another, until it lies after `now`. -/
inductive Climbs (interval now : Int) : Int → Int → Prop
  | done {t : Int} : now < t → Climbs interval now t t
  | step {t last : Int} :
      t ≤ now → Climbs interval now (t + interval) last → Climbs interval now t last

/-- Adding intervals ends at one instant only, so `Climbs` is a function of where it starts. -/
theorem Climbs.unique {n t u v : Int} (hu : Climbs interval n t u) (hv : Climbs interval n t v) :
    u = v := by
  induction hu with
  | done hlt =>
    cases hv with
    | done _ => rfl
    | step hle _ => exact absurd hle (Int.not_le.2 hlt)
  | step hle _ ih =>
    cases hv with
    | done hlt => exact absurd hle (Int.not_le.2 hlt)
    | step _ hrest => exact ih hrest

/-- If the instants before the last of some steps are not ahead, then the search gets there. -/
theorem climbs_steps {n t : Int} {steps : Nat} (hbefore : ∀ j < steps, t + j * interval ≤ n)
    (hahead : n < t + steps * interval) : Climbs interval n t (t + steps * interval) := by
  induction steps generalizing t with
  | zero =>
    rw [Int.natCast_zero, Int.zero_mul, Int.add_zero] at hahead ⊢
    exact .done hahead
  | succ steps ih =>
    have hshift : ∀ j : Nat, t + interval + j * interval = t + (j + 1 : Nat) * interval := by
      intro j
      push_cast
      ring
    have hfirst : t ≤ n := by simpa using hbefore 0 (Nat.succ_pos steps)
    rw [← hshift] at hahead ⊢
    refine .step hfirst (ih (fun j hj => ?_) hahead)
    rw [hshift]
    exact hbefore (j + 1) (Nat.succ_lt_succ hj)

/-- The steps that an alarm moves on are the fewest that lead past the firing. -/
theorem isLeast_stepsPast (hpos : 0 < interval) (a : Alarm α) (now : Moment) :
    IsLeast {k : Int | 1 ≤ k ∧ now.nanos < a.trigger.nanos + k * interval}
      (a.stepsPast interval now) := by
  refine ⟨⟨Int.le_max_left _ _, lt_stepsPast hpos a now⟩, ?_⟩
  rintro k ⟨hone, hahead⟩
  have hdiv : (now.nanos - a.trigger.nanos) / interval < k := by
    rw [Int.ediv_lt_iff_lt_mul hpos]
    omega
  exact Int.max_le.2 ⟨hone, hdiv⟩

/-- Fewer steps than `stepsPast` do not lead past the moment, so that it is the least number that
    does. -/
theorem le_of_lt_stepsPast (hpos : 0 < interval) {k : Int} (hone : 1 ≤ k)
    (hlt : k < a.stepsPast interval now) : a.trigger.nanos + k * interval ≤ now.nanos := by
  by_contra hnot
  exact absurd ((isLeast_stepsPast hpos a now).2 ⟨hone, Int.not_le.1 hnot⟩) (Int.not_le.2 hlt)

/-- For a positive interval the sum ends, namely at what `stepsPast` computes with one division. -/
theorem climbs_stepsPast (hpos : 0 < interval) (a : Alarm α) (now : Moment) :
    Climbs interval now.nanos (a.trigger.nanos + interval)
      (a.trigger.nanos + a.stepsPast interval now * interval) := by
  obtain ⟨⟨hone, hahead⟩, -⟩ := isLeast_stepsPast hpos a now
  -- the search begins one interval after the trigger
  obtain ⟨steps, hsteps⟩ : ∃ steps : Nat, a.stepsPast interval now = steps + 1 :=
    ⟨(a.stepsPast interval now - 1).toNat, by omega⟩
  have hshift : ∀ j : Int, a.trigger.nanos + (j + 1) * interval =
      a.trigger.nanos + interval + j * interval := by
    intro j
    ring
  rw [hsteps, hshift] at hahead ⊢
  refine climbs_steps (fun j hj => ?_) hahead
  rw [← hshift]
  exact le_of_lt_stepsPast hpos (by omega) (by omega)

/-- An alarm that was due moves no further than one interval past its firing. -/
theorem stepsPast_soon (hpos : 0 < interval) (hdue : a.isDue now = true) :
    a.trigger.nanos + a.stepsPast interval now * interval ≤ now.nanos + interval := by
  have hreached : a.trigger.nanos ≤ now.nanos := of_decide_eq_true hdue
  obtain ⟨⟨hone, -⟩, -⟩ := isLeast_stepsPast hpos a now
  have hstep : a.stepsPast interval now * interval =
      (a.stepsPast interval now - 1) * interval + interval := by
    ring
  rw [hstep]
  -- one step fewer does not lead past the firing, unless that is none
  rcases Int.lt_or_eq_of_le hone with hmore | hsingle
  · have hprevious : a.trigger.nanos + (a.stepsPast interval now - 1) * interval ≤ now.nanos :=
      le_of_lt_stepsPast hpos (by omega) (Int.sub_one_lt_of_le (Int.le_refl _))
    omega
  · rw [← hsingle]
    omega

/-- How an alarm that repeats goes on after it fired at `now`. -/
structure GoesOn (z : Zone) (interval : Int) (a : Alarm α) (now : Moment) (b : Alarm α) : Prop where
  interval_eq : b.interval = some interval
  action_eq : b.action = a.action
  /-- Adding one interval after another ends, with the new trigger. -/
  climbs_iff : ∀ t, Climbs interval now.nanos (a.trigger.nanos + interval) t ↔ t = b.trigger.nanos
  /-- It is the first whole number of intervals, at least one, that leads past the firing, -/
  least : ∃ k, b.trigger = a.trigger.after z (k * interval) ∧
    IsLeast {k : Int | 1 ≤ k ∧ now.nanos < a.trigger.nanos + k * interval} k
  later : now.nanos < b.trigger.nanos
  /-- and no more than one interval past it, if the alarm was due. -/
  soon : a.isDue now = true → b.trigger.nanos ≤ now.nanos + interval

/-- An alarm with a positive interval has a successor by `next?` whenever it fires, and this
    `GoesOn` from it. -/
theorem goesOn_next? (hn : a.interval = some interval) (hpos : 0 < interval)
    (z : Zone) (now : Moment) :
    ∃ b, a.next? z now = some b ∧ GoesOn z interval a now b := by
  have hclimbs := climbs_stepsPast hpos a now
  have hleast := isLeast_stepsPast hpos a now
  refine ⟨{ a with trigger := a.trigger.after z (a.stepsPast interval now * interval) }, ?_, ?_⟩
  · unfold next?
    simp only [hn, Option.map_some]
  · exact
      { interval_eq := hn
        action_eq := rfl
        climbs_iff := fun t => ⟨fun ht => ht.unique hclimbs, fun ht => ht ▸ hclimbs⟩
        least := ⟨_, rfl, hleast⟩
        later := hleast.1.2
        soon := stepsPast_soon hpos }

/-! ### Runs of the queue -/

/-- The trigger of an alarm is some intervals after that of the alarm that was armed. -/
structure OnPhase (interval : Int) (armed a : Alarm α) : Prop where
  interval_eq : a.interval = some interval
  action_eq : a.action = armed.action
  le : armed.trigger.nanos ≤ a.trigger.nanos
  modEq : a.trigger.nanos ≡ armed.trigger.nanos [ZMOD interval]

/-- What an alarm `GoesOn` with is whole intervals later, so it stays `OnPhase` of the alarm that
    was armed. -/
theorem OnPhase.goesOn {armed : Alarm α} (h : OnPhase interval armed a) (hpos : 0 < interval)
    (hg : GoesOn z interval a now b) : OnPhase interval armed b := by
  obtain ⟨k, htrigger, ⟨hone, -⟩, -⟩ := hg.least
  have hnanos : b.trigger.nanos = a.trigger.nanos + k * interval := by
    rw [htrigger]
    rfl
  have hmove : 0 ≤ k * interval := Int.mul_nonneg (by omega) (Int.le_of_lt hpos)
  refine ⟨hg.interval_eq, hg.action_eq.trans h.action_eq, ?_, ?_⟩
  · have hle := h.le
    omega
  · rw [hnanos]
    exact (Int.modEq_iff_dvd.2 ⟨-k, by ring⟩).trans h.modEq

end Alarm

namespace QueueRun

open Alarm (OnPhase GoesOn)

variable {α : Type} {z : Zone} {r : QueueRun α} {log : List (QueueEvent α)} {id : AlarmId}
variable {a b : Alarm α} {interval : Int}

/-- The alarm is on the phase of what was armed under its number to repeat. -/
def InPhase (log : List (QueueEvent α)) (id : AlarmId) (a : Alarm α) : Prop :=
  ∀ armed interval, .armed id armed ∈ log → armed.interval = some interval → 0 < interval →
    OnPhase interval armed a

/-- An event leaves an alarm `InPhase` unless it arms another one under the same number. -/
theorem InPhase.snoc {e : QueueEvent α} (h : InPhase log id a) (he : ∀ armed, e ≠ .armed id armed) :
    InPhase (log ++ [e]) id a := by
  intro armed interval hmem
  rcases List.mem_append.1 hmem with hold | hnew
  · exact h armed interval hold
  · exact absurd (List.mem_singleton.1 hnew).symm (he armed)

/-- The successor that `next?` gives an alarm is in phase with all that the alarm is in phase with.
    -/
theorem InPhase.next {now : Moment} (h : InPhase log id a) (hb : a.next? z now = some b) :
    InPhase log id b := by
  intro armed interval harmed hinterval hpos
  have honPhase := h armed interval harmed hinterval hpos
  obtain ⟨b', hb', hg⟩ := Alarm.goesOn_next? honPhase.interval_eq hpos z now
  obtain rfl := Option.some.inj (hb.symm.trans hb')
  exact honPhase.goesOn hpos hg

/-- All that is pending or was taken out is on the phase of what was armed. -/
structure Phased (r : QueueRun α) : Prop where
  pending : ∀ id a, r.queue.pending.get? id = some a → InPhase r.log id a
  fired : ∀ id now a, (now, a) ∈ firings r.log id → InPhase r.log id a

namespace Phased

/-- A new alarm is in phase with itself, and its number is new, so arming keeps the run `Phased`. -/
theorem arm (h : Phased r) (hr : Recorded r) (z : Zone) (trigger : Moment) (interval : Option Int)
    (action : α) : Phased (r.step z (.arm trigger interval action)) := by
  -- the number is a new one, so no other alarm is or was under it
  have hother : ∀ {id a}, InPhase r.log id a → id ≤ r.queue.lastId →
      InPhase (r.step z (.arm trigger interval action)).log id a := by
    intro id a hphase hle
    refine hphase.snoc fun armed heq => ?_
    obtain ⟨rfl, -⟩ := QueueEvent.armed.inj heq
    exact Nat.not_succ_le_self _ hle
  refine ⟨Table.forall_insert ?_ fun id a ha => ?_, fun id now a hmem => ?_⟩
  · intro armed interval' hmem hinterval hpos
    rcases List.mem_append.1 hmem with hold | hnew
    · exact absurd (hr.le_lastId (mem_armedIds.2 ⟨_, hold⟩)) (Nat.not_succ_le_self _)
    · obtain ⟨-, rfl⟩ := QueueEvent.armed.inj (List.mem_singleton.1 hnew)
      exact ⟨hinterval, rfl, Int.le_refl _, Int.ModEq.refl _⟩
  · exact hother (h.pending id a ha) (hr.le_lastId (hr.pending id a ha).1.mem_armedIds)
  · have hold : (now, a) ∈ firings r.log id := by simpa [step] using hmem
    exact hother (h.fired id now a hold) (hr.le_lastId (hr.fired id now a hold).2.mem_armedIds)

/-- Cancelling adds no alarm, pending or taken, so the run stays `Phased`. -/
theorem cancel (h : Phased r) (z : Zone) (id : AlarmId) : Phased (r.step z (.cancel id)) := by
  refine ⟨Table.forall_erase _ fun i a ha => (h.pending i a ha).snoc nofun, fun i now a hmem => ?_⟩
  have hold : (now, a) ∈ firings r.log i := by simpa [step] using hmem
  exact (h.fired i now a hold).snoc nofun

/-- What is taken out was pending, and what goes on is its successor by `next?`, so taking keeps the
    run `Phased`. -/
theorem take (h : Phased r) (z : Zone) (now : Moment) : Phased (r.step z (.take now)) := by
  refine ⟨fun id a ha => ?_, fun id t a hmem => ?_⟩
  · -- what was due went on from an alarm that was pending, the rest is pending as before
    change (r.queue.afterDue z now).pending.get? id = some a at ha
    rw [get?_afterDue] at ha
    obtain ⟨b, hb, hnext⟩ := Option.bind_eq_some_iff.1 ha
    split at hnext
    · exact ((h.pending id b hb).next hnext).snoc nofun
    · obtain rfl := Option.some.inj hnext
      exact (h.pending id b hb).snoc nofun
  · change (t, a) ∈ firings (r.log ++ [.taken now (r.queue.due now)]) id at hmem
    rw [firings_append, List.mem_append, firings_due] at hmem
    rcases hmem with hold | hnew
    · exact (h.fired id t a hold).snoc nofun
    · obtain ⟨b, hb, heq⟩ := List.mem_map.1 hnew
      obtain ⟨rfl, rfl⟩ := Prod.mk.inj heq
      obtain ⟨hpending, -⟩ := Option.filter_eq_some_iff.1 (Option.mem_toList.1 hb)
      exact (h.pending id b hpending).snoc nofun

/-- Running a callback touches neither the queue nor what was taken out of it. -/
theorem call (h : Phased r) (z : Zone) (place : Nat) : Phased (r.step z (.call place)) := by
  unfold QueueRun.step
  dsimp only
  split
  · rename_i p hp
    refine ⟨fun id a ha => (h.pending id a ha).snoc nofun, fun id now a hmem => ?_⟩
    have hold : (now, a) ∈ firings r.log id := by simpa using hmem
    exact (h.fired id now a hold).snoc nofun
  · exact h

/-- Each step of the queue keeps it `Phased`: an alarm that repeats is put back whole intervals
    later. -/
theorem step (h : Phased r) (hr : Recorded r) (z : Zone) (s : QueueStep α) :
    Phased (r.step z s) := by
  cases s with
  | arm trigger interval action => exact h.arm hr z trigger interval action
  | cancel id => exact h.cancel z id
  | take now => exact h.take z now
  | call place => exact h.call z place

end Phased

/-- Every run of the queue is `Phased`, by induction over its steps. -/
theorem phased_run (z : Zone) (ss : List (QueueStep α)) : Phased (run z ss) := by
  induction ss using List.reverseRecOn with
  | nil => exact ⟨fun id a ha => (nomatch ha), fun id now a hmem => (nomatch hmem)⟩
  | append_singleton ss s ih =>
    rw [run_snoc]
    exact ih.step (recorded_run z ss) z s

end QueueRun

/-! ### Alarms that are asked to repeat -/

namespace Alarm

open QueueRun (run firings)

variable {α : Type}

/-- What becomes of an alarm that was asked to repeat at an interval. -/
structure Recurs (z : Zone) (interval : Int) (a : Alarm α) : Prop where
  /-- If the interval is not positive then the alarm is a one-shot. -/
  once : interval ≤ 0 → a.isRepeating = false ∧ ∀ now, a.next? z now = none
  /-- Otherwise it goes on whenever it fires, -/
  next : 0 < interval → ∀ now, a.isDue now = true →
    ∃ b, a.next? z now = some b ∧ GoesOn z interval a now b
  /-- and in every run of a queue in which it was armed, all that is taken out under its number is
      on its phase, -/
  taken : 0 < interval → ∀ ss id, .armed id a ∈ (run z ss).log →
    ∀ now b, (now, b) ∈ firings (run z ss).log id → b.isDue now = true ∧ OnPhase interval a b
  /-- and so is what is pending, which goes on under the number in its turn. -/
  pending : 0 < interval → ∀ ss id, .armed id a ∈ (run z ss).log →
    ∀ b, (run z ss).queue.pending.get? id = some b → OnPhase interval a b ∧
      ∀ now, b.isDue now = true → ∃ c,
        ((run z ss).queue.takeDue z now).2.pending.get? id = some c ∧ GoesOn z interval b now c

/-- Whatever interval an alarm is given by `withInterval`, it recurs as `Recurs` says: as a one-shot
    if it is not positive, and otherwise on its phase, after the least number of intervals that
    leads past the firing. -/
theorem recurs_of_withInterval (z : Zone) (trigger : Moment) (action : α) (interval : Int) :
    Recurs z interval ((Alarm.once trigger action).withInterval interval) where
  once hle := by
    have hnone : ((Alarm.once trigger action).withInterval interval).interval = none :=
      if_neg (Int.not_lt.2 hle)
    refine ⟨by rw [isRepeating, hnone]; rfl, fun now => by rw [next?, hnone]; rfl⟩
  next hpos now _ := goesOn_next? (if_pos hpos) hpos z now
  taken hpos ss id harmed now b hmem :=
    ⟨decide_eq_true ((QueueRun.recorded_run z ss).fired id now b hmem).1,
      (QueueRun.phased_run z ss).fired id now b hmem _ _ harmed (if_pos hpos) hpos⟩
  pending hpos ss id harmed b hb := by
    -- what is pending is in phase with the first trigger, so the next alarm is as well
    have hphase := (QueueRun.phased_run z ss).pending id b hb _ _ harmed (if_pos hpos) hpos
    refine ⟨hphase, fun now hdue => ?_⟩
    obtain ⟨c, hc, hg⟩ := goesOn_next? hphase.interval_eq hpos z now
    refine ⟨c, ?_, hg⟩
    show ((run z ss).queue.afterDue z now).pending.get? id = some c
    rw [QueueRun.get?_afterDue, hb]
    exact (if_pos hdue).trans hc

/-- Every ten minutes and taken out after twenty-five, an alarm goes on after thirty. -/
example : (((Alarm.once (Moment.ofNanos {} 0) ()).withInterval (600 * nanosPerSecond)).next? {}
    (Moment.ofNanos {} (1500 * nanosPerSecond))).map (·.trigger.seconds) = some 1800 := by decide

end Alarm

end Twilight
