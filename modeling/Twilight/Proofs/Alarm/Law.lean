import Twilight.Alarm.Worker
import Twilight.Proofs.Alarm.Runs

namespace Twilight

/-!
# What clients of the alarm queue can rely on

* `QueueRun.TakesDue` — a batch is exactly what is due; the rest stays, and what repeats goes on.
* `QueueRun.AllAfter` — nothing is due at a reading until something is armed again.
* `QueueRun.Lawful`, `QueueRun.lawful_run` — every run is lawful.
* `Worker.Follows` — the worker that runs batch after batch follows such a run.
-/

open Time

namespace QueueRun

variable {α : Type}

/-! ### Batches -/

/-- Taking out what is due at `now`: the batch and what is left behind. -/
structure TakesDue (z : Zone) (q : AlarmQueue α) (now : Moment) : Prop where
  exact : ∀ id a, (id, a) ∈ (q.takeDue z now).1 ↔
    q.pending.get? id = some a ∧ a.trigger.nanos ≤ now.nanos
  ascending : (q.takeDue z now).1.Pairwise fun p p' => p.1 < p'.1
  untouched : ∀ id, (∀ a, (id, a) ∉ (q.takeDue z now).1) →
    (q.takeDue z now).2.pending.get? id = q.pending.get? id
  spent : ∀ id a, (id, a) ∈ (q.takeDue z now).1 → a.interval = none →
    (q.takeDue z now).2.pending.get? id = none
  goesOn : ∀ id a, (id, a) ∈ (q.takeDue z now).1 → a.interval ≠ none →
    ∃ b, (q.takeDue z now).2.pending.get? id = some b ∧ b.action = a.action ∧
      b.interval = a.interval ∧ now.nanos < b.trigger.nanos

/-- Every pending alarm repeats after a positive time, if at all. -/
def GoesForward (q : AlarmQueue α) : Prop :=
  ∀ id a, q.pending.get? id = some a → ∀ n, a.interval = some n → 0 < n

/-- An alarm is among those that are `due` if and only if it is pending and its trigger is not after
    the reading. -/
theorem mem_due {q : AlarmQueue α} {now : Moment} {id : AlarmId} {a : Alarm α} :
    (id, a) ∈ q.due now ↔ q.pending.get? id = some a ∧ a.trigger.nanos ≤ now.nanos := by
  unfold AlarmQueue.due
  rw [List.mem_filter, ← Table.get?_eq_some_iff]
  exact and_congr_right' decide_eq_true_iff

/-- Of a queue that goes forward, what is due is taken out as `TakesDue` says: all of it and nothing
    else, in ascending order of the numbers. -/
theorem takesDue {q : AlarmQueue α} (hq : GoesForward q) (z : Zone) (now : Moment) :
    TakesDue z q now where
  exact _ _ := mem_due
  ascending := (q.pending.sorted.filter _).imp of_decide_eq_true
  untouched id hid := by
    show (q.afterDue z now).pending.get? id = _
    rw [get?_afterDue]
    cases ha : q.pending.get? id with
    | none => rfl
    | some a =>
      have hnot : ¬ a.isDue now = true := fun hdue => hid a (mem_due.2 ⟨ha, of_decide_eq_true hdue⟩)
      exact if_neg hnot
  spent id a ha hone := by
    obtain ⟨hpending, hdue⟩ := mem_due.1 ha
    show (q.afterDue z now).pending.get? id = none
    rw [get?_afterDue, hpending]
    simp [Alarm.isDue, hdue, Alarm.next?, hone]
  goesOn id a ha hrepeats := by
    obtain ⟨hpending, hdue⟩ := mem_due.1 ha
    obtain ⟨n, hn⟩ := Option.ne_none_iff_exists'.1 hrepeats
    -- an alarm with an interval always has a next trigger
    obtain ⟨b, hnext⟩ : ∃ b, a.next? z now = some b := by
      unfold Alarm.next?
      rw [hn]
      exact ⟨_, rfl⟩
    obtain ⟨hinterval, haction, -⟩ := Alarm.eq_of_next? hnext
    -- here it counts that the interval is positive, which `GoesForward` says
    have hlater := Alarm.lt_trigger_of_next? hn (hq id a hpending n hn) hnext
    refine ⟨b, ?_, haction, hinterval, hlater⟩
    show (q.afterDue z now).pending.get? id = _
    rw [get?_afterDue, hpending]
    have hfires : a.isDue now = true := decide_eq_true hdue
    show (if a.isDue now then a.next? z now else some a) = some b
    rw [if_pos hfires, hnext]

/-- Every pending alarm lies after a reading. -/
def AllAfter (now : Moment) (q : AlarmQueue α) : Prop :=
  ∀ id a, q.pending.get? id = some a → now.nanos < a.trigger.nanos

/-- Once everything due is taken out, what is pending lies after the reading. -/
theorem allAfter_takeDue {q : AlarmQueue α} (hq : GoesForward q) (z : Zone) (now : Moment) :
    AllAfter now (q.takeDue z now).2 := by
  intro id a ha
  change (q.afterDue z now).pending.get? id = some a at ha
  rw [get?_afterDue] at ha
  obtain ⟨b, hb, hnext⟩ := Option.bind_eq_some_iff.1 ha
  split at hnext
  · obtain ⟨n, hn⟩ := Option.ne_none_iff_exists'.1 (Alarm.eq_of_next? hnext).2.2
    exact Alarm.lt_trigger_of_next? hn (hq id b hb n hn) hnext
  · rename_i hdue
    rw [← Option.some.inj hnext]
    simpa [Alarm.isDue] using hdue

/-- Whatever is taken out, also at a later reading, what goes on lies further ahead. -/
theorem AllAfter.afterDue {now : Moment} {q : AlarmQueue α} (h : AllAfter now q)
    (hq : GoesForward q) (z : Zone) (t : Moment) : AllAfter now (q.takeDue z t).2 := by
  intro id a ha
  change (q.afterDue z t).pending.get? id = some a at ha
  rw [get?_afterDue] at ha
  obtain ⟨b, hb, hnext⟩ := Option.bind_eq_some_iff.1 ha
  have hlt : now.nanos < b.trigger.nanos := h id b hb
  split at hnext
  · rename_i hdue
    obtain ⟨n, hn⟩ := Option.ne_none_iff_exists'.1 (Alarm.eq_of_next? hnext).2.2
    have hnew := Alarm.lt_trigger_of_next? hn (hq id b hb n hn) hnext
    have hreached : b.trigger.nanos ≤ t.nanos := of_decide_eq_true hdue
    omega
  · rw [← Option.some.inj hnext]
    exact hlt

/-- Where everything pending is to come after a moment, it stays so through all steps that arm
    nothing: an alarm that repeats only goes forward. -/
theorem allAfter_steps {now : Moment} {r : QueueRun α} (hr : Recorded r)
    (h : AllAfter now r.queue) (z : Zone) {ss : List (QueueStep α)}
    (hss : ∀ s ∈ ss, s.ArmsNothing) : AllAfter now (r.steps z ss).queue := by
  induction ss generalizing r with
  | nil => exact h
  | cons s ss ih =>
    refine ih (hr.step z s) ?_ fun s' hs' => hss s' (List.mem_cons_of_mem _ hs')
    cases s with
    | arm trigger interval action => exact (hss _ (List.mem_cons_self)).elim
    | cancel id => exact Table.forall_erase id h
    | take t => exact h.afterDue (fun i a ha => (hr.pending i a ha).2) z t
    | call place =>
      -- a callback by itself leaves the queue alone
      have hqueue : (r.step z (.call place)).queue = r.queue := by
        unfold QueueRun.step
        dsimp only
        split <;> rfl
      rw [hqueue]
      exact h

/-! ### The law -/

/-- A number is exactly one of pending, taken out, and cancelled before it ever was. -/
def Placed (r : QueueRun α) (id : AlarmId) : Prop :=
  (r.queue.isPending id = true ∧ firings r.log id = [] ∧ ¬ CancelledFirst r.log id) ∨
  (r.queue.isPending id = false ∧ firings r.log id ≠ [] ∧ ¬ CancelledFirst r.log id) ∨
  (r.queue.isPending id = false ∧ firings r.log id = [] ∧ CancelledFirst r.log id)

/-- What clients and callbacks can rely on at every point of a run. -/
structure Lawful (z : Zone) (r : QueueRun α) : Prop where
  /-- No number is given out twice, -/
  fresh : (armedIds r.log).Nodup
  /-- and the numbers are bounded by how many alarms were armed. -/
  counted : ∀ id ∈ armedIds r.log, id ≤ (armedIds r.log).length
  /-- What is pending goes on with what was armed under its number. -/
  kept : ∀ id a, r.queue.pending.get? id = some a → Continues r.log id a
  /-- An alarm is taken out at or after its trigger. -/
  due : ∀ id now a, (now, a) ∈ firings r.log id →
    a.trigger.nanos ≤ now.nanos ∧ Continues r.log id a
  /-- A one-shot alarm is taken out at most once. -/
  once : ∀ id a, .armed id a ∈ r.log → a.interval = none → (firings r.log id).length ≤ 1
  /-- A callback ran or waits once for each time its alarm was taken out. -/
  ran : ∀ id, calls r.log id + r.waiting.countP (fun p => p.1 = id) = (firings r.log id).length
  /-- A cancelled alarm, repeating or not, is never taken out again: its callback runs only for what
      was taken out before. -/
  halted : ∀ id before after, r.log = before ++ .cancelled id :: after → id ∈ armedIds before →
    firings after id = [] ∧ calls before id + calls after id ≤ (firings before id).length
  /-- One that was cancelled before it was ever taken out never fires. -/
  spared : ∀ id, CancelledFirst r.log id → firings r.log id = [] ∧ calls r.log id = 0
  /-- A one-shot alarm is at all times exactly one of pending, taken out and cancelled. -/
  fate : ∀ id a, .armed id a ∈ r.log → a.interval = none → Placed r id
  /-- A batch is what is due, in the order of the numbers. -/
  batch : ∀ now, TakesDue z r.queue now
  /-- Taken again at the same reading, with nothing armed in between, a batch is empty. -/
  again : ∀ now ss, (∀ s ∈ ss, s.ArmsNothing) →
    (((r.step z (.take now)).steps z ss).queue.takeDue z now).1 = []

/-- A one-shot alarm with a `Fate` is in exactly one place: it waits, it was taken out, or it was
    cancelled first. -/
theorem Fate.placed {r : QueueRun α} {id : AlarmId} {a : Alarm α} (h : Fate r id a) :
    Placed r id := by
  unfold Placed AlarmQueue.isPending Table.contains
  cases h with
  | pending here unfired kept => exact .inl ⟨by rw [here]; rfl, unfired, kept⟩
  | taken now gone fired kept =>
    exact .inr (.inl ⟨by rw [gone]; rfl, by rw [fired]; exact List.cons_ne_nil _ _, kept⟩)
  | cancelled gone unfired first => exact .inr (.inr ⟨by rw [gone]; rfl, unfired, first⟩)

/-- Callbacks run for alarms that were taken out, and for these only once. -/
theorem Recorded.calls_le {r : QueueRun α} (h : Recorded r) (id : AlarmId) :
    calls r.log id ≤ (firings r.log id).length := by
  have hbalance := h.balance id
  omega

/-- Once a number is cancelled nothing is taken out under it any more. Only callbacks that already
    waited may still run. -/
theorem Recorded.halts {r : QueueRun α} (h : Recorded r) {id : AlarmId}
    {before after : List (QueueEvent α)} (hlog : r.log = before ++ .cancelled id :: after)
    (harmed : id ∈ armedIds before) :
    firings after id = [] ∧ firings r.log id = firings before id ∧
      calls r.log id = calls before id + calls after id := by
  have hquiet : firings after id = [] := (h.halted id before after hlog harmed).2
  have hsplit : r.log = (before ++ [.cancelled id]) ++ after := by simp [hlog]
  refine ⟨hquiet, ?_, ?_⟩
  · rw [hsplit, firings_append, firings_append, hquiet, firings_cancelled]
    simp
  · rw [hsplit, calls_append, calls_append, calls_cancelled]
    rfl

/-- **Run law of the alarm queue.** Whatever clients, callbacks and the worker do and whichever
    readings the clock shows, the queue stays lawful. -/
theorem lawful_run (z : Zone) (ss : List (QueueStep α)) : Lawful z (run z ss) := by
  have hr : Recorded (run z ss) := recorded_run z ss
  have hforward : GoesForward (run z ss).queue := fun id a ha => (hr.pending id a ha).2
  exact {
    fresh := by
      rw [hr.numbers]
      exact List.nodup_range'
    counted := fun id hid => by
      rw [hr.numbers, List.length_range']
      exact hr.le_lastId hid
    kept := fun id a ha => (hr.pending id a ha).1
    due := hr.fired
    once := fun id a ha hone => by
      cases hr.fate id a ha hone with
      | pending here unfired kept => simp [unfired]
      | taken now gone fired kept => simp [fired]
      | cancelled gone unfired first => simp [unfired]
    ran := hr.balance
    halted := fun id before after hlog harmed => by
      obtain ⟨hquiet, hfirings, hcalls⟩ := hr.halts hlog harmed
      have hle := hr.calls_le id
      rw [hfirings, hcalls] at hle
      exact ⟨hquiet, hle⟩
    spared := fun id hfirst => by
      obtain ⟨before, after, hlog, harmed, hnone⟩ := hfirst
      have hfirings : firings (run z ss).log id = [] := (hr.halts hlog harmed).2.1.trans hnone
      have hle := hr.calls_le id
      rw [hfirings] at hle
      exact ⟨hfirings, Nat.le_zero.1 hle⟩
    fate := fun id a ha hone => (hr.fate id a ha hone).placed
    batch := takesDue hforward z
    again := fun now rest hrest => by
      have hafter :=
        allAfter_steps (hr.step z (.take now)) (allAfter_takeDue hforward z now) z hrest
      rw [List.eq_nil_iff_forall_not_mem]
      rintro ⟨id, a⟩ hmem
      -- an alarm of the second batch would lie both after the reading and not
      obtain ⟨hpending, hdue⟩ := mem_due.1 hmem
      have hlt := hafter id a hpending
      omega }

/-- A run that goes on from another one. -/
def Reaches (z : Zone) (r r₁ : QueueRun α) : Prop := ∃ ss, r₁ = r.steps z ss

theorem Reaches.refl (z : Zone) (r : QueueRun α) : Reaches z r r := ⟨[], rfl⟩

/-- What is reached from a run that is reached is reached: the steps are done one after the other.
    -/
theorem Reaches.trans {z : Zone} {r r₁ r₂ : QueueRun α} (h₁ : Reaches z r r₁)
    (h₂ : Reaches z r₁ r₂) : Reaches z r r₂ := by
  obtain ⟨ss, rfl⟩ := h₁
  obtain ⟨ss', rfl⟩ := h₂
  exact ⟨ss ++ ss', (List.foldl_append).symm⟩

/-- One step of the queue is a way to reach what it leaves. -/
theorem Reaches.step (z : Zone) (r : QueueRun α) (s : QueueStep α) : Reaches z r (r.step z s) :=
  ⟨[s], rfl⟩

end QueueRun

/-! ### The worker -/

namespace Worker

open QueueRun (Reaches)

/-- The worker's queue is that of a run. -/
structure Follows (z : Zone) (w : Worker) (r : QueueRun Job) : Prop where
  zone : w.zone = z
  queue : w.queue = r.queue

variable {z : Zone} {w : Worker} {r : QueueRun Job}

/-- Whatever the worker is asked to perform, the queue takes steps that the run `Follows`, and no
    callback waits that did not before. -/
theorem Follows.perform (h : Follows z w r) (s : WorkerStep) :
    ∃ r₁, Reaches z r r₁ ∧ Follows z (w.perform s) r₁ ∧ r₁.waiting = r.waiting := by
  cases s with
  | arm label time interval callback =>
    -- whichever trigger the worker works out, it arms with the interval that was asked for
    have harm : ∃ trigger, (w.perform (.arm label time interval callback)).queue =
        (w.queue.arm (.requested trigger (interval.map (· * nanosPerSecond))
          (Job.mk label callback))).2 := by
      unfold Worker.perform
      cases interval <;> exact ⟨_, rfl⟩
    obtain ⟨trigger, hqueue⟩ := harm
    refine ⟨_, .step z r (.arm trigger (interval.map (· * nanosPerSecond))
      (Job.mk label callback)), ⟨h.zone, ?_⟩, rfl⟩
    rw [hqueue, h.queue]
    rfl
  | cancel label =>
    unfold Worker.perform
    dsimp only
    split
    · rename_i id _
      refine ⟨_, .step z r (.cancel id), ⟨h.zone, ?_⟩, rfl⟩
      rw [h.queue]
      rfl
    · -- a label without an alarm is no step of the queue
      exact ⟨r, .refl z r, h, rfl⟩
  | advance seconds => exact ⟨r, .refl z r, ⟨h.zone, h.queue⟩, rfl⟩
  | set nanos => exact ⟨r, .refl z r, ⟨h.zone, h.queue⟩, rfl⟩

/-- The same for any number of steps that the worker performs, by induction over them. -/
theorem Follows.performAll (h : Follows z w r) (ss : List WorkerStep) :
    ∃ r₁, Reaches z r r₁ ∧ Follows z (ss.foldl Worker.perform w) r₁ ∧ r₁.waiting = r.waiting := by
  induction ss generalizing w r with
  | nil => exact ⟨r, .refl z r, h, rfl⟩
  | cons s ss ih =>
    obtain ⟨r₁, hreach₁, hfollows₁, hwaiting₁⟩ := h.perform s
    obtain ⟨r₂, hreach₂, hfollows₂, hwaiting₂⟩ := ih hfollows₁
    exact ⟨r₂, hreach₁.trans hreach₂, hfollows₂, hwaiting₂.trans hwaiting₁⟩

/-- The callbacks of a batch run one after the other, and nothing waits then. -/
theorem Follows.fireAll {batch : List (AlarmId × Alarm Job)} (h : Follows z w r)
    (hwaiting : r.waiting = batch) :
    ∃ r₁, Reaches z r r₁ ∧ Follows z (batch.foldl (fun w p => w.fire p.2.action) w) r₁ ∧
      r₁.waiting = [] := by
  induction batch generalizing w r with
  | nil => exact ⟨r, .refl z r, h, hwaiting⟩
  | cons p batch ih =>
    have hcalled : (r.step z (.call 0)).queue = r.queue ∧
        (r.step z (.call 0)).waiting = batch := by
      simp [QueueRun.step, hwaiting]
    have hstart : Follows z { w with fired := (p.2.action.label, w.clock.seconds) :: w.fired }
        (r.step z (.call 0)) := ⟨h.zone, h.queue.trans hcalled.1.symm⟩
    obtain ⟨r₁, hreach₁, hfollows₁, hwaiting₁⟩ := hstart.performAll p.2.action.callback
    obtain ⟨r₂, hreach₂, hfollows₂, hwaiting₂⟩ := ih hfollows₁ (hwaiting₁.trans hcalled.2)
    exact ⟨r₂, ((Reaches.step z r _).trans hreach₁).trans hreach₂, hfollows₂, hwaiting₂⟩

/-- While the worker drains its queue, every alarm that it takes out and calls back is a step of the
    run that `Follows` it, so no callback is left waiting. -/
theorem Follows.drain (h : Follows z w r) (hwaiting : r.waiting = []) (limit : Nat) :
    ∃ r₁, Reaches z r r₁ ∧ Follows z (Worker.drain limit w) r₁ ∧ r₁.waiting = [] := by
  induction limit generalizing w r with
  | zero => exact ⟨r, .refl z r, h, hwaiting⟩
  | succ limit ih =>
    unfold Worker.drain
    cases hbatch : w.batch? with
    | none => exact ⟨r, .refl z r, h, hwaiting⟩
    | some w₁ =>
      -- the batch is taken out, then its callbacks run
      unfold Worker.batch? at hbatch
      dsimp only at hbatch
      split at hbatch
      · cases hbatch
      · obtain rfl := Option.some.inj hbatch
        have htaken : Follows z { w with queue := (w.queue.takeDue w.zone w.clock).2 }
            (r.step z (.take w.clock)) := by
          refine ⟨h.zone, ?_⟩
          rw [h.queue, h.zone]
          rfl
        have hwait : (r.step z (.take w.clock)).waiting = (w.queue.takeDue w.zone w.clock).1 := by
          rw [h.queue, h.zone]
          simp [QueueRun.step, hwaiting]
        obtain ⟨r₁, hreach₁, hfollows₁, hwaiting₁⟩ := htaken.fireAll hwait
        obtain ⟨r₂, hreach₂, hfollows₂, hwaiting₂⟩ := ih hfollows₁ hwaiting₁
        exact ⟨r₂, ((Reaches.step z r _).trans hreach₁).trans hreach₂, hfollows₂, hwaiting₂⟩

/-- A whole step of the worker, with the callbacks that it leads to, is followed by steps of the
    queue. -/
theorem Follows.step (h : Follows z w r) (hwaiting : r.waiting = []) (s : WorkerStep) :
    ∃ r₁, Reaches z r r₁ ∧ Follows z (w.step s).2 r₁ ∧ r₁.waiting = [] := by
  have hstart : Follows z { w with fired := [] } r := ⟨h.zone, h.queue⟩
  obtain ⟨r₁, hreach₁, hfollows₁, hwaiting₁⟩ := hstart.perform s
  obtain ⟨r₂, hreach₂, hfollows₂, hwaiting₂⟩ :=
    hfollows₁.drain (hwaiting₁.trans hwaiting) batchLimit
  exact ⟨r₂, hreach₁.trans hreach₂, hfollows₂, hwaiting₂⟩

/-- Whatever a client asks of a new worker, its queue is that of a run of the alarm queue in which
    every callback has run. -/
theorem exists_run (z : Zone) (clock : Moment) (ss : List WorkerStep) :
    ∃ qs, Follows z (ss.foldl (fun w s => (w.step s).2) { zone := z, clock := clock })
      (QueueRun.run z qs) ∧ (QueueRun.run z qs).waiting = [] := by
  have hall : ∃ r, Reaches z {} r ∧
      Follows z (ss.foldl (fun w s => (w.step s).2) { zone := z, clock := clock }) r ∧
        r.waiting = [] := by
    induction ss using List.reverseRecOn with
    | nil => exact ⟨{}, .refl z {}, ⟨rfl, rfl⟩, rfl⟩
    | append_singleton ss s ih =>
      obtain ⟨r, hreach, hfollows, hwaiting⟩ := ih
      obtain ⟨r₁, hreach₁, hfollows₁, hwaiting₁⟩ := hfollows.step hwaiting s
      rw [List.foldl_concat]
      exact ⟨r₁, hreach.trans hreach₁, hfollows₁, hwaiting₁⟩
  obtain ⟨_, ⟨qs, rfl⟩, hfollows, hwaiting⟩ := hall
  exact ⟨qs, hfollows, hwaiting⟩

end Worker

end Twilight
