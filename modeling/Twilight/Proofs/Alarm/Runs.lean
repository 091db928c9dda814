import Mathlib.Data.List.Basic
import Mathlib.Data.List.Induction
import Mathlib.Data.List.Perm.Basic
import Twilight.Alarm.Queue
import Twilight.Proofs.Table

namespace Twilight

/-!
# Runs of the alarm queue

Clients and callbacks arm and cancel, the worker takes out what is due at some reading of the clock,
and the callbacks of what was taken out run later, in whatever order.

* `QueueStep`, `QueueRun.step` — one such step; it notes what happened in a log.
* `QueueRun.armedIds`, `QueueRun.firings`, `QueueRun.calls` — the numbers given out, the readings at
  which an alarm was taken out and how often its callback ran, read off a log.
* `QueueRun.Recorded` — how the queue hangs together with its log: `Recorded.step` per step,
  `recorded_run` for runs.
-/

open Time

/-! ### Alarms that are armed -/

namespace Alarm

variable {α : Type}

/-- The alarm of a request to arm: a one-shot, or one that repeats if its interval is positive. -/
def requested (trigger : Moment) (interval : Option Int) (action : α) : Alarm α :=
  match interval with
  | none => .once trigger action
  | some nanos => (Alarm.once trigger action).withInterval nanos

/-- An interval that `requested` keeps is positive, whatever was asked for; with any other one the
    alarm is for once. -/
theorem requested_interval_pos {trigger : Moment} {interval : Option Int} {action : α} {n : Int}
    (h : (requested trigger interval action).interval = some n) : 0 < n := by
  unfold requested at h
  cases interval with
  | none => cases h
  | some nanos =>
    simp only [withInterval] at h
    split at h
    · rename_i hpos
      rw [← Option.some.inj h]
      exact hpos
    · cases h

/-- The steps that an alarm moves on lead past the reading at which it fired. -/
theorem lt_stepsPast {n : Int} (hpos : 0 < n) (a : Alarm α) (now : Moment) :
    now.nanos < a.trigger.nanos + a.stepsPast n now * n := by
  have hsteps : (now.nanos - a.trigger.nanos) / n + 1 ≤ a.stepsPast n now := Int.le_max_right _ _
  have hdiv : now.nanos - a.trigger.nanos < ((now.nanos - a.trigger.nanos) / n + 1) * n :=
    Int.lt_ediv_add_one_mul_self _ hpos
  have hmul : ((now.nanos - a.trigger.nanos) / n + 1) * n ≤ a.stepsPast n now * n :=
    Int.mul_le_mul_of_nonneg_right hsteps (Int.le_of_lt hpos)
  omega

/-- A repeating alarm goes on strictly after the reading at which it fired. -/
theorem lt_trigger_of_next? {z : Zone} {a b : Alarm α} {now : Moment} {n : Int}
    (hn : a.interval = some n) (hpos : 0 < n) (h : a.next? z now = some b) :
    now.nanos < b.trigger.nanos := by
  unfold next? at h
  rw [hn] at h
  rw [← Option.some.inj h]
  exact lt_stepsPast hpos a now

/-- The `next?` of an alarm repeats with the same interval and does the same; only its trigger
    moves. -/
theorem eq_of_next? {z : Zone} {a b : Alarm α} {now : Moment} (h : a.next? z now = some b) :
    b.interval = a.interval ∧ b.action = a.action ∧ a.interval ≠ none := by
  obtain ⟨n, hn, rfl⟩ := Option.map_eq_some_iff.1 h
  exact ⟨rfl, rfl, by rw [hn]; exact Option.some_ne_none n⟩

end Alarm

/-! ### Steps -/

/-- A step on the alarm queue. -/
inductive QueueStep (α : Type) where
  /-- A client or a callback arms an alarm. -/
  | arm (trigger : Moment) (interval : Option Int) (action : α)
  /-- A client or a callback cancels a number. -/
  | cancel (id : AlarmId)
  /-- The worker takes out everything due at a reading of its clock. -/
  | take (now : Moment)
  /-- The callback at some place among those that wait runs. -/
  | call (place : Nat)

/-- What a step did. -/
inductive QueueEvent (α : Type) where
  | armed (id : AlarmId) (a : Alarm α)
  | cancelled (id : AlarmId)
  | taken (now : Moment) (batch : List (AlarmId × Alarm α))
  | called (id : AlarmId)

/-- The queue, the alarms that were taken out and whose callbacks wait to run, and all that
    happened so far. -/
structure QueueRun (α : Type) where
  queue : AlarmQueue α := {}
  waiting : List (AlarmId × Alarm α) := []
  log : List (QueueEvent α) := []

/-- Whether a step arms nothing. -/
def QueueStep.ArmsNothing {α : Type} : QueueStep α → Prop
  | .arm .. => False
  | _ => True

namespace QueueRun

variable {α : Type}

/-- Carry out one step; a place at which no callback waits stands for nothing. -/
def step (z : Zone) (r : QueueRun α) : QueueStep α → QueueRun α
  | .arm trigger interval action =>
    let (id, queue) := r.queue.arm (.requested trigger interval action)
    { r with queue := queue, log := r.log ++ [.armed id (.requested trigger interval action)] }
  | .cancel id => { r with queue := r.queue.cancel id, log := r.log ++ [.cancelled id] }
  | .take now =>
    let (batch, queue) := r.queue.takeDue z now
    { queue := queue, waiting := r.waiting ++ batch, log := r.log ++ [.taken now batch] }
  | .call place =>
    match r.waiting[place]? with
    | some p => { r with waiting := r.waiting.eraseIdx place, log := r.log ++ [.called p.1] }
    | none => r

/-- Carry out steps one after the other. -/
def steps (z : Zone) (r : QueueRun α) (ss : List (QueueStep α)) : QueueRun α := ss.foldl (step z) r

/-- A run from the empty queue. -/
def run (z : Zone) (ss : List (QueueStep α)) : QueueRun α := steps z {} ss

/-- A run with one more step is the run followed by that step, which is what inductions over a `run`
    go by. -/
theorem run_snoc (z : Zone) (ss : List (QueueStep α)) (s : QueueStep α) :
    run z (ss ++ [s]) = (run z ss).step z s := List.foldl_concat _ _ _ _

/-! ### Reading a log -/

/-- The numbers given out, in order. -/
def armedIds (log : List (QueueEvent α)) : List AlarmId :=
  log.filterMap fun
    | .armed id _ => some id
    | _ => none

/-- The readings at which an alarm was taken out, with the alarm as it was then. -/
def firings (log : List (QueueEvent α)) (id : AlarmId) : List (Moment × Alarm α) :=
  log.flatMap fun
    | .taken now batch => (batch.filter fun p => p.1 = id).map fun p => (now, p.2)
    | _ => []

/-- How often the callback of an alarm ran. -/
def calls (log : List (QueueEvent α)) (id : AlarmId) : Nat :=
  log.countP fun
    | .called i => i = id
    | _ => false

/-- An alarm was cancelled after it was armed and before it was ever taken out. -/
def CancelledFirst (log : List (QueueEvent α)) (id : AlarmId) : Prop :=
  ∃ before after, log = before ++ .cancelled id :: after ∧ id ∈ armedIds before ∧
    firings before id = []

section

variable (log more : List (QueueEvent α)) (id : AlarmId)

/-- The numbers given out in two parts of a log are those of the first part, then those of the
    second. -/
@[simp] theorem armedIds_append : armedIds (log ++ more) = armedIds log ++ armedIds more :=
  List.filterMap_append

/-- What was taken out under a number in two parts of a log is what was in the first part, then what
    was in the second. -/
@[simp] theorem firings_append : firings (log ++ more) id = firings log id ++ firings more id :=
  List.flatMap_append

/-- The callbacks of a number are counted part by part. -/
@[simp] theorem calls_append : calls (log ++ more) id = calls log id + calls more id :=
  List.countP_append

@[simp] theorem armedIds_armed (i : AlarmId) (a : Alarm α) : armedIds [.armed i a] = [i] := rfl
@[simp] theorem armedIds_cancelled (i : AlarmId) :
    armedIds ([.cancelled i] : List (QueueEvent α)) = [] := rfl
@[simp] theorem armedIds_taken (now : Moment) (batch : List (AlarmId × Alarm α)) :
    armedIds [.taken now batch] = [] := rfl
@[simp] theorem armedIds_called (i : AlarmId) :
    armedIds ([.called i] : List (QueueEvent α)) = [] := rfl

@[simp] theorem firings_armed (i : AlarmId) (a : Alarm α) : firings [.armed i a] id = [] := rfl
@[simp] theorem firings_cancelled (i : AlarmId) :
    firings ([.cancelled i] : List (QueueEvent α)) id = [] := rfl
@[simp] theorem firings_called (i : AlarmId) :
    firings ([.called i] : List (QueueEvent α)) id = [] := rfl

@[simp] theorem calls_armed (i : AlarmId) (a : Alarm α) : calls [.armed i a] id = 0 := rfl
@[simp] theorem calls_cancelled (i : AlarmId) :
    calls ([.cancelled i] : List (QueueEvent α)) id = 0 := rfl
@[simp] theorem calls_taken (now : Moment) (batch : List (AlarmId × Alarm α)) :
    calls [.taken now batch] id = 0 := rfl
@[simp] theorem calls_called (i : AlarmId) :
    calls ([.called i] : List (QueueEvent α)) id = if i = id then 1 else 0 := by
  simp [calls, List.countP_cons]

/-- A number is among `armedIds` if and only if the log records an alarm that was armed under it. -/
theorem mem_armedIds {log : List (QueueEvent α)} {id : AlarmId} :
    id ∈ armedIds log ↔ ∃ a, .armed id a ∈ log := by
  unfold armedIds
  rw [List.mem_filterMap]
  constructor
  · rintro ⟨e, he, hid⟩
    cases e with
    | armed i a =>
      obtain rfl := Option.some.inj hid
      exact ⟨a, he⟩
    | _ => cases hid
  · rintro ⟨a, ha⟩
    exact ⟨.armed id a, ha, rfl⟩

end

/-- An event in the middle of a log that is one longer is the new one, or it was there before. -/
theorem snoc_eq_append_cons_iff {β : Type} {log before after : List β} {e x : β} :
    log ++ [e] = before ++ x :: after ↔
      (after = [] ∧ log = before ∧ e = x) ∨
        ∃ rest, after = rest ++ [e] ∧ log = before ++ x :: rest := by
  constructor
  · intro h
    rcases List.eq_nil_or_concat after with rfl | ⟨rest, last, rfl⟩
    · obtain ⟨h₁, h₂⟩ := List.append_inj' h rfl
      exact .inl ⟨rfl, h₁, List.singleton_inj.1 h₂⟩
    · have h' : log ++ [e] = (before ++ x :: rest) ++ [last] := by simpa using h
      obtain ⟨h₁, h₂⟩ := List.append_inj' h' rfl
      exact .inr ⟨rest, by simp [List.singleton_inj.1 h₂], h₁⟩
  · rintro (⟨rfl, rfl, rfl⟩ | ⟨rest, rfl, rfl⟩)
    · rfl
    · simp

/-- A number that was `CancelledFirst` stays so, whatever is logged later. -/
theorem CancelledFirst.snoc {log : List (QueueEvent α)} {id : AlarmId}
    (h : CancelledFirst log id) (e : QueueEvent α) : CancelledFirst (log ++ [e]) id := by
  obtain ⟨before, after, rfl, harmed, hfirst⟩ := h
  exact ⟨before, after ++ [e], by simp, harmed, hfirst⟩

/-- The last event makes a number `CancelledFirst` only if it cancels this number, and that was
    given out and has not fired. -/
theorem cancelledFirst_snoc {log : List (QueueEvent α)} {e : QueueEvent α} {id : AlarmId}
    (h : CancelledFirst (log ++ [e]) id) :
    CancelledFirst log id ∨ (e = .cancelled id ∧ id ∈ armedIds log ∧ firings log id = []) := by
  obtain ⟨before, after, heq, harmed, hfirst⟩ := h
  rcases snoc_eq_append_cons_iff.1 heq with ⟨-, rfl, rfl⟩ | ⟨rest, -, hlog⟩
  · exact .inr ⟨rfl, harmed, hfirst⟩
  · exact .inl ⟨before, rest, hlog, harmed, hfirst⟩

/-! ### What a batch holds -/

/-- What the worker takes out at `now` holds at most the alarm pending under a number, if it is
    due. -/
theorem firings_due (q : AlarmQueue α) (now : Moment) (id : AlarmId) :
    firings [.taken now (q.due now)] id =
      ((q.pending.get? id).filter fun a => a.isDue now).toList.map fun a => (now, a) := by
  have hid : (q.due now).filter (fun p => p.1 = id) =
      (q.pending.entries.filter fun p => p.1 = id).filter fun p => p.2.isDue now := by
    unfold AlarmQueue.due
    rw [List.filter_filter, List.filter_filter]
    exact List.filter_congr fun p _ => Bool.and_comm _ _
  simp only [firings, List.flatMap_cons, List.flatMap_nil, List.append_nil, hid,
    Table.filter_entries]
  cases q.pending.get? id with
  | none => rfl
  | some a => cases hdue : a.isDue now <;> simp [Option.filter, hdue]

/-- If the alarm pending under a number is due, then it is what a batch taken at `now` holds under
    this number. -/
theorem firings_due_of_pending {q : AlarmQueue α} {now : Moment} {id : AlarmId} {a : Alarm α}
    (ha : q.pending.get? id = some a) (hdue : a.isDue now = true) :
    firings [.taken now (q.due now)] id = [(now, a)] := by
  rw [firings_due, ha]
  simp [hdue]

/-- If nothing that is due is pending under a number, then a batch taken at `now` holds nothing
    under it. -/
theorem firings_due_of_not {q : AlarmQueue α} {now : Moment} {id : AlarmId}
    (h : ∀ a, q.pending.get? id = some a → a.isDue now = false) :
    firings [.taken now (q.due now)] id = [] := by
  rw [firings_due]
  cases ha : q.pending.get? id with
  | none => rfl
  | some a => simp [h a ha]

/-- What `afterDue` leaves under a number: an alarm that was due goes on with `next?`, and any other
    one stays. -/
theorem get?_afterDue (z : Zone) (q : AlarmQueue α) (now : Moment) (id : AlarmId) :
    (q.afterDue z now).pending.get? id =
      (q.pending.get? id).bind fun a => if a.isDue now then a.next? z now else some a :=
  Table.get?_filterMap _ _ _

/-! ### The queue and its log -/

/-- An alarm goes on with what was armed under its number; a one-shot is what was armed. -/
def Continues (log : List (QueueEvent α)) (id : AlarmId) (a : Alarm α) : Prop :=
  ∃ b, .armed id b ∈ log ∧ a.action = b.action ∧ a.interval = b.interval ∧
    (b.interval = none → a = b)

/-- What an alarm goes on with stays in the log whatever happens next, so `Continues` is preserved
    by every event. -/
theorem Continues.snoc {log : List (QueueEvent α)} {id : AlarmId} {a : Alarm α}
    (h : Continues log id a) (e : QueueEvent α) : Continues (log ++ [e]) id a := by
  obtain ⟨b, hb, hrest⟩ := h
  exact ⟨b, List.mem_append_left _ hb, hrest⟩

/-- A number under which something `Continues` was given out. -/
theorem Continues.mem_armedIds {log : List (QueueEvent α)} {id : AlarmId} {a : Alarm α}
    (h : Continues log id a) : id ∈ armedIds log := by
  obtain ⟨b, hb, -⟩ := h
  exact QueueRun.mem_armedIds.2 ⟨b, hb⟩

/-- What the `next?` of an alarm is `Continues` the same alarm of the log. -/
theorem Continues.next {log : List (QueueEvent α)} {id : AlarmId} {a b : Alarm α} {z : Zone}
    {now : Moment} (h : Continues log id a) (hb : a.next? z now = some b) :
    Continues log id b := by
  obtain ⟨c, hc, haction, hinterval, hsame⟩ := h
  obtain ⟨hbi, hba, hne⟩ := Alarm.eq_of_next? hb
  refine ⟨c, hc, hba.trans haction, hbi.trans hinterval, fun hnone => ?_⟩
  -- a one-shot is followed by nothing
  exact absurd (hinterval.trans hnone) hne

/-- Where a one-shot alarm is: it waits, or it was taken out once, or it was cancelled first. -/
inductive Fate (r : QueueRun α) (id : AlarmId) (a : Alarm α) : Prop where
  | pending (here : r.queue.pending.get? id = some a) (unfired : firings r.log id = [])
      (kept : ¬ CancelledFirst r.log id)
  | taken (now : Moment) (gone : r.queue.pending.get? id = none)
      (fired : firings r.log id = [(now, a)]) (kept : ¬ CancelledFirst r.log id)
  | cancelled (gone : r.queue.pending.get? id = none) (unfired : firings r.log id = [])
      (first : CancelledFirst r.log id)

/-- A step carries the `Fate` of a number on if it neither takes it out nor cancels it, and leaves
    what is pending under it alone. -/
theorem Fate.carry {r r₁ : QueueRun α} {id : AlarmId} {a : Alarm α} (h : Fate r id a)
    {e : QueueEvent α} (hlog : r₁.log = r.log ++ [e])
    (hsame : r₁.queue.pending.get? id = r.queue.pending.get? id) (hquiet : firings [e] id = [])
    (hother : e ≠ .cancelled id) : Fate r₁ id a := by
  have hfirings : firings r₁.log id = firings r.log id := by simp [hlog, hquiet]
  have hkept : ¬ CancelledFirst r.log id → ¬ CancelledFirst r₁.log id := by
    intro hnot hnew
    rw [hlog] at hnew
    rcases cancelledFirst_snoc hnew with hold | ⟨heq, -⟩
    · exact hnot hold
    · exact hother heq
  cases h with
  | pending here unfired kept =>
    exact .pending (hsame.trans here) (hfirings.trans unfired) (hkept kept)
  | taken now gone fired kept =>
    exact .taken now (hsame.trans gone) (hfirings.trans fired) (hkept kept)
  | cancelled gone unfired first =>
    exact .cancelled (hsame.trans gone) (hfirings.trans unfired) (by rw [hlog]; exact first.snoc e)

/-- How the queue and the waiting callbacks hang together with what happened. -/
structure Recorded (r : QueueRun α) : Prop where
  numbers : armedIds r.log = List.range' 1 r.queue.lastId
  pending : ∀ id a, r.queue.pending.get? id = some a →
    Continues r.log id a ∧ ∀ n, a.interval = some n → 0 < n
  fired : ∀ id now a, (now, a) ∈ firings r.log id →
    a.trigger.nanos ≤ now.nanos ∧ Continues r.log id a
  halted : ∀ id before after, r.log = before ++ .cancelled id :: after → id ∈ armedIds before →
    r.queue.pending.get? id = none ∧ firings after id = []
  fate : ∀ id a, .armed id a ∈ r.log → a.interval = none → Fate r id a
  balance : ∀ id, calls r.log id + r.waiting.countP (fun p => p.1 = id) =
    (firings r.log id).length

/-- Before anything happened there is nothing to account for, so the empty run is `Recorded`. -/
theorem recorded_empty : Recorded ({} : QueueRun α) where
  numbers := rfl
  pending id a h := by cases h
  fired id now a h := by cases h
  halted id before after h := by simp at h
  fate id a h := by cases h
  balance id := rfl

namespace Recorded

variable {r : QueueRun α}

/-- The numbers that were given out are at most the last one, because they are handed out in order.
    -/
theorem le_lastId (h : Recorded r) {id : AlarmId} (hid : id ∈ armedIds r.log) :
    id ≤ r.queue.lastId := by
  rw [h.numbers, List.mem_range'_1, Nat.add_comm] at hid
  exact Nat.le_of_lt_succ hid.2

/-- In a run that is `Recorded`, a number that is not given out yet has not fired. -/
theorem firings_of_lt (h : Recorded r) {id : AlarmId} (hid : r.queue.lastId < id) :
    firings r.log id = [] := by
  rw [List.eq_nil_iff_forall_not_mem]
  rintro ⟨now, a⟩ hmem
  exact Nat.not_le_of_lt hid (h.le_lastId (h.fired id now a hmem).2.mem_armedIds)

/-- Arming keeps the run `Recorded`. The new number is one that no earlier event mentions, so the
    fates of the others stay. -/
theorem arm (h : Recorded r) (z : Zone) (trigger : Moment) (interval : Option Int) (action : α) :
    Recorded (r.step z (.arm trigger interval action)) where
  numbers := by
    show armedIds (r.log ++ [_]) = List.range' 1 (r.queue.lastId + 1)
    rw [armedIds_append, h.numbers, armedIds_armed, List.range'_1_concat, Nat.add_comm 1]
  pending := by
    apply Table.forall_insert
    · -- the new alarm is the one the log just noted
      refine ⟨⟨_, List.mem_append_right _ (List.mem_singleton_self _), rfl, rfl, fun _ => rfl⟩, ?_⟩
      intro n hn
      exact Alarm.requested_interval_pos hn
    · intro id a ha
      exact ⟨(h.pending id a ha).1.snoc _, (h.pending id a ha).2⟩
  fired id now a hmem := by
    have hold : (now, a) ∈ firings r.log id := by simpa [step] using hmem
    exact ⟨(h.fired id now a hold).1, (h.fired id now a hold).2.snoc _⟩
  halted id before after hlog harmed := by
    rcases snoc_eq_append_cons_iff.1 hlog with ⟨-, -, he⟩ | ⟨rest, rfl, hold⟩
    · cases he
    · -- the number that was cancelled is an old one, and the new alarm has another
      obtain ⟨hgone, hquiet⟩ := h.halted id before rest hold harmed
      have hle : id ≤ r.queue.lastId := h.le_lastId (by simp [hold, harmed])
      refine ⟨?_, by simp [hquiet]⟩
      show (r.queue.pending.insert _ _).get? id = none
      rw [Table.get?_insert_of_ne _ (Nat.ne_of_lt (Nat.lt_succ_of_le hle))]
      exact hgone
  fate id a ha hone := by
    rcases List.mem_append.1 ha with hold | hnew
    · have hle : id ≤ r.queue.lastId := h.le_lastId (mem_armedIds.2 ⟨a, hold⟩)
      have hne : id ≠ r.queue.lastId + 1 := Nat.ne_of_lt (Nat.lt_succ_of_le hle)
      exact (h.fate id a hold hone).carry rfl (Table.get?_insert_of_ne _ hne _) rfl nofun
    · -- nothing can have happened to a number before it was given out
      obtain ⟨rfl, rfl⟩ := QueueEvent.armed.inj (List.mem_singleton.1 hnew)
      have hunfired := h.firings_of_lt (Nat.lt_succ_self r.queue.lastId)
      refine .pending (Table.get?_insert_self _ _ _) (by simpa [step] using hunfired) ?_
      intro hfirst
      rcases cancelledFirst_snoc hfirst with ⟨before, after, hlog, harmed, -⟩ | ⟨he, -⟩
      · have hold : r.queue.lastId + 1 ∈ armedIds r.log := by simp [hlog, harmed]
        exact Nat.not_succ_le_self _ (h.le_lastId hold)
      · cases he
  balance id := by simpa [step] using h.balance id

/-- Cancelling keeps the run `Recorded`. A one-shot that still waited has the fate of one that was
    cancelled first, and any other fate was sealed before. -/
theorem cancel (h : Recorded r) (z : Zone) (id : AlarmId) :
    Recorded (r.step z (.cancel id)) where
  numbers := by simpa [step] using h.numbers
  pending := Table.forall_erase _ fun i a ha =>
    ⟨(h.pending i a ha).1.snoc _, (h.pending i a ha).2⟩
  fired i now a hmem := by
    have hold : (now, a) ∈ firings r.log i := by simpa [step] using hmem
    exact ⟨(h.fired i now a hold).1, (h.fired i now a hold).2.snoc _⟩
  halted i before after hlog harmed := by
    show (r.queue.pending.erase id).get? i = none ∧ _
    rw [Table.get?_erase]
    rcases snoc_eq_append_cons_iff.1 hlog with ⟨rfl, -, he⟩ | ⟨rest, rfl, hold⟩
    · -- the cancellation is the one just made
      rw [if_pos (QueueEvent.cancelled.inj he).symm]
      exact ⟨rfl, rfl⟩
    · obtain ⟨hgone, hquiet⟩ := h.halted i before rest hold harmed
      exact ⟨by rw [hgone, ite_self], by simp [hquiet]⟩
  fate i a ha hone := by
    have hold : .armed i a ∈ r.log := by simpa [step] using ha
    by_cases hi : i = id
    · subst hi
      have hgone : (r.queue.pending.erase i).get? i = none := Table.get?_erase_self _ _
      have hfirings : firings (r.log ++ [.cancelled i]) i = firings r.log i := by simp
      cases h.fate i a hold hone with
      | pending here unfired kept =>
        exact .cancelled hgone (hfirings.trans unfired)
          ⟨r.log, [], rfl, mem_armedIds.2 ⟨a, hold⟩, unfired⟩
      | taken now gone fired kept =>
        refine .taken now hgone (hfirings.trans fired) fun hfirst => ?_
        -- this cancellation comes too late to count
        rcases cancelledFirst_snoc hfirst with hsome | ⟨-, -, hnone⟩
        · exact kept hsome
        · rw [fired] at hnone
          cases hnone
      | cancelled gone unfired first =>
        exact .cancelled hgone (hfirings.trans unfired) (first.snoc _)
    · refine (h.fate i a hold hone).carry rfl (Table.get?_erase_of_ne _ hi) rfl ?_
      intro he
      exact hi (QueueEvent.cancelled.inj he).symm
  balance i := by simpa [step] using h.balance i

/-- Taking a batch keeps the run `Recorded`. What was due moves from pending to taken, and what
    repeats goes on under its own number. -/
theorem take (h : Recorded r) (z : Zone) (now : Moment) : Recorded (r.step z (.take now)) where
  numbers := by simpa [step, AlarmQueue.takeDue] using h.numbers
  pending id a ha := by
    change (r.queue.afterDue z now).pending.get? id = some a at ha
    rw [get?_afterDue] at ha
    -- what is pending afterwards was so before, with the same trigger or an earlier one
    obtain ⟨b, hb, hnext⟩ := Option.bind_eq_some_iff.1 ha
    obtain ⟨hcont, hpos⟩ := h.pending id b hb
    split at hnext
    · -- it repeats and moved on
      refine ⟨(hcont.next hnext).snoc _, ?_⟩
      rw [(Alarm.eq_of_next? hnext).1]
      exact hpos
    · obtain rfl := Option.some.inj hnext
      exact ⟨hcont.snoc _, hpos⟩
  fired id t a hmem := by
    change (t, a) ∈ firings (r.log ++ [.taken now (r.queue.due now)]) id at hmem
    rw [firings_append, List.mem_append, firings_due] at hmem
    rcases hmem with hold | hnew
    · exact ⟨(h.fired id t a hold).1, (h.fired id t a hold).2.snoc _⟩
    · -- it was taken out now, so it was pending and due
      obtain ⟨b, hb, heq⟩ := List.mem_map.1 hnew
      obtain ⟨rfl, rfl⟩ := Prod.mk.inj heq
      obtain ⟨hpending, hdue⟩ := Option.filter_eq_some_iff.1 (Option.mem_toList.1 hb)
      exact ⟨of_decide_eq_true hdue, (h.pending id b hpending).1.snoc _⟩
  halted id before after hlog harmed := by
    rcases snoc_eq_append_cons_iff.1 hlog with ⟨-, -, he⟩ | ⟨rest, rfl, hold⟩
    · cases he
    · obtain ⟨hgone, hquiet⟩ := h.halted id before rest hold harmed
      refine ⟨?_, ?_⟩
      · show (r.queue.afterDue z now).pending.get? id = none
        rw [get?_afterDue, hgone]
        rfl
      · rw [firings_append, hquiet]
        exact firings_due_of_not fun a ha => by rw [hgone] at ha; cases ha
  fate id a ha hone := by
    have hold : .armed id a ∈ r.log := by simpa [step] using ha
    have hafter : ((r.step z (.take now)).queue.pending.get? id) = _ :=
      get?_afterDue z r.queue now id
    have hlog : (r.step z (.take now)).log = r.log ++ [.taken now (r.queue.due now)] := rfl
    cases h.fate id a hold hone with
    | pending here unfired kept =>
      -- an alarm that does not repeat stays pending exactly if it is not due
      by_cases hdue : a.isDue now = true
      · refine .taken now ?_ ?_ ?_
        · rw [hafter, here]
          simp [hdue, Alarm.next?, hone]
        · rw [hlog, firings_append, unfired, firings_due_of_pending here hdue]
          rfl
        · intro hfirst
          rcases cancelledFirst_snoc hfirst with hsome | ⟨he, -⟩
          · exact kept hsome
          · cases he
      · refine (Fate.pending here unfired kept).carry hlog ?_ ?_ nofun
        · rw [hafter, here]
          simp [hdue]
        · refine firings_due_of_not fun b hb => ?_
          rw [← Option.some.inj (here.symm.trans hb)]
          simpa using hdue
    | taken t gone fired kept =>
      refine (Fate.taken t gone fired kept).carry hlog (by rw [hafter, gone]; rfl) ?_ nofun
      exact firings_due_of_not fun b hb => by rw [gone] at hb; cases hb
    | cancelled gone unfired first =>
      refine (Fate.cancelled gone unfired first).carry hlog (by rw [hafter, gone]; rfl) ?_ nofun
      exact firings_due_of_not fun b hb => by rw [gone] at hb; cases hb
  balance id := by
    -- what is taken out waits for its callback, once per number in the batch
    have hbatch : (firings [.taken now (r.queue.due now)] id).length =
        (r.queue.due now).countP fun p => p.1 = id := by
      simp [firings, List.countP_eq_length_filter]
    have hold := h.balance id
    show calls (r.log ++ [.taken now (r.queue.due now)]) id +
      (r.waiting ++ r.queue.due now).countP (fun p => p.1 = id) =
        (firings (r.log ++ [.taken now (r.queue.due now)]) id).length
    rw [calls_append, calls_taken, List.countP_append, firings_append, List.length_append, hbatch]
    omega

/-- Running a callback keeps the run `Recorded`: it is one that waited, so as many callbacks are
    accounted for as before. -/
theorem call (h : Recorded r) (z : Zone) (place : Nat) : Recorded (r.step z (.call place)) := by
  cases hp : r.waiting[place]? with
  | none =>
    have hsame : r.step z (.call place) = r := by simp [step, hp]
    rw [hsame]
    exact h
  | some p =>
    have hstep : r.step z (.call place) =
        { r with waiting := r.waiting.eraseIdx place, log := r.log ++ [.called p.1] } := by
      simp [step, hp]
    rw [hstep]
    exact {
      numbers := by simpa using h.numbers
      pending := fun id a ha => ⟨(h.pending id a ha).1.snoc _, (h.pending id a ha).2⟩
      fired := fun id now a hmem => by
        have hold : (now, a) ∈ firings r.log id := by simpa using hmem
        exact ⟨(h.fired id now a hold).1, (h.fired id now a hold).2.snoc _⟩
      halted := fun id before after hlog harmed => by
        rcases snoc_eq_append_cons_iff.1 hlog with ⟨-, -, he⟩ | ⟨rest, rfl, hold⟩
        · cases he
        · obtain ⟨hgone, hquiet⟩ := h.halted id before rest hold harmed
          exact ⟨hgone, by simp [hquiet]⟩
      fate := fun id a ha hone => by
        have hold : .armed id a ∈ r.log := by simpa using ha
        exact (h.fate id a hold hone).carry rfl rfl rfl nofun
      balance := fun id => by
        -- the callback that runs is one that waited
        obtain ⟨hlt, rfl⟩ := List.getElem?_eq_some_iff.1 hp
        have hperm := (List.getElem_cons_eraseIdx_perm hlt).countP_eq fun p => p.1 = id
        have hold := h.balance id
        rw [List.countP_cons] at hperm
        simp only [decide_eq_true_eq] at hperm
        simp only [calls_append, calls_called, firings_append, firings_called, List.append_nil]
        omega }

/-- Each step keeps a run `Recorded`. The cases are those of the steps. -/
theorem step (h : Recorded r) (z : Zone) (s : QueueStep α) : Recorded (r.step z s) := by
  cases s with
  | arm trigger interval action => exact h.arm z trigger interval action
  | cancel id => exact h.cancel z id
  | take now => exact h.take z now
  | call place => exact h.call z place

end Recorded

/-- Every run of the queue from the empty one is `Recorded`, by induction over its steps. -/
theorem recorded_run (z : Zone) (ss : List (QueueStep α)) : Recorded (run z ss) := by
  induction ss using List.reverseRecOn with
  | nil => exact recorded_empty
  | append_singleton ss s ih =>
    rw [run_snoc]
    exact ih.step z s

end QueueRun

end Twilight
