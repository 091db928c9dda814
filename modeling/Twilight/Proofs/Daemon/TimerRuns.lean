import Twilight.Proofs.Daemon.Ledger
import Twilight.Proofs.Daemon.Reports

namespace Twilight

/-!
# Runs of operations on timers

* `TimerOperation` — what can be asked of the timers, and what happens to alarms in between.
* `runTimers` — any number of operations in order.
* `Daemon.Untimed` — where runs start: there are no records, and nothing is pending.
* `AskedFor` — what alarms may do for a user, by the operations of a run.
* `runTimers_ledger`, `rejected_of_run` — after every run the ledger is kept, and every failure to
  cancel was reported by the operation that met it.
-/

open Time

/-- What can be asked of the timers, and what happens to the alarms in between. -/
inductive TimerOperation where
  | schedule (user : UserId) (window : Window) (actions : Pair AlarmAction)
  | clear (user : UserId)
  | clearAll
  | restart (user : UserId)
  | restartAll
  | setClock (nanos : Int)
  /-- Due alarms are taken off the queue to fire. -/
  | takeDue
  /-- Pending alarms get lost. -/
  | lose (gone : AlarmId → Bool)

/-- Perform an operation; the fault that it reports. -/
def TimerOperation.perform (h : Hooks) : TimerOperation → Act (Option Fault)
  | .schedule user window actions => do pure (faultOf? (← Daemon.schedule h user window actions))
  | .clear user => do pure (faultOf? (← Daemon.clearTimers h user))
  | .clearAll => do pure (faultOf? (← Daemon.clearAllTimers h))
  | .restart user => do pure (faultOf? (← Daemon.restart h user))
  | .restartAll => do pure (faultOf? (← Daemon.restartAll h))
  | .setClock nanos => do
    modify fun d => { d with clock := .ofNanos d.zone nanos }
    pure none
  | .takeDue => do
    modify fun d => { d with alarms := (d.alarms.takeDue d.zone d.clock).2 }
    pure none
  | .lose gone => do
    modify fun d => { d with alarms := d.alarms.losing gone }
    pure none

/-- Perform operations in order. -/
def runTimers (h : Hooks) : List TimerOperation → Act Unit
  | [] => pure ()
  | op :: rest => do
    let _ ← op.perform h
    runTimers h rest

/-- A run of timer operations by `runTimers` may be cut in two anywhere. -/
theorem runTimers_append (h : Hooks) (ops more : List TimerOperation) (d : Daemon) :
    ((runTimers h (ops ++ more)).on d).2 =
      ((runTimers h more).on ((runTimers h ops).on d).2).2 := by
  induction ops generalizing d with
  | nil => rfl
  | cons op rest ih => exact ih _

/-- There are no records, nothing is pending, and no call to cancel failed so far. -/
structure Daemon.Untimed (d : Daemon) : Prop where
  timers : d.timers = {}
  pending : ∀ i, d.pending? i = none
  rejected : d.alarms.rejected = []

/-- A run asks for alarms that do `action` on behalf of a user. -/
def AskedFor (ops : List TimerOperation) (user : UserId) (action : AlarmAction) : Prop :=
  ∃ window actions, .schedule user window actions ∈ ops ∧ action ∈ actions.toList

/-! ### The ledger -/

open Daemon

variable {rightful : UserId → AlarmAction → Prop} {loose : List (AlarmId × UserId)}
variable {d : Daemon} {h : Hooks}

/-- An `Untimed` daemon has an empty `Ledger`, with nothing filed and nothing loose. -/
theorem Daemon.Untimed.ledger (hd : d.Untimed) (rightful : UserId → AlarmAction → Prop) :
    Ledger rightful [] d := by
  refine ⟨?_, ?_, fun i a hi => ?_, fun user r hr => ?_⟩
  · rw [hd.timers]
    exact List.nodup_nil
  · rw [hd.timers]
    exact fun p hp => absurd hp List.not_mem_nil
  · rw [show d.alarms.queue.pending.get? i = none from hd.pending i] at hi
    contradiction
  · rw [hd.timers] at hr
    contradiction

/-- Every operation on the timers keeps the `Ledger`. The cases are those of `TimerOperation`. -/
theorem TimerOperation.perform_ledger (hh : h.Ledgered rightful) (op : TimerOperation)
    (hop : ∀ user window actions, op = .schedule user window actions →
      RightlyFor rightful user actions)
    (hd : Ledger rightful loose d) : Ledger rightful loose ((op.perform h).on d).2 := by
  cases op with
  | schedule user window actions =>
    exact schedule_ledger hh (hop user window actions rfl) window hd
  | clear user => exact clearTimers_ledger hh user hd
  | clearAll => exact clearAllTimers_ledger hh hd
  | restart user => exact restart_ledger hh user hd
  | restartAll => exact restartAll_ledger hh hd
  | setClock nanos => exact hd.congr rfl rfl
  | takeDue => exact hd.of_pending rfl rfl rfl fun _ _ => AlarmService.action_of_pending?_takeDue
  | lose gone =>
    refine hd.of_pending rfl rfl rfl fun i a hi => ?_
    exact ⟨a, AlarmService.pending?_of_losing hi, rfl⟩

/-- Every run of `runTimers` keeps the `Ledger`. By induction on the operations. -/
theorem runTimers_ledger (hh : h.Ledgered rightful) (ops : List TimerOperation)
    (hops : ∀ user window actions, .schedule user window actions ∈ ops →
      RightlyFor rightful user actions)
    (hd : Ledger rightful loose d) : Ledger rightful loose ((runTimers h ops).on d).2 := by
  induction ops generalizing d with
  | nil => exact hd
  | cons op rest ih =>
    have hfirst : Ledger rightful loose ((op.perform h).on d).2 := by
      refine op.perform_ledger hh (fun user window actions heq => ?_) hd
      exact hops user window actions (heq ▸ List.mem_cons_self)
    exact ih (fun user window actions hmem =>
      hops user window actions (List.mem_cons_of_mem _ hmem)) hfirst

/-- In a run, every pending alarm is held for a user on whose behalf it was asked for. -/
theorem Daemon.Untimed.ledger_of_run (hd : d.Untimed) (ops : List TimerOperation) :
    Ledger (AskedFor ops) [] ((runTimers .quiet ops).on d).2 := by
  refine runTimers_ledger (Hooks.quiet_ledgered _) ops (fun user window actions hmem => ?_)
    (hd.ledger _)
  exact ⟨⟨window, actions, hmem, List.mem_cons_self⟩,
    ⟨window, actions, hmem, List.mem_cons_of_mem _ List.mem_cons_self⟩⟩

/-! ### Failed calls to cancel -/

/-- An operation on the timers reports a fault if a call to cancel failed in it. -/
theorem TimerOperation.perform_reports (op : TimerOperation) (d : Daemon) :
    Reports (((op.perform .quiet).on d).1 = none) d ((op.perform .quiet).on d).2 := by
  cases op with
  | schedule user window actions => exact schedule_reports user window actions d
  | clear user => exact clearTimers_reports user d
  | clearAll => exact clearAllTimers_reports d
  | restart user => exact restart_reports user d
  | restartAll => exact restartAll_reports d
  | setClock nanos => exact .of_same rfl rfl
  | takeDue => exact .of_same rfl rfl
  | lose gone => exact .of_same rfl rfl

/-- A call to cancel the alarm fails in an operation, which reports a fault. -/
def TimerOperation.FailsToCancel (op : TimerOperation) (d : Daemon) (i : AlarmId) : Prop :=
  ∃ f more, ((op.perform .quiet).on d).1 = some f ∧
    ((op.perform .quiet).on d).2.alarms.rejected = d.alarms.rejected ++ more ∧ i ∈ more

/-- So it is with one of the operations of a run. -/
def CancelReported (ops : List TimerOperation) (d : Daemon) (i : AlarmId) : Prop :=
  ∃ before op after, ops = before ++ op :: after ∧
    op.FailsToCancel ((runTimers .quiet before).on d).2 i

/-- What is on record after a run was on record before it, or was reported in its course. -/
theorem rejected_of_run (ops : List TimerOperation) (d : Daemon) {i : AlarmId}
    (hi : i ∈ ((runTimers .quiet ops).on d).2.alarms.rejected) :
    i ∈ d.alarms.rejected ∨ CancelReported ops d i := by
  induction ops generalizing d with
  | nil => exact .inl hi
  | cons op rest ih =>
    rcases ih ((op.perform .quiet).on d).2 hi with hfirst | ⟨before, later, after, rfl, hlater⟩
    · obtain ⟨more, hmore, hquiet⟩ := (op.perform_reports d).rejected
      rw [hmore] at hfirst
      refine (List.mem_append.1 hfirst).imp_right fun hmem => ?_
      refine ⟨[], op, rest, rfl, ?_⟩
      cases hf : ((op.perform .quiet).on d).1 with
      | some f => exact ⟨f, more, hf, hmore, hmem⟩
      | none =>
        -- an operation that answers success met no failure
        rw [hquiet (.inl hf)] at hmem
        contradiction
    · exact .inr ⟨op :: before, later, after, rfl, hlater⟩

end Twilight
