import Mathlib.Data.List.Perm.Subperm
import Twilight.Proofs.Daemon.TimerRuns

namespace Twilight

/-!
# No orphan and no shared alarm

Whatever is asked of the timers, and whichever calls on the alarm service fail: every pending alarm
sits in exactly one slot of one record, or a call to cancel it failed and the operation that made
the call reported a fault.

* `Daemon.PendsFor` — an alarm waits for one user and for nobody else.
* `Daemon.Housed` — where the pending alarms are after a run.
* `Daemon.housed_of_run` — so it is after every run.
-/

open Time

namespace Daemon

variable {d : Daemon} {user : UserId}

/-! ### Pending alarms of a user -/

/-- An alarm is pending that nobody but the user asked for. -/
def PendsFor (ops : List TimerOperation) (d : Daemon) (user : UserId) (i : AlarmId) : Prop :=
  ∃ a, d.pending? i = some a ∧ ∀ other, AskedFor ops other a.action → other = user

/-- Where the alarms are after a run from `d` to `d₁`. -/
structure Housed (ops : List TimerOperation) (d d₁ : Daemon) : Prop where
  /-- A pending alarm sits in one slot, of a user who asked for it, unless it could not be cancelled
      and that was reported. -/
  slots : ∀ i a, d₁.pending? i = some a →
    (d₁.InOneSlot i ∧
      ∃ user boundary, d₁.slot? user boundary = some i ∧ AskedFor ops user a.action) ∨
    CancelReported ops d i
  /-- If no call to cancel failed, two alarms at most are pending for a user. -/
  limit : d₁.alarms.rejected = [] → ∀ user (ids : List AlarmId), ids.Nodup →
    (∀ i ∈ ids, PendsFor ops d₁ user i) → ids.length ≤ 2
  /-- None is, right after the user's timers were cleared. -/
  cleared : d₁.alarms.rejected = [] → ∀ before user, ops = before ++ [.clear user] →
    ∀ i, ¬ PendsFor ops d₁ user i

/-- The `recordIds` of a record are two at most. -/
theorem length_recordIds_le (record? : Option TimerRecord) : (recordIds record?).length ≤ 2 := by
  cases record? with
  | none => exact Nat.zero_le 2
  | some r => exact List.length_filterMap_le id r.alarms.toList

/-- If no call to cancel failed, an alarm pending for a user is named by the user's record. -/
theorem PendsFor.mem_recordIds {ops : List TimerOperation} {i : AlarmId}
    (hi : PendsFor ops d user i) (hd : Ledger (AskedFor ops) [] d)
    (hrej : d.alarms.rejected = []) : i ∈ recordIds (d.timers.get? user) := by
  obtain ⟨a, ha, honly⟩ := hi
  obtain ⟨other, hfiled, hasked⟩ := hd.filed_of_pending ha (by simp [hrej])
  obtain rfl := honly other hasked
  obtain ⟨r, hr, hids⟩ := mem_filed.1 hfiled
  rw [hr]
  exact hids

/-! ### Clearing -/

/-- Cancelling alarms by `discardAll` leaves the records as they are. -/
theorem discardAll_timers (ids : List AlarmId) (d : Daemon) :
    ((discardAll .quiet ids).on d).2.timers = d.timers := by
  induction ids generalizing d with
  | nil => rfl
  | cons id ids ih =>
    have hfirst : ((discard .quiet id).on d).2.timers = d.timers := by
      unfold discard
      simp only [Act.on_bind]
      cases ((cancel .quiet id).on d).1 <;> rfl
    exact (ih _).trans hfirst

/-- `clearTimers` takes the record out even if its alarms cannot be cancelled. -/
theorem clearTimers_timers (user : UserId) (d : Daemon) :
    ((clearTimers .quiet user).on d).2.timers = d.timers.erase user := by
  unfold clearTimers takeRecord
  simp only [Act.on_bind, Act.on_modifyGet]
  cases d.timers.get? user with
  | none => rfl
  | some record => exact discardAll_timers record.ids _

/-! ### After every run -/

/-- **No orphan and no shared alarm.** Timers are set, cleared and restarted in any order, while any
    calls on the alarm service fail and alarms fire or get lost in between. Then every pending alarm
    sits in exactly one slot, unless a failure to cancel it was reported. Without such failures no
    more than two alarms are pending for a user, and none after clearing. -/
theorem housed_of_run (hd : d.Untimed) (ops : List TimerOperation) :
    Housed ops d ((runTimers .quiet ops).on d).2 := by
  have hledger := hd.ledger_of_run ops
  refine ⟨fun i a hi => ?_, fun hrej user ids hnodup hids => ?_,
    fun hrej before user hops i hi => ?_⟩
  · by_cases hmem : i ∈ ((runTimers .quiet ops).on d).2.alarms.rejected
    · refine .inr ((rejected_of_run ops d hmem).resolve_left ?_)
      rw [hd.rejected]
      exact List.not_mem_nil
    · obtain ⟨user, hfiled, hasked⟩ := hledger.filed_of_pending hi hmem
      obtain ⟨boundary, hslot⟩ := mem_filed_iff.1 hfiled
      exact .inl ⟨hledger.inOneSlot hfiled, user, boundary, hslot, hasked⟩
  · have hsub : ids ⊆ recordIds (((runTimers .quiet ops).on d).2.timers.get? user) :=
      fun i hi => (hids i hi).mem_recordIds hledger hrej
    exact Nat.le_trans (List.Nodup.subperm hnodup hsub).length_le (length_recordIds_le _)
  · have hrecord := hi.mem_recordIds hledger hrej
    subst hops
    -- the last operation left the user without a record
    rw [runTimers_append] at hrecord
    have htimers := clearTimers_timers user ((runTimers .quiet before).on d).2
    change i ∈ recordIds (((clearTimers .quiet user).on
      ((runTimers .quiet before).on d).2).2.timers.get? user) at hrecord
    rw [htimers, Table.get?_erase_self] at hrecord
    contradiction

/-- A daemon whose first call to cancel an alarm fails. -/
def refusingOnce : Daemon :=
  { (default : Daemon) with alarms := { cancelFails := fun call => call == 0 } }

/-- A user's window is set to the time from 20:00 to 06:00, and cleared. -/
def setAndCleared : List TimerOperation :=
  [.schedule 100 ⟨1200, 360⟩ ⟨.script "night" .start [], .script "night" .finish []⟩, .clear 100]

/-- The alarm that could not be cancelled stays pending though there is no record; the other one is
    gone. -/
theorem housed_of_failed_cancel :
    Housed setAndCleared refusingOnce ((runTimers .quiet setAndCleared).on refusingOnce).2 ∧
      (((runTimers .quiet setAndCleared).on refusingOnce).2.pending? 1).isSome ∧
      (((runTimers .quiet setAndCleared).on refusingOnce).2.pending? 2).isNone ∧
      ((runTimers .quiet setAndCleared).on refusingOnce).2.timers.entries.isEmpty := by
  have hd : refusingOnce.Untimed := ⟨rfl, fun _ => rfl, rfl⟩
  refine ⟨housed_of_run hd setAndCleared, ?_, ?_, ?_⟩
  · decide +kernel
  · decide +kernel
  · decide +kernel

end Daemon

end Twilight
