import Twilight.Proofs.Daemon.Timers

namespace Twilight

/-!
# Work on timers, whatever fails

Whichever calls on the alarm service fail, work on timers touches nothing but the timers, the alarms
and the journal. So much needs no assumption on the failures.

* `Act.Reschedules` — actions of that kind.
* `Daemon.reschedules_schedule`, `Daemon.reschedules_clearTimers`, `Daemon.reschedules_restartAll` —
  the operations on timers are.
* `Daemon.reschedules_resolve` — so is resolving a state.
-/

namespace Act

open Daemon

variable {α β : Type}

/-- The action changes nothing but the timers, the alarms and the journal. -/
def Reschedules (act : Act α) : Prop := ∀ d, Rescheduled d (act.on d).2

/-- An action that `Logs` only is one that `Reschedules`. -/
theorem Logs.reschedules {act : Act α} (h : act.Logs) : act.Reschedules :=
  fun d => (h d).rescheduled

/-- An action that only answers reschedules, having changed nothing. -/
theorem reschedules_pure (a : α) : Reschedules (pure a) := (logs_pure a).reschedules

/-- Two actions in a row reschedule if both do, whatever the first one answers. -/
theorem Reschedules.bind {x : Act α} {f : α → Act β} (hx : x.Reschedules)
    (hf : ∀ a, (f a).Reschedules) : Reschedules (x >>= f) := fun d => (hx d).trans (hf _ _)

end Act

namespace Daemon

variable {lossy : Prop} {h : Hooks} {d d₁ d₂ : Daemon}

/-- Alarms that get lost are a case of `Rescheduled`. -/
theorem Lost.rescheduled (hd : Lost lossy d d₁) : Rescheduled d d₁ := by
  obtain ⟨p, rfl, _⟩ := hd
  exact ⟨_, _, _, rfl⟩

section

variable (hl : h.Losing lossy)
include hl

/-- Calls to arm change timers, alarms and lines only, with what is lost before them. -/
theorem reschedules_arm (a : Alarm AlarmAction) : (arm h a).Reschedules := by
  have hbefore : h.beforeArm.Reschedules := fun d => (hl.beforeArm d).rescheduled
  exact hbefore.bind fun _ _ => ⟨_, _, _, rfl⟩

/-- A call to `cancel` changes alarms and events only. -/
theorem reschedules_cancel (id : AlarmId) : (cancel h id).Reschedules := by
  have hbefore : h.beforeCancel.Reschedules := fun d => (hl.beforeCancel d).rescheduled
  exact hbefore.bind fun _ _ => ⟨_, _, _, rfl⟩

/-- So does `discard`, which logs a warning if the call failed. -/
theorem reschedules_discard (id : AlarmId) : (discard h id).Reschedules := by
  refine (reschedules_cancel hl id).bind fun result => ?_
  cases result with
  | ok _ => exact Act.reschedules_pure none
  | error f => exact ((Act.logs_warn _).bind fun _ => Act.logs_pure _).reschedules

/-- `discardAll` changes alarms and events only. By induction on the numbers. -/
theorem reschedules_discardAll (ids : List AlarmId) : (discardAll h ids).Reschedules := by
  induction ids with
  | nil => exact Act.reschedules_pure none
  | cons id ids ih =>
    exact (reschedules_discard hl id).bind fun _ => ih.bind fun _ => Act.reschedules_pure _

/-- `armPair` changes alarms and events only. -/
theorem reschedules_armPair (triggers : Pair Time.Moment) (actions : Pair AlarmAction) :
    (armPair h triggers actions).Reschedules :=
  (reschedules_arm hl _).bind fun _ => (reschedules_arm hl _).bind fun _ =>
    Act.reschedules_pure _

/-- `replaceRecord` changes timers, alarms and lines only. -/
theorem reschedules_replaceRecord (user : UserId) (window : Window) (actions : Pair AlarmAction)
    (triggers : Pair Time.Moment) :
    (replaceRecord h user window actions triggers).Reschedules := by
  have htake : (takeRecord user).Reschedules := fun _ => ⟨_, _, _, rfl⟩
  have hput : ∀ record, (putRecord user record).Reschedules := fun _ _ => ⟨_, _, _, rfl⟩
  refine htake.bind fun old => (reschedules_discardAll hl _).bind fun onOld => ?_
  refine (reschedules_armPair hl triggers actions).bind fun armed => ?_
  refine (hput _).bind fun displaced => (reschedules_discardAll hl _).bind fun _ => ?_
  exact Act.reschedules_pure _

/-- `schedule` changes timers, alarms and lines only, whether it is refused or carried out. -/
theorem reschedules_schedule (user : UserId) (window : Window) (actions : Pair AlarmAction) :
    (schedule h user window actions).Reschedules := by
  have harm : (armRecord h user window actions).Reschedules := by
    intro d
    cases ho : window.occurrences d.zone d.clock with
    | error f =>
      rw [armRecord_of_error ho]
      exact .refl d
    | ok triggers =>
      rw [armRecord_of_ok ho]
      exact reschedules_replaceRecord hl user window actions triggers d
  unfold schedule
  by_cases hv : window.valid = true
  · rw [if_pos hv]
    refine harm.bind fun result => ?_
    cases result with
    | ok _ => exact ((Act.logs_debug _).bind fun _ => Act.logs_pure _).reschedules
    | error f => exact ((Act.logs_warn _).bind fun _ => Act.logs_pure _).reschedules
  · rw [if_neg hv]
    exact Act.reschedules_pure _

/-- `clearTimers` changes timers, alarms and lines only. -/
theorem reschedules_clearTimers (user : UserId) : (clearTimers h user).Reschedules := by
  have htake : (takeRecord user).Reschedules := fun _ => ⟨_, _, _, rfl⟩
  refine htake.bind fun record? => ?_
  cases record? with
  | none => exact Act.reschedules_pure _
  | some record =>
    refine (reschedules_discardAll hl record.ids).bind fun _ => ?_
    exact ((Act.logs_debug _).bind fun _ => Act.logs_pure _).reschedules

/-- `dropTimers` changes timers, alarms and lines only; its fault is only logged. -/
theorem reschedules_dropTimers (user : UserId) : (dropTimers h user).Reschedules := by
  refine (reschedules_clearTimers hl user).bind fun result => ?_
  cases result with
  | ok _ => exact Act.reschedules_pure _
  | error f => exact (Act.logs_warn _).reschedules

/-- So does scheduling a request. -/
theorem reschedules_scheduleRequest (request : ScheduleRequest) :
    (scheduleRequest h request).Reschedules := reschedules_schedule hl _ _ _

/-- `resolve` changes timers, alarms and lines only, whatever the mode of the state is. -/
theorem reschedules_resolve (user : UserId) (state : DarkModeState) :
    (resolve h user state).Reschedules := by
  have hdrop := reschedules_dropTimers hl user
  have hinside : ∀ outcome, (do pure (.status (← isInside state.window) outcome) :
      Act Resolution).Reschedules := fun outcome d => .refl d
  unfold resolve
  -- only a window with sensible bounds is scheduled; the other modes drop the timers
  cases state.mode with
  | alwaysLight => exact hdrop.bind fun _ => Act.reschedules_pure _
  | alwaysDark => exact hdrop.bind fun _ => Act.reschedules_pure _
  | customWindow =>
    by_cases hv : state.window.valid = true
    · simp only [if_pos hv]
      refine (reschedules_scheduleRequest hl _).bind fun outcome => ?_
      cases outcome with
      | ok _ => exact hinside _
      | error f => exact (Act.logs_warn _).reschedules.bind fun _ => hinside _
    · simp only [if_neg hv]
      exact hdrop.bind fun _ => Act.reschedules_pure _
  | invalid => exact ((Act.logs_debug _).bind fun _ => Act.logs_pure _).reschedules

/-- `refreshRecord` changes timers, alarms and lines only, whichever pair stays. -/
theorem reschedules_refreshRecord (user : UserId) (record : TimerRecord)
    (triggers : Pair Time.Moment) : (refreshRecord h user record triggers).Reschedules := by
  have hswap : ∀ fresh, (swapPair user record.alarms fresh).Reschedules := by
    intro fresh d
    unfold swapPair
    rw [Act.on_modifyGet]
    split
    · split
      · exact ⟨_, _, _, rfl⟩
      · exact .refl d
    · exact .refl d
  refine (reschedules_armPair hl triggers record.actions).bind fun armed => ?_
  refine (hswap _).bind fun replaced => ?_
  -- what is left over is cancelled, whether or not the new pair was swapped in
  have hrest : (do
      let onCancel ← discardAll h (pairIds (replaced.getD armed.1))
      pure (settle (armed.2 <|> onCancel)) : Act (Except Fault Unit)).Reschedules :=
    (reschedules_discardAll hl _).bind fun _ => Act.reschedules_pure _
  cases replaced with
  | none => exact (Act.logs_debug _).reschedules.bind fun _ => hrest
  | some _ => exact hrest

/-- `rearmAll` changes timers, alarms and lines only. By induction on the records. -/
theorem reschedules_rearmAll (records : List (UserId × TimerRecord)) :
    (rearmAll h records).Reschedules := by
  induction records with
  | nil => exact Act.reschedules_pure none
  | cons p rest ih =>
    obtain ⟨user, record⟩ := p
    have hrearm : (rearm h user record).Reschedules := by
      intro d
      cases ho : record.window.occurrences d.zone d.clock with
      | error f =>
        rw [rearm_of_error ho]
        exact .refl d
      | ok triggers =>
        rw [rearm_of_ok ho]
        exact reschedules_refreshRecord hl user record triggers d
    refine hrearm.bind fun result => ?_
    cases result with
    | ok _ => exact ih.bind fun _ => Act.reschedules_pure _
    | error f =>
      exact (Act.logs_warn _).reschedules.bind fun _ => ih.bind fun _ => Act.reschedules_pure _

/-- So does `restartAll`. -/
theorem reschedules_restartAll : (restartAll h).Reschedules := by
  intro d
  rw [restartAll_snd]
  exact reschedules_rearmAll hl _ d

end

end Daemon

end Twilight
