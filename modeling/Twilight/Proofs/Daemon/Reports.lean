import Mathlib.Data.Option.Basic
import Twilight.Proofs.Daemon.Alarms

namespace Twilight

/-!
# Failed cancelling is reported

* `Daemon.Reports` — what became of the calls to cancel that failed: they are on record, and an
  operation that made one does not answer success.
* `Daemon.schedule_reports`, `Daemon.clearTimers_reports`, `Daemon.clearAllTimers_reports`,
  `Daemon.restart_reports` — so it is with the operations on timers.
-/

open Time

namespace Daemon

variable {d d₁ d₂ : Daemon}

/-- Failed calls to cancel are added to those on record, and there are none if the operation is
    `quiet` about them, nor if no call to cancel ever fails. -/
structure Reports (quiet : Prop) (d d₁ : Daemon) : Prop where
  plan : d₁.alarms.cancelFails = d.alarms.cancelFails
  rejected : ∃ more, d₁.alarms.rejected = d.alarms.rejected ++ more ∧
    (quiet ∨ d.alarms.Cancels → more = [])

namespace Reports

variable {quiet quiet₁ : Prop}

/-- Where the plan and the record of failed calls are as before, nothing had to be reported. -/
theorem of_same (hp : d₁.alarms.cancelFails = d.alarms.cancelFails)
    (hr : d₁.alarms.rejected = d.alarms.rejected) : Reports quiet d d₁ :=
  ⟨hp, [], by rw [hr, List.append_nil], fun _ => rfl⟩

theorem refl (d : Daemon) : Reports quiet d d := of_same rfl rfl

/-- Lines that are `Logged` make no call to cancel, so there is nothing that `Reports` would have to
    account for. -/
theorem of_logged (hj : Logged d d₁) : Reports True d d₁ := by
  obtain ⟨j, rfl⟩ := hj
  exact of_same rfl rfl

/-- An operation in two parts is `quiet` about failed calls if both parts are. -/
theorem trans (h₁ : Reports quiet d d₁) (h₂ : Reports quiet₁ d₁ d₂) :
    Reports (quiet ∧ quiet₁) d d₂ := by
  obtain ⟨hp₁, more₁, hr₁, hq₁⟩ := h₁
  obtain ⟨hp₂, more₂, hr₂, hq₂⟩ := h₂
  refine ⟨hp₂.trans hp₁, more₁ ++ more₂, by rw [hr₂, hr₁, List.append_assoc], fun hq => ?_⟩
  have hcancels : d.alarms.Cancels → d₁.alarms.Cancels := fun hc call => by
    rw [hp₁]
    exact hc call
  rw [hq₁ (hq.imp_left And.left), hq₂ (hq.imp And.right hcancels)]
  rfl

/-- `Reports` that are quiet in some case are so in every narrower one. -/
theorem mono (hd : Reports quiet d d₁) (himp : quiet₁ → quiet) : Reports quiet₁ d d₁ := by
  obtain ⟨hp, more, hr, hq⟩ := hd
  exact ⟨hp, more, hr, fun hq₁ => hq (hq₁.imp_left himp)⟩

/-- The plan for failing calls stays, so a service that `Cancels` goes on doing so. -/
theorem cancels (hd : Reports quiet d d₁) (hc : d.alarms.Cancels) : d₁.alarms.Cancels :=
  fun call => by
    rw [hd.plan]
    exact hc call

/-- On a service that `Cancels`, no number goes on record as rejected. -/
theorem rejected_eq (hd : Reports quiet d d₁) (hc : d.alarms.Cancels) :
    d₁.alarms.rejected = d.alarms.rejected := by
  obtain ⟨more, hr, hq⟩ := hd.rejected
  rw [hr, hq (.inr hc), List.append_nil]

end Reports

/-- `arm` makes no call to cancel, so there is nothing to report. -/
theorem arm_reports (a : Alarm AlarmAction) (d : Daemon) :
    Reports True d ((arm .quiet a).on d).2 := by
  show Reports True d { d with alarms := (d.alarms.arm a).2 }
  unfold AlarmService.arm
  by_cases hf : d.alarms.armFails d.alarms.armCalls = true
  · simp only [if_pos hf]
    exact .of_same rfl rfl
  · simp only [if_neg hf]
    exact .of_same rfl rfl

/-- A call of `cancel` that fails is put on record and answered with its fault. -/
theorem cancel_reports (id : AlarmId) (d : Daemon) :
    Reports (faultOf? ((cancel .quiet id).on d).1 = none) d ((cancel .quiet id).on d).2 := by
  show Reports (faultOf? (d.alarms.cancel id).1 = none) d
    { d with alarms := (d.alarms.cancel id).2 }
  unfold AlarmService.cancel
  by_cases hf : d.alarms.cancelFails d.alarms.cancelCalls = true
  · -- the failure is answered, and the plan says so
    simp only [if_pos hf]
    refine ⟨rfl, [id], rfl, ?_⟩
    rintro (hquiet | hc)
    · cases hquiet
    · rw [hc d.alarms.cancelCalls] at hf
      cases hf
  · simp only [if_neg hf]
    by_cases hp : d.alarms.queue.isPending id = true
    · simp only [if_pos hp]
      exact .of_same rfl rfl
    · simp only [if_neg hp]
      exact .of_same rfl rfl

/-- So is one of `discard`. -/
theorem discard_reports (id : AlarmId) (d : Daemon) :
    Reports (((discard .quiet id).on d).1 = none) d ((discard .quiet id).on d).2 := by
  have hcancel := cancel_reports id d
  unfold discard
  simp only [Act.on_bind]
  cases hr : ((cancel .quiet id).on d).1 with
  | ok _ => exact hcancel.mono fun _ => by rw [hr]; rfl
  | error f =>
    have hlog := Reports.of_logged
      (Act.logs_warn s!"Failed to cancel alarm {alarmName id}: {f.message}"
        ((cancel .quiet id).on d).2)
    exact (hcancel.trans hlog).mono nofun

/-- `discardAll` reports a fault if one of its calls to cancel failed. -/
theorem discardAll_reports (ids : List AlarmId) (d : Daemon) :
    Reports (((discardAll .quiet ids).on d).1 = none) d ((discardAll .quiet ids).on d).2 := by
  induction ids generalizing d with
  | nil => exact .refl d
  | cons id ids ih =>
    refine ((discard_reports id d).trans (ih _)).mono fun hnone => ?_
    exact (Option.orElse_eq_none _ _).1 hnone

/-- Discarding the numbers of a record answers a fault if any of the calls failed. -/
theorem discardRecord_reports (record : Option TimerRecord) (d : Daemon) :
    Reports (((discardRecord .quiet record).on d).1 = none) d
      ((discardRecord .quiet record).on d).2 := discardAll_reports _ d

/-- Arming a pair makes no call to cancel. -/
theorem armPair_reports (triggers : Pair Moment) (actions : Pair AlarmAction) (d : Daemon) :
    Reports True d ((armPair .quiet triggers actions).on d).2 :=
  ((arm_reports _ d).trans (arm_reports _ _)).mono fun _ => ⟨trivial, trivial⟩

theorem faultOf?_settle (fault : Option Fault) : faultOf? (settle fault) = fault := by
  cases fault <;> rfl

/-- Replacing a record answers some fault if a call to cancel failed on the way, be it that of
    arming or of cancelling. -/
theorem replaceRecord_reports (user : UserId) (window : Window) (actions : Pair AlarmAction)
    (triggers : Pair Moment) (d : Daemon) :
    Reports (faultOf? ((replaceRecord .quiet user window actions triggers).on d).1 = none) d
      ((replaceRecord .quiet user window actions triggers).on d).2 := by
  unfold replaceRecord
  simp only [Act.on_bind, Act.on_pure]
  have htaken : Reports True d ((takeRecord user).on d).2 := .of_same rfl rfl
  generalize (takeRecord user).on d = taken at htaken
  have hold := discardRecord_reports taken.1 taken.2
  generalize (discardRecord .quiet taken.1).on taken.2 = discarded at hold
  have harmed := armPair_reports triggers actions discarded.2
  generalize (armPair .quiet triggers actions).on discarded.2 = armed at harmed
  have hput : Reports True armed.2 ((putRecord user ⟨armed.1.1, window, actions⟩).on armed.2).2 :=
    .of_same rfl rfl
  generalize (putRecord user ⟨armed.1.1, window, actions⟩).on armed.2 = put at hput
  have hdisplaced := discardRecord_reports put.1 put.2
  generalize (discardRecord .quiet put.1).on put.2 = last at hdisplaced
  -- the answer is the first of the three faults, so there is none of them
  have hall := (((htaken.trans hold).trans harmed).trans hput).trans hdisplaced
  refine hall.mono fun hnone => ?_
  rw [faultOf?_settle, Option.orElse_eq_none, Option.orElse_eq_none] at hnone
  exact ⟨⟨⟨⟨trivial, hnone.1⟩, trivial⟩, trivial⟩, hnone.2.2⟩

/-- `armRecord` reports a fault if a call to cancel failed in it. -/
theorem armRecord_reports (user : UserId) (window : Window) (actions : Pair AlarmAction)
    (d : Daemon) :
    Reports (faultOf? ((armRecord .quiet user window actions).on d).1 = none) d
      ((armRecord .quiet user window actions).on d).2 := by
  unfold armRecord triggers
  simp only [Act.on_bind, Act.on_get, Act.on_pure]
  cases window.occurrences d.zone d.clock with
  | error f => exact .refl d
  | ok triggers => exact replaceRecord_reports user window actions triggers d

/-- So does scheduling: no failed call to cancel is passed over in silence. -/
theorem schedule_reports (user : UserId) (window : Window) (actions : Pair AlarmAction)
    (d : Daemon) :
    Reports (faultOf? ((schedule .quiet user window actions).on d).1 = none) d
      ((schedule .quiet user window actions).on d).2 := by
  have harmed := armRecord_reports user window actions d
  unfold schedule
  by_cases hv : window.valid = true
  · rw [if_pos hv]
    simp only [Act.on_bind]
    generalize (armRecord .quiet user window actions).on d = armed at harmed
    obtain ⟨result, d₁⟩ := armed
    cases result with
    | ok _ =>
      exact (harmed.trans (.of_logged (Act.logs_debug _ d₁))).mono
        fun _ => ⟨rfl, trivial⟩
    | error f =>
      exact (harmed.trans (.of_logged (Act.logs_warn _ d₁))).mono nofun
  · rw [if_neg hv]
    exact .refl d

/-! ### Restarting -/

/-- `swapPair` makes no call to cancel, so there is nothing to report. -/
theorem swapPair_reports (user : UserId) (expected fresh : Pair (Option AlarmId)) (d : Daemon) :
    Reports True d ((swapPair user expected fresh).on d).2 := by
  unfold swapPair
  simp only [Act.on_modifyGet]
  cases d.timers.get? user with
  | none => exact .refl d
  | some live =>
    by_cases hsame : live.alarms = expected
    · simp only [if_pos hsame]
      exact .of_same rfl rfl
    · simp only [if_neg hsame]
      exact .refl d

/-- Refreshing a record answers a fault if a call to cancel failed, be it for the old pair or for
    the new one. -/
theorem refreshRecord_reports (user : UserId) (record : TimerRecord) (triggers : Pair Moment)
    (d : Daemon) :
    Reports (faultOf? ((refreshRecord .quiet user record triggers).on d).1 = none) d
      ((refreshRecord .quiet user record triggers).on d).2 := by
  unfold refreshRecord
  simp only [Act.on_bind]
  have harmed := armPair_reports triggers record.actions d
  generalize (armPair .quiet triggers record.actions).on d = armed at harmed
  have hswapped := swapPair_reports user record.alarms armed.1.1 armed.2
  generalize (swapPair user record.alarms armed.1.1).on armed.2 = swapped at hswapped
  obtain ⟨⟨fresh, onArm⟩, d₁⟩ := armed
  obtain ⟨replaced, d₂⟩ := swapped
  have hboth := harmed.trans hswapped
  -- in either case the first fault is answered
  cases replaced with
  | some old =>
    refine (hboth.trans (discardAll_reports (pairIds old) d₂)).mono fun hnone => ?_
    have hfaults := (Option.orElse_eq_none _ _).1 ((faultOf?_settle _).symm.trans hnone)
    exact ⟨⟨trivial, trivial⟩, hfaults.2⟩
  | none =>
    have hlog := Reports.of_logged (Act.logs_debug
      s!"Timers for user {user} changed during restart, dropping new pair" d₂)
    refine ((hboth.trans hlog).trans (discardAll_reports (pairIds fresh) _)).mono fun hnone => ?_
    have hfaults := (Option.orElse_eq_none _ _).1 ((faultOf?_settle _).symm.trans hnone)
    exact ⟨⟨⟨trivial, trivial⟩, trivial⟩, hfaults.2⟩

/-- `rearm` reports a fault if a call to cancel failed in it. -/
theorem rearm_reports (user : UserId) (record : TimerRecord) (d : Daemon) :
    Reports (faultOf? ((rearm .quiet user record).on d).1 = none) d
      ((rearm .quiet user record).on d).2 := by
  unfold rearm triggers
  simp only [Act.on_bind, Act.on_get, Act.on_pure]
  cases record.window.occurrences d.zone d.clock with
  | error f => exact .refl d
  | ok triggers => exact refreshRecord_reports user record triggers d

/-- Arming records again answers the first fault, so it is silent only if each of them is. -/
theorem rearmAll_reports (records : List (UserId × TimerRecord)) (d : Daemon) :
    Reports (((rearmAll .quiet records).on d).1 = none) d
      ((rearmAll .quiet records).on d).2 := by
  induction records generalizing d with
  | nil => exact .refl d
  | cons p rest ih =>
    obtain ⟨user, record⟩ := p
    have hfirst := rearm_reports user record d
    unfold rearmAll
    simp only [Act.on_bind]
    generalize (rearm .quiet user record).on d = rearmed at hfirst
    obtain ⟨result, d₁⟩ := rearmed
    cases result with
    | ok _ => exact (hfirst.trans (ih d₁)).mono fun hnone =>
        ⟨rfl, ((Option.orElse_eq_none _ _).1 hnone).2⟩
    | error f =>
      -- a failure is logged, and the other records are armed all the same
      have hlog := Reports.of_logged (Act.logs_warn
        s!"Failed to restart timers for user {user}: {f.message}" d₁)
      exact ((hfirst.trans hlog).trans (ih _)).mono fun hnone =>
        absurd ((Option.orElse_eq_none _ _).1 hnone).1 nofun

/-- So does `restartAll`. -/
theorem restartAll_reports (d : Daemon) :
    Reports (faultOf? ((restartAll .quiet).on d).1 = none) d ((restartAll .quiet).on d).2 := by
  unfold restartAll
  rw [Act.on_get_bind]
  by_cases hempty : d.timers.entries.isEmpty = true
  · rw [if_pos hempty]
    exact .refl d
  · rw [if_neg hempty]
    have hall := rearmAll_reports d.timers.entries d
    simp only [Act.on_bind]
    generalize (rearmAll .quiet d.timers.entries).on d = rearmed at hall
    obtain ⟨result, d₁⟩ := rearmed
    cases result with
    | some f => exact hall.mono nofun
    | none => exact hall.mono fun _ => rfl

/-- So does `restartUser`, with or without a record of the user. -/
theorem restartUser_reports (user : UserId) (d : Daemon) :
    Reports (faultOf? ((restartUser .quiet user).on d).1 = none) d
      ((restartUser .quiet user).on d).2 := by
  unfold restartUser
  rw [Act.on_get_bind]
  cases d.timers.get? user with
  | none => exact (Reports.of_logged (Act.logs_debug _ d)).mono fun _ => trivial
  | some record =>
    have hrearmed := rearm_reports user record d
    simp only [Act.on_bind]
    generalize (rearm .quiet user record).on d = rearmed at hrearmed
    obtain ⟨result, d₁⟩ := rearmed
    cases result with
    | ok _ =>
      exact (hrearmed.trans (.of_logged (Act.logs_debug _ d₁))).mono
        fun _ => ⟨rfl, trivial⟩
    | error f => exact hrearmed.mono nofun

/-- So does `restart`, for one user or for everybody. -/
theorem restart_reports (user : UserId) (d : Daemon) :
    Reports (faultOf? ((restart .quiet user).on d).1 = none) d
      ((restart .quiet user).on d).2 := by
  unfold restart
  by_cases hu : user = noUser
  · rw [if_pos hu]
    exact restartAll_reports d
  · rw [if_neg hu]
    exact restartUser_reports user d

/-! ### Clearing -/

/-- Clearing a user's timers answers a fault if a call to cancel failed. -/
theorem clearTimers_reports (user : UserId) (d : Daemon) :
    Reports (faultOf? ((clearTimers .quiet user).on d).1 = none) d
      ((clearTimers .quiet user).on d).2 := by
  have htaken : Reports True d ((takeRecord user).on d).2 := .of_same rfl rfl
  unfold clearTimers
  simp only [Act.on_bind]
  generalize (takeRecord user).on d = taken at htaken
  obtain ⟨record?, d₁⟩ := taken
  cases record? with
  | none => exact htaken.mono fun _ => trivial
  | some record =>
    have hdiscarded := discardAll_reports record.ids d₁
    have hlog := Reports.of_logged (Act.logs_debug
      s!"Cleared timers for user {user}" ((discardAll .quiet record.ids).on d₁).2)
    refine ((htaken.trans hdiscarded).trans hlog).mono fun hnone => ?_
    exact ⟨⟨trivial, (faultOf?_settle _).symm.trans hnone⟩, trivial⟩

/-- Discarding the numbers of several records answers a fault if any of the calls failed. -/
theorem discardRecords_reports (records : List TimerRecord) (d : Daemon) :
    Reports (((discardRecords .quiet records).on d).1 = none) d
      ((discardRecords .quiet records).on d).2 := by
  induction records generalizing d with
  | nil => exact .refl d
  | cons record rest ih =>
    refine ((discardAll_reports record.ids d).trans (ih _)).mono fun hnone => ?_
    exact (Option.orElse_eq_none _ _).1 hnone

/-- `clearAllTimers` reports a fault if a call to cancel failed in it. -/
theorem clearAllTimers_reports (d : Daemon) :
    Reports (faultOf? ((clearAllTimers .quiet).on d).1 = none) d
      ((clearAllTimers .quiet).on d).2 := by
  have htaken : Reports True d (takeRecords.on d).2 := .of_same rfl rfl
  refine (htaken.trans (discardRecords_reports (takeRecords.on d).1 _)).mono fun hnone => ?_
  exact ⟨trivial, (faultOf?_settle _).symm.trans hnone⟩

end Daemon

end Twilight
