import Twilight.Proofs.Daemon.Appearance
import Twilight.Proofs.Daemon.Timers
import Twilight.Proofs.Settings.State

namespace Twilight

/-!
# How statuses come about

* `Daemon.Resolved` — all that resolving a state can do to the timers of its user.
* `Daemon.Told` — a status was remembered and handed to the receiver.
* `Daemon.Notified`, `Daemon.Concluded` — a status was treated as a policy asks.
* `Daemon.resolve_on`, `Daemon.notify_on`, `Daemon.finish_on` — that is all that happens.
-/

open Time

namespace Daemon

variable {lossy : Prop} {h : Hooks} {d d₁ d₂ : Daemon}

/-! ### Reading states -/

/-- Reading a user's mode gets the one that `modeOf` decodes from the store, and only logs besides.
    -/
theorem readMode_on (user : UserId) (d : Daemon) :
    ∃ d₁, (readMode user).on d = (d.settings.modeOf user, d₁) ∧ Logged d d₁ := by
  unfold readMode SettingsStore.modeOf
  rw [Act.on_get_bind]
  cases d.settings.getInt StateKey.mode.name user with
  | error f =>
    simp only [Act.on_bind, Act.on_pure]
    exact ⟨_, rfl, Act.logs_debug _ d⟩
  | ok value =>
    simp only [modeOfStored]
    by_cases hm : (Mode.ofNumber? value).isNone = true
    · rw [if_pos hm]
      exact ⟨_, rfl, Act.logs_fail _ d⟩
    · rw [if_neg hm]
      exact ⟨_, rfl, .refl d⟩

/-- Reading a bound gets the one that `boundOf` decodes from the store, and only logs besides. -/
theorem readBound_on (key : StateKey) (user : UserId) (d : Daemon) :
    ∃ d₁, (readBound key user).on d = (d.settings.boundOf key user, d₁) ∧ Logged d d₁ := by
  unfold readBound SettingsStore.boundOf
  rw [Act.on_get_bind]
  cases d.settings.getInt key.name user with
  | error f =>
    simp only [Act.on_bind, Act.on_pure]
    exact ⟨_, rfl, Act.logs_debug _ d⟩
  | ok value => exact ⟨_, rfl, .refl d⟩

/-- `readState` answers the `decoded` settings of a user, which are what the store serves, and only
    logs. -/
theorem readState_on (user : UserId) (d : Daemon) :
    ∃ d₁, (readState user).on d = (d.settings.decoded user, d₁) ∧ Logged d d₁ := by
  obtain ⟨d₁, he₁, j₁, rfl⟩ := readMode_on user d
  obtain ⟨d₂, he₂, j₂, rfl⟩ := readBound_on .start user { d with journal := j₁ }
  obtain ⟨d₃, he₃, j₃, rfl⟩ := readBound_on .finish user { d with journal := j₂ }
  refine ⟨_, ?_, ⟨j₃, rfl⟩⟩
  unfold readState
  simp only [Act.on_bind, Act.on_pure, he₁, he₂, he₃]
  rfl

/-- `readChange` answers one part of the `decoded` settings of a user, and only logs. The cases are
    those of the keys. -/
theorem readChange_on (key : StateKey) (user : UserId) (d : Daemon) :
    ∃ d₁, (readChange key user).on d = ((d.settings.decoded user).part key, d₁) ∧ Logged d d₁ := by
  cases key with
  | mode =>
    obtain ⟨d₁, he, hd⟩ := readMode_on user d
    refine ⟨d₁, ?_, hd⟩
    simp only [readChange, Act.on_bind, Act.on_pure, he]
    rfl
  | start =>
    obtain ⟨d₁, he, hd⟩ := readBound_on .start user d
    refine ⟨d₁, ?_, hd⟩
    simp only [readChange, Act.on_bind, Act.on_pure, he]
    rfl
  | finish =>
    obtain ⟨d₁, he, hd⟩ := readBound_on .finish user d
    refine ⟨d₁, ?_, hd⟩
    simp only [readChange, Act.on_bind, Act.on_pure, he]
    rfl

/-! ### Resolving -/

/-- Dropping a user's timers clears them, with a service that `Cancels`. -/
theorem dropTimers_on (hl : h.Losing lossy) (hc : d.alarms.Cancels) (user : UserId) :
    Cleared lossy user d ((dropTimers h user).on d).2 := by
  obtain ⟨d₁, he, hd⟩ := clearTimers_cleared hl hc user
  unfold dropTimers
  simp only [Act.on_bind, he, Act.on_pure]
  exact hd

/-- `d₁` is `d` after a user's state was resolved: without a usable mode the timers stay, a window
    has its alarms armed anew unless it has no next occurrences, and every other state has none. -/
inductive Resolved (lossy : Prop) (user : UserId) (state : DarkModeState) (d d₁ : Daemon) : Prop
  | unset (mode : state.mode = .invalid) (logged : Logged d d₁)
  | cleared (mode : state.mode ≠ .invalid) (window : state.window? = none)
    (cleared : Cleared lossy user d d₁)
  | armed (w : Window) (triggers : Pair Moment) (ids : Pair (Option AlarmId))
    (window : state.window? = some w) (occurrences : w.occurrences d.zone d.clock = .ok triggers)
    (rearmed : Rearmed lossy user ⟨ids, w, (ScheduleRequest.mk user w).actions⟩ triggers d d₁)
  | stuck (w : Window) (f : Fault) (window : state.window? = some w)
    (occurrences : w.occurrences d.zone d.clock = .error f) (logged : Logged d d₁)

namespace Resolved

variable {user : UserId} {state : DarkModeState}

/-- Lines that are logged after a state was `Resolved` make no difference. -/
theorem logged (hr : Resolved lossy user state d d₁) (hj : Logged d₁ d₂) :
    Resolved lossy user state d d₂ := by
  cases hr with
  | unset mode logged => exact .unset mode (logged.trans hj)
  | cleared mode window cleared => exact .cleared mode window (cleared.logged hj)
  | armed w triggers ids window ho rearmed =>
    exact .armed w triggers ids window ho (rearmed.logged hj)
  | stuck w f window ho logged => exact .stuck w f window ho (logged.trans hj)

/-- Lines that are logged before a state is `Resolved` make no difference. -/
theorem of_logged (hj : Logged d d₁) (hr : Resolved lossy user state d₁ d₂) :
    Resolved lossy user state d d₂ := by
  cases hr with
  | unset mode logged => exact .unset mode (hj.trans logged)
  | cleared mode window cleared => exact .cleared mode window (cleared.of_logged hj)
  | armed w triggers ids window ho rearmed =>
    refine .armed w triggers ids window ?_ (rearmed.of_logged hj)
    obtain ⟨j, rfl⟩ := hj
    exact ho
  | stuck w f window ho logged =>
    refine .stuck w f window ?_ (hj.trans logged)
    obtain ⟨j, rfl⟩ := hj
    exact ho

/-- However a state was `Resolved`, only timers, alarms and lines have changed. -/
theorem rescheduled (hr : Resolved lossy user state d d₁) : Rescheduled d d₁ := by
  cases hr with
  | unset _ logged => exact logged.rescheduled
  | cleared _ _ cleared => exact cleared.rescheduled
  | armed _ _ _ _ _ rearmed => exact rearmed.rescheduled
  | stuck _ _ _ _ logged => exact logged.rescheduled

/-- However a state is resolved, the plans for failing calls stay the same. -/
theorem plans (hr : Resolved lossy user state d d₁) : d.alarms.SamePlans d₁.alarms := by
  cases hr with
  | unset _ logged =>
    obtain ⟨_, rfl⟩ := logged
    exact .refl _
  | cleared _ _ cleared => exact cleared.plans
  | armed _ _ _ _ _ rearmed => exact rearmed.plans
  | stuck _ _ _ _ logged =>
    obtain ⟨_, rfl⟩ := logged
    exact .refl _

/-- However a state was `Resolved`, the record of any other user is as it was. -/
theorem timers_of_ne (hr : Resolved lossy user state d d₁) {other : UserId} (hne : other ≠ user) :
    d₁.timers.get? other = d.timers.get? other := by
  cases hr with
  | unset _ logged =>
    obtain ⟨_, rfl⟩ := logged
    rfl
  | cleared _ _ cleared => rw [cleared.timers, Table.get?_erase_of_ne _ hne]
  | armed _ _ _ _ _ rearmed => rw [rearmed.timers, Table.get?_insert_of_ne _ hne]
  | stuck _ _ _ _ logged =>
    obtain ⟨_, rfl⟩ := logged
    rfl

/-- However a state is resolved, each pending alarm belongs to a record afterwards if it did before.
    -/
theorem soundTimers (hr : Resolved lossy user state d d₁) (hs : SoundTimers d) :
    SoundTimers d₁ := by
  cases hr with
  | unset _ logged => exact hs.delivered logged.delivered
  | cleared _ _ cleared => exact hs.cleared cleared
  | armed w _ _ window _ rearmed =>
    exact hs.rearmed rearmed rfl (DarkModeState.window?_eq_some.1 window).2.2
  | stuck _ _ _ _ logged => exact hs.delivered logged.delivered

end Resolved

/-- `scheduleRequest` for the window of a state has the state `Resolved`: armed, or left unarmed
    with a warning. -/
theorem scheduleRequest_on (hl : h.Losing lossy) (hc : d.alarms.Cancels) (user : UserId)
    {state : DarkModeState} {w : Window} (hw : state.window? = some w) :
    Resolved lossy user state d ((scheduleRequest h ⟨user, w⟩).on d).2 := by
  have hv := (DarkModeState.window?_eq_some.1 hw).2.2
  rcases schedule_cases hl hc user w (ScheduleRequest.mk user w).actions with
    ⟨_, triggers, ids, ho, hr⟩ | ⟨hno | ⟨f, ho⟩, hlog⟩
  · exact .armed w triggers ids hw ho hr
  · rw [hv] at hno
    contradiction
  · exact .stuck w f hw ho hlog

/-- `resolveWindow` for the window of a state has the state `Resolved`, and answers the status of
    the window now. -/
theorem resolveWindow_on (hl : h.Losing lossy) (hc : d.alarms.Cancels) {user : UserId}
    {state : DarkModeState} {w : Window} (hw : state.window? = some w) :
    ∃ r d₁, (resolveWindow h ⟨user, w⟩).on d = (r, d₁) ∧
      r.dark? = some (w.containsMoment d.clock) ∧ Resolved lossy user state d d₁ := by
  have hsched := scheduleRequest_on hl hc user hw
  unfold resolveWindow isInside
  simp only [Act.on_bind]
  generalize (scheduleRequest h ⟨user, w⟩).on d = scheduled at hsched
  obtain ⟨outcome, d₁⟩ := scheduled
  have hclock : d₁.clock = d.clock := hsched.rescheduled.clock
  cases outcome with
  | ok _ => exact ⟨_, _, rfl, by rw [← hclock]; rfl, hsched⟩
  | error f => exact ⟨_, _, rfl, by rw [← hclock]; rfl, hsched.logged (Act.logs_warn _ d₁)⟩

/-- `resolve` has the state `Resolved`, and answers the `status?` that it stands for. The cases are
    those of the mode. -/
theorem resolve_on (hl : h.Losing lossy) (hc : d.alarms.Cancels) (user : UserId)
    (state : DarkModeState) :
    ∃ r d₁, (resolve h user state).on d = (r, d₁) ∧ r.dark? = state.status? d.clock ∧
      Resolved lossy user state d d₁ := by
  have hdrop := dropTimers_on hl hc user
  unfold resolve
  -- one case for each mode; a window counts only if its bounds are in range
  cases hm : state.mode with
  | invalid =>
    have hstatus : state.status? d.clock = none := by simp [DarkModeState.status?, hm]
    exact ⟨_, _, rfl, hstatus.symm, .unset hm (Act.logs_debug _ d)⟩
  | alwaysLight =>
    have hwin : state.window? = none := by simp [DarkModeState.window?, hm]
    have hstatus : state.status? d.clock = some false := by simp [DarkModeState.status?, hm]
    exact ⟨_, _, rfl, hstatus.symm, .cleared (by simp [hm]) hwin hdrop⟩
  | alwaysDark =>
    have hwin : state.window? = none := by simp [DarkModeState.window?, hm]
    have hstatus : state.status? d.clock = some true := by simp [DarkModeState.status?, hm]
    exact ⟨_, _, rfl, hstatus.symm, .cleared (by simp [hm]) hwin hdrop⟩
  | customWindow =>
    by_cases hv : state.window.valid = true
    · have hw : state.window? = some state.window :=
        DarkModeState.window?_eq_some.2 ⟨hm, rfl, hv⟩
      simp only [if_pos hv]
      rw [DarkModeState.status?_of_window? hw]
      exact resolveWindow_on hl hc hw
    · have hwin : state.window? = none := by simp [DarkModeState.window?, hv]
      have hstatus : state.status? d.clock = none := by simp [DarkModeState.status?, hm, hv]
      simp only [if_neg hv]
      exact ⟨_, _, rfl, hstatus.symm, .cleared (by simp [hm]) hwin hdrop⟩

/-! ### Notifying -/

/-- Whoever receives statuses reports them. -/
def Reporting (d : Daemon) : Prop := ∃ r, d.manager.receiver = some r ∧ r.reports = true

/-- `d₁` is `d` after a status was remembered as the last one of a user and handed over. -/
structure Told (dark : Bool) (user : UserId) (d d₁ : Daemon) : Prop where
  delivered : Delivered d d₁
  lastStatus : d₁.manager.lastStatus = d.manager.lastStatus.insert user dark
  reported : ∀ r, d.manager.receiver = some r → r.reports = true →
    d₁.updates = (dark, user) :: d.updates
  shown : ∀ r, d.manager.receiver = some r → r.applies = true → d.CanApply →
    d₁.appearance = d.appearance.showing dark ∧ d.files.SameDirectories d₁.files

/-- A receiver that applies statuses has the appearance show this one, where it can, and any other
    one leaves it alone. -/
theorem applies_on (r : Receiver) (dark : Bool) (user : UserId) (d : Daemon) :
    ∃ d₁, ((if r.applies then applyStatus dark user else pure ()).on d).2 = d₁ ∧ Rendered d d₁ ∧
      (r.applies = true → d.CanApply →
        d₁.appearance = d.appearance.showing dark ∧ d.files.SameDirectories d₁.files) := by
  refine ⟨_, rfl, ?_, ?_⟩
  · by_cases ha : r.applies = true
    · rw [if_pos ha]
      exact renders_applyStatus dark user d
    · rw [if_neg ha]
      exact .refl d
  · intro ha hc
    obtain ⟨fs, j, he, hs⟩ := applyStatus_on hc dark user
    rw [if_pos ha, he]
    exact ⟨rfl, hs⟩

/-- A receiver takes a status: it reports it, applies it, or does both. -/
theorem receive_on (hrun : ∀ script, h.run script = pure ()) (r : Receiver) (dark : Bool)
    (user : UserId) (d : Daemon) :
    ∃ a f u e j, ((receive h r dark user).on d).2 =
        { d with appearance := a, files := f, updates := u, events := e, journal := j } ∧
      (r.reports = true → u = (dark, user) :: d.updates) ∧
      (r.applies = true → d.CanApply →
        a = d.appearance.showing dark ∧ d.files.SameDirectories f) := by
  unfold receive
  by_cases hr : r.reports = true
  · simp only [if_pos hr, Act.on_bind, note, Act.on_modify, hrun]
    obtain ⟨d₁, he, ⟨a, f, j, rfl⟩, hs⟩ := applies_on r dark user { d with
      events := .update dark user :: d.events, updates := (dark, user) :: d.updates }
    exact ⟨a, f, _, _, j, he, fun _ => rfl, fun ha hc =>
      hs ha (hc.congr rfl (.refl _))⟩
  · simp only [if_neg hr]
    obtain ⟨d₁, he, ⟨a, f, j, rfl⟩, hs⟩ := applies_on r dark user d
    exact ⟨a, f, _, _, j, he, fun hr' => absurd hr' hr, hs⟩

/-- The daemon with a status remembered as the last one of a user. -/
def remembering (d : Daemon) (user : UserId) (dark : Bool) : Daemon :=
  { d with manager := { d.manager with lastStatus := d.manager.lastStatus.insert user dark } }

theorem rememberStatus_on (user : UserId) (dark : Bool) (d : Daemon) :
    (rememberStatus user dark).on d = ((), d.remembering user dark) := rfl

/-- Delivering remembers a status and hands it over, if there is somebody to take it. -/
theorem deliver_on (hrun : ∀ script, h.run script = pure ()) (dark : Bool) (user : UserId)
    (d : Daemon) : Told dark user d ((deliver h dark user).on d).2 := by
  have hrem : (d.remembering user dark).manager.receiver = d.manager.receiver := rfl
  unfold deliver
  simp only [Act.on_bind, rememberStatus_on, Act.on_get, hrem]
  cases hrec : d.manager.receiver with
  | none =>
    -- there is nobody to take the status, and only a line is logged
    obtain ⟨j, hj⟩ := Act.logs_fail
      s!"No update callback installed, dropping status for user {user}" (d.remembering user dark)
    simp only [hj]
    refine ⟨⟨_, _, _, _, _, j, rfl⟩, rfl, fun r hr => ?_, fun r hr => ?_⟩
    · rw [hrec] at hr
      contradiction
    · rw [hrec] at hr
      contradiction
  | some receiver =>
    obtain ⟨j, hj⟩ := Act.logs_debug s!"Notifying {statusWord dark} for user {user}"
      (d.remembering user dark)
    obtain ⟨a, f, u, e, j₁, he, hu, hs⟩ := receive_on hrun receiver dark user
      { d.remembering user dark with journal := j }
    simp only [Act.on_bind, hj, he]
    refine ⟨⟨_, _, _, _, _, _, rfl⟩, rfl, fun r hr hrep => ?_, fun r hr happ hc => ?_⟩
    · obtain rfl := Option.some.inj (hrec.symm.trans hr)
      exact hu hrep
    · obtain rfl := Option.some.inj (hrec.symm.trans hr)
      exact hs happ (hc.congr rfl (.refl _))

/-- Whether a policy lets a status through, given the last one known. -/
def NotifyPolicy.passes (policy : NotifyPolicy) (last : Option Bool) (dark : Bool) : Prop :=
  policy = .always ∨ policy = .onChange ∧ last ≠ some dark

/-- `d₁` is `d` after a status was treated as a policy asks: it was handed over if the policy lets
    it through, and otherwise nothing but log lines came of it. -/
inductive Notified (dark : Bool) (user : UserId) (policy : NotifyPolicy) (d d₁ : Daemon) : Prop
  | told (passes : NotifyPolicy.passes policy (d.manager.lastStatus.get? user) dark)
    (told : Told dark user d d₁)
  | silent (passes : ¬ NotifyPolicy.passes policy (d.manager.lastStatus.get? user) dark)
    (logged : Logged d d₁)

/-- What `notify` does with a status is `Notified`: it is told, or kept silent about, as the policy
    asks. -/
theorem notify_on (hrun : ∀ script, h.run script = pure ()) (dark : Bool) (user : UserId)
    (policy : NotifyPolicy) (d : Daemon) :
    Notified dark user policy d ((notify h dark user policy).on d).2 := by
  unfold notify
  cases policy with
  | never => exact .silent (by simp [NotifyPolicy.passes]) (.refl d)
  | always => exact .told (.inl rfl) (deliver_on hrun dark user d)
  | onChange =>
    simp only []
    rw [Act.on_get_bind]
    by_cases hlast : d.manager.lastStatus.get? user = some dark
    · rw [if_pos hlast]
      exact .silent (by simp [NotifyPolicy.passes, hlast]) (Act.logs_debug _ d)
    · rw [if_neg hlast]
      exact .told (.inr ⟨rfl, hlast⟩) (deliver_on hrun dark user d)

/-- Lines that are logged after a status was `Notified` make no difference. -/
theorem Notified.logged {dark : Bool} {user : UserId} {policy : NotifyPolicy}
    (hn : Notified dark user policy d d₁) (hj : Logged d₁ d₂) : Notified dark user policy d d₂ := by
  cases hn with
  | told passes told =>
    refine .told passes ⟨told.delivered.trans hj.delivered, ?_, ?_, ?_⟩
    all_goals obtain ⟨j, rfl⟩ := hj
    · exact told.lastStatus
    · exact told.reported
    · exact told.shown
  | silent passes logged => exact .silent passes (logged.trans hj)

/-- Lines that are logged before a status is `Notified` make no difference. -/
theorem Notified.of_logged {dark : Bool} {user : UserId} {policy : NotifyPolicy}
    (hj : Logged d d₁) (hn : Notified dark user policy d₁ d₂) : Notified dark user policy d d₂ := by
  cases hn with
  | told passes told =>
    obtain ⟨j, rfl⟩ := hj
    refine .told passes ⟨?_, told.lastStatus, told.reported, fun r hr ha hc => ?_⟩
    · exact Delivered.trans ⟨_, _, _, _, _, j, rfl⟩ told.delivered
    · exact told.shown r hr ha (hc.congr rfl (.refl _))
  | silent passes logged =>
    obtain ⟨j, rfl⟩ := hj
    exact .silent passes (.trans ⟨j, rfl⟩ logged)

/-- Having a status `Notified` changes no more than to have it `Delivered`. -/
theorem Notified.delivered {dark : Bool} {user : UserId} {policy : NotifyPolicy}
    (hn : Notified dark user policy d d₁) : Delivered d d₁ := by
  cases hn with
  | told _ told => exact told.delivered
  | silent _ logged => exact logged.delivered

/-- `d₁` is `d` after a status, if there is one, was treated as a policy asks. -/
def Concluded (dark? : Option Bool) (user : UserId) (policy : NotifyPolicy) (d d₁ : Daemon) :
    Prop :=
  match dark? with
  | some dark => Notified dark user policy d d₁
  | none => Logged d d₁

namespace Concluded

variable {dark? : Option Bool} {user : UserId} {policy : NotifyPolicy}

/-- Lines that are logged after a change was `Concluded` make no difference. -/
theorem logged (hc : Concluded dark? user policy d d₁) (hj : Logged d₁ d₂) :
    Concluded dark? user policy d d₂ := by
  cases dark? with
  | some dark => exact Notified.logged hc hj
  | none => exact Logged.trans hc hj

/-- Having a change `Concluded` changes no more than to have a status `Delivered`. -/
theorem delivered (hc : Concluded dark? user policy d d₁) : Delivered d d₁ := by
  cases dark? with
  | some dark => exact Notified.delivered hc
  | none => exact Logged.delivered hc

end Concluded

/-- What `finish` does with a resolution is to conclude it: its status is notified if there is one,
    and the answer is its result. -/
theorem finish_on (hrun : ∀ script, h.run script = pure ()) (user : UserId)
    (resolution : Resolution) (policy : NotifyPolicy) (d : Daemon) :
    ∃ d₁, (finish h user resolution policy).on d = (resolution.result, d₁) ∧
      Concluded resolution.dark? user policy d d₁ := by
  unfold finish
  cases hd : resolution.dark? with
  | none => exact ⟨d, rfl, .refl d⟩
  | some dark => exact ⟨_, rfl, notify_on hrun dark user policy d⟩

end Daemon

end Twilight
