import Twilight.Proofs.Daemon.Statuses

namespace Twilight

/-!
# What the manager does about users

* `Daemon.Settled` — a user's state was set and resolved, and its status treated as a policy asks.
* `Daemon.Changed`, `Daemon.Fired` — all that a changed setting and a firing can do: each settles at
  most one user, the active one.
* `Daemon.loadWith_on`, `Daemon.settingChanged_on`, `Daemon.fireBoundary_on` — that is what they do.
* `Daemon.resync_restartAll` — a resync is a restart of all timers and then a notification.
-/

open Time

namespace Daemon

variable {lossy : Prop} {h : Hooks} {d d₁ d₂ : Daemon}

/-- The daemon with a user's state set. -/
def withState (d : Daemon) (user : UserId) (state : DarkModeState) : Daemon :=
  { d with manager := { d.manager with states := d.manager.states.insert user state } }

/-- The daemon without a user's state. -/
def withoutState (d : Daemon) (user : UserId) : Daemon :=
  { d with manager := { d.manager with states := d.manager.states.erase user } }

/-- A user's state, the default one where there is none. -/
def liveState (d : Daemon) (user : UserId) : DarkModeState := d.manager.states.getD user {}

theorem setState_on (user : UserId) (state : DarkModeState) (d : Daemon) :
    (setState user state).on d = ((), d.withState user state) := rfl

theorem stateOrDefault_on (user : UserId) (d : Daemon) :
    (stateOrDefault user).on d = (d.liveState user, d.withState user (d.liveState user)) := rfl

/-- Of two states that are set for one user the later one counts. -/
theorem withState_withState (user : UserId) (s t : DarkModeState) (d : Daemon) :
    (d.withState user s).withState user t = d.withState user t := by
  unfold withState
  simp only [Table.insert_insert]

/-- `withState` of the state that the user has changes nothing. -/
theorem withState_of_get? {user : UserId} {state : DarkModeState}
    (hs : d.manager.states.get? user = some state) : d.withState user state = d := by
  unfold withState
  rw [Table.insert_of_get?_eq_some hs]

/-- The `liveState` of a user who has a state is that state. -/
theorem liveState_of_get? {user : UserId} {state : DarkModeState}
    (hs : d.manager.states.get? user = some state) : d.liveState user = state := by
  simp [liveState, Table.getD, hs]

/-- The `liveState` of a user without a state is the default one. -/
theorem liveState_of_none {user : UserId} (hs : d.manager.states.get? user = none) :
    d.liveState user = {} := by
  simp [liveState, Table.getD, hs]

/-! ### Settling a state -/

/-- `d₁` is `d` after a user's state was set and resolved, and its status treated as a policy
    asks. -/
def Settled (lossy : Prop) (user : UserId) (state : DarkModeState) (policy : NotifyPolicy)
    (d d₁ : Daemon) : Prop :=
  ∃ d₀, Resolved lossy user state (d.withState user state) d₀ ∧
    Concluded (state.status? d.clock) user policy d₀ d₁

/-- Lines that are logged before a state is `Settled` make no difference. -/
theorem Settled.of_logged {user : UserId} {state : DarkModeState} {policy : NotifyPolicy}
    (hj : Logged d d₁) (hs : Settled lossy user state policy d₁ d₂) :
    Settled lossy user state policy d d₂ := by
  obtain ⟨d₀, hr, hc⟩ := hs
  obtain ⟨j, rfl⟩ := hj
  exact ⟨d₀, hr.of_logged ⟨j, rfl⟩, hc⟩

/-- Lines that are logged after a state was `Settled` make no difference. -/
theorem Settled.logged {user : UserId} {state : DarkModeState} {policy : NotifyPolicy}
    (hs : Settled lossy user state policy d d₁) (hj : Logged d₁ d₂) :
    Settled lossy user state policy d d₂ := by
  obtain ⟨d₀, hr, hc⟩ := hs
  exact ⟨d₀, hr, hc.logged hj⟩

/-- `takeState` sets a state and has it `Resolved`, and answers the `status?` that it stands for. -/
theorem takeState_on (hl : h.Losing lossy) (hc : d.alarms.Cancels) (user : UserId)
    (state : DarkModeState) :
    ∃ r d₀, (takeState h user state).on d = (r, d₀) ∧ r.dark? = state.status? d.clock ∧
      Resolved lossy user state (d.withState user state) d₀ := by
  obtain ⟨j, hj⟩ := Act.logs_info
    (s!"Loaded settings for user {user}: {state.mode.name}, window " ++ state.window.text)
    (d.withState user state)
  obtain ⟨r, d₀, he, hdark, hr⟩ := resolve_on (d := { d.withState user state with journal := j })
    hl hc user state
  refine ⟨r, d₀, ?_, hdark, hr.of_logged ⟨j, rfl⟩⟩
  unfold takeState
  simp only [Act.on_bind, setState_on, hj, he]

/-- `loadWith` has the state `Settled` that the store serves of the user. -/
theorem loadWith_on (hl : h.Losing lossy) (hc : d.alarms.Cancels) (user : UserId)
    (policy : NotifyPolicy) :
    Settled lossy user (d.settings.decoded user) policy d ((loadWith h user policy).on d).2 := by
  obtain ⟨_, he, j, rfl⟩ := readState_on user d
  obtain ⟨r, d₀, ht, hdark, hr⟩ := takeState_on (d := { d with journal := j }) hl hc user
    (d.settings.decoded user)
  obtain ⟨d₁, hf, hn⟩ := finish_on hl.run user r policy d₀
  unfold loadWith
  simp only [Act.on_bind, he, ht, hf]
  exact Settled.of_logged ⟨j, rfl⟩ ⟨d₀, hr, hdark ▸ hn⟩

/-- `reevaluate` has the user's `liveState` `Settled` as it is. -/
theorem reevaluate_on (hl : h.Losing lossy) (hc : d.alarms.Cancels) (user : UserId)
    (notify : Bool) :
    Settled lossy user (d.liveState user) (.ofFlag notify) d
      ((reevaluate h user notify).on d).2 := by
  obtain ⟨r, d₀, he, hdark, hr⟩ := resolve_on (d := d.withState user (d.liveState user)) hl hc
    user (d.liveState user)
  obtain ⟨d₁, hf, hn⟩ := finish_on hl.run user r (.ofFlag notify) d₀
  unfold reevaluate
  simp only [Act.on_bind, stateOrDefault_on, he, hf]
  exact ⟨d₀, hr, hdark ▸ hn⟩

/-! ### Changed settings -/

/-- Reporting how a state changed by `reportChange` adds lines to the journal only. -/
theorem logs_reportChange (user : UserId) (state : DarkModeState) (change : StateChange) :
    (reportChange user state change).Logs := by
  cases change <;> exact Act.logs_info _

/-- Log why a changed setting left its user unresolved, if it did. -/
def reportUnresolved (key : StateKey) (user : UserId) (answer : Except Fault Bool) : Act Unit := do
  if let .error f := answer then
    debug s!"Change of '{key.name}' left user {user} unresolved: {f.message}"

/-- Reporting by `reportUnresolved` adds lines to the journal only. -/
theorem logs_reportUnresolved (key : StateKey) (user : UserId) (answer : Except Fault Bool) :
    (reportUnresolved key user answer).Logs := by
  cases answer with
  | ok _ => exact Act.logs_pure ()
  | error f => exact Act.logs_debug _

/-- Taking over a change sets and resolves the state with that part changed. -/
theorem takeChange_on (hl : h.Losing lossy) (hc : d.alarms.Cancels) (user : UserId)
    (change : StateChange) :
    ∃ r d₀, (takeChange h user change).on d = (r, d₀) ∧
      r.dark? = ((d.liveState user).changed change).status? d.clock ∧
      Resolved lossy user ((d.liveState user).changed change)
        (d.withState user ((d.liveState user).changed change)) d₀ := by
  obtain ⟨j, hj⟩ := logs_reportChange user (d.liveState user) change
    (d.withState user (d.liveState user))
  obtain ⟨r, d₀, he, hdark, hr⟩ := resolve_on (h := h)
    (d := { d.withState user ((d.liveState user).changed change) with journal := j })
    hl hc user ((d.liveState user).changed change)
  refine ⟨r, d₀, ?_, hdark, hr.of_logged ⟨j, rfl⟩⟩
  unfold takeChange
  simp only [Act.on_bind, stateOrDefault_on, hj, setState_on]
  rw [← he]
  -- the state that was set first is set over
  have hset : ({ d.withState user (d.liveState user) with journal := j } : Daemon).withState user
      ((d.liveState user).changed change) =
      { d.withState user ((d.liveState user).changed change) with journal := j } := by
    rw [← withState_withState user (d.liveState user) ((d.liveState user).changed change) d]
    rfl
  rw [hset]

/-- All that a changed setting can do: nothing if it is none of the active user's state, and
    otherwise that user's state is settled with the part changed to what the store serves. -/
inductive Changed (lossy : Prop) (key : String) (user : UserId) (d d₁ : Daemon) : Prop
  | ignored (reason : user ≠ d.manager.active ∨ StateKey.ofName? key = none) (logged : Logged d d₁)
  | taken (part : StateKey) (name : StateKey.ofName? key = some part)
    (active : user = d.manager.active)
    (settled : Settled lossy user
      ((d.liveState user).changed ((d.settings.decoded user).part part)) .always d d₁)

/-- A changed setting of a user who is not active is only logged. -/
theorem stateSettingChanged_of_background (key : StateKey) {user : UserId}
    (hu : user ≠ d.manager.active) : Logged d ((stateSettingChanged h key user).on d).2 := by
  obtain ⟨_, he, j, rfl⟩ := readChange_on key user d
  unfold stateSettingChanged
  rw [Act.on_bind, he, Act.on_get_bind, if_neg hu]
  exact .trans ⟨j, rfl⟩ (Act.logs_debug _ _)

/-- A setting of the state that changed is `Changed`: ignored for a background user, and taken into
    the active user's state otherwise. -/
theorem stateSettingChanged_on (hl : h.Losing lossy) (hc : d.alarms.Cancels) {key : String}
    {part : StateKey} (hkey : StateKey.ofName? key = some part) (user : UserId) :
    Changed lossy key user d ((stateSettingChanged h part user).on d).2 := by
  by_cases hu : user = d.manager.active
  · obtain ⟨_, he, j, rfl⟩ := readChange_on part user d
    unfold stateSettingChanged
    rw [Act.on_bind, he, Act.on_get_bind, if_pos hu]
    obtain ⟨r, d₀, ht, hdark, hr⟩ := takeChange_on (d := { d with journal := j }) hl hc user
      ((d.settings.decoded user).part part)
    obtain ⟨d₁, hf, hn⟩ := finish_on hl.run user r .always d₀
    have hset : Settled lossy user
        ((d.liveState user).changed ((d.settings.decoded user).part part)) .always d d₁ :=
      .of_logged ⟨j, rfl⟩ ⟨d₀, hr, hdark ▸ hn⟩
    simp only [Act.on_bind, ht, hf]
    exact .taken part hkey hu (hset.logged (logs_reportUnresolved part user r.result d₁))
  · exact .ignored (.inl hu) (stateSettingChanged_of_background part hu)

/-- What comes of a changed setting is `Changed`, whichever key it has. -/
theorem settingChanged_on (hl : h.Losing lossy) (hc : d.alarms.Cancels) (key : String)
    (user : UserId) : Changed lossy key user d ((settingChanged h key user).on d).2 := by
  unfold settingChanged
  cases hkey : StateKey.ofName? key with
  | none => exact .ignored (.inr hkey) (Act.logs_debug _ d)
  | some part => exact stateSettingChanged_on hl hc hkey user

/-! ### Firings -/

/-- All that a firing can do: nothing if it is stale or for a background user, and otherwise the
    live state, whose window it was armed for, is settled as it is. A request for bounds out of
    range, for which no alarm is ever armed, has a status delivered and no more. -/
inductive Fired (lossy : Prop) (request : ScheduleRequest) (d d₁ : Daemon) : Prop
  | ignored (reason : request.user ≠ d.manager.active ∨
      d.liveRequest? request.user ≠ some request) (logged : Logged d d₁)
  | outOfRange (dark : Bool) (valid : request.window.valid = false)
    (notified : Notified dark request.user .always d d₁)
  | honoured (state : DarkModeState) (active : request.user = d.manager.active)
    (live : d.manager.states.get? request.user = some state)
    (window : state.window? = some request.window)
    (settled : Settled lossy request.user state .always d d₁)

/-- A request that is live is the one that the user's state asks for. -/
theorem liveRequest?_eq_some {user : UserId} {request : ScheduleRequest}
    (hreq : d.liveRequest? user = some request) :
    ∃ state, d.manager.states.get? user = some state ∧ state.mode = .customWindow ∧
      request = ⟨user, state.window⟩ := by
  obtain ⟨state, hstate, hr⟩ := Option.bind_eq_some_iff.1 hreq
  obtain ⟨hm, hw⟩ := DarkModeState.request?_eq_some.1 hr
  exact ⟨state, hstate, hm, hw⟩

/-- `honour` does nothing about a request that is not the `liveRequest?` of its user, and only logs.
    -/
theorem honour_of_stale {request : ScheduleRequest} (boundary : Boundary)
    (hreq : d.liveRequest? request.user ≠ some request) :
    ∃ d₁, (honour h request boundary).on d = (none, d₁) ∧ Logged d d₁ := by
  unfold honour
  rw [Act.on_get_bind, if_neg hreq]
  exact ⟨_, rfl, Act.logs_debug _ d⟩

/-- `honour` has the alarms of the `liveRequest?` armed again, and answers the status of its window.
    -/
theorem honour_of_live {request : ScheduleRequest} (boundary : Boundary)
    (hreq : d.liveRequest? request.user = some request) :
    ∃ j d₁, Logged ((scheduleRequest h request).on { d with journal := j }).2 d₁ ∧
      (honour h request boundary).on d =
        (some (request.window.containsMoment d₁.clock), d₁) := by
  obtain ⟨j, hj⟩ := Act.logs_info
    s!"Window {minuteText (request.window.bound boundary)} reached for user {request.user}" d
  unfold honour
  rw [Act.on_get_bind, if_pos hreq]
  simp only [Act.on_bind, hj]
  refine ⟨j, ?_⟩
  cases ((scheduleRequest h request).on { d with journal := j }).1 with
  | ok _ => exact ⟨_, .refl _, rfl⟩
  | error f => exact ⟨_, Act.logs_warn _ _, rfl⟩

/-- `scheduleRequest` changes nothing where the bounds are out of range. -/
theorem scheduleRequest_of_not_valid {request : ScheduleRequest}
    (hv : request.window.valid = false) :
    ((scheduleRequest h request).on d).2 = d := by
  unfold scheduleRequest
  rw [schedule_of_not_valid (by simp [hv])]

/-- What the `liveRequest?` of the active user comes to is `Fired`: alarms armed anew, and a status
    notified in any case. -/
theorem honour_notify_on (hl : h.Losing lossy) (hc : d.alarms.Cancels) {request : ScheduleRequest}
    (boundary : Boundary) (hreq : d.liveRequest? request.user = some request)
    (hactive : request.user = d.manager.active) :
    ∃ dark d₁, (honour h request boundary).on d = (some dark, d₁) ∧
      Fired lossy request d ((notify h dark request.user .always).on d₁).2 := by
  obtain ⟨j, d₁, hlog, he⟩ := honour_of_live (h := h) boundary hreq
  obtain ⟨state, hstate, hm, hrequest⟩ := liveRequest?_eq_some hreq
  have hwin : state.window = request.window := by rw [hrequest]
  refine ⟨_, d₁, he, ?_⟩
  -- the status is worked out and notified in any case
  have hn := notify_on hl.run (request.window.containsMoment d₁.clock) request.user .always d₁
  cases hv : request.window.valid with
  | false =>
    rw [scheduleRequest_of_not_valid hv] at hlog
    exact .outOfRange _ hv (hn.of_logged (.trans ⟨j, rfl⟩ hlog))
  | true =>
    -- the bounds are valid, so the state needs these alarms
    have hw : state.window? = some request.window :=
      DarkModeState.window?_eq_some.2 ⟨hm, hwin, hv⟩
    have hr : Resolved lossy request.user state d d₁ :=
      .of_logged ⟨j, rfl⟩
        ((scheduleRequest_on (d := { d with journal := j }) hl hc request.user hw).logged hlog)
    refine .honoured state hactive hstate hw ⟨d₁, ?_, ?_⟩
    · rw [withState_of_get? hstate]
      exact hr
    · rw [DarkModeState.status?_of_window? hw, ← hr.rescheduled.clock]
      exact hn

/-- An alarm that fires has its boundary `Fired`: ignored if the request is not the live one, and
    otherwise settled by what it asks for. -/
theorem fireBoundary_on (hl : h.Losing lossy) (hc : d.alarms.Cancels) (request : ScheduleRequest)
    (boundary : Boundary) : Fired lossy request d ((fireBoundary h request boundary).on d).2 := by
  unfold fireBoundary isForActiveUser
  rw [Act.on_bind, Act.on_get_bind]
  by_cases hactive : request.user = d.manager.active
  · rw [if_pos hactive]
    by_cases hreq : d.liveRequest? request.user = some request
    · obtain ⟨dark, d₁, he, hf⟩ := honour_notify_on hl hc boundary hreq hactive
      simp only [Act.on_pure, if_true, Act.on_bind, he]
      exact hf
    · obtain ⟨d₁, he, hd⟩ := honour_of_stale (h := h) boundary hreq
      simp only [Act.on_pure, if_true, Act.on_bind, he]
      exact .ignored (.inr hreq) hd
  · rw [if_neg hactive]
    exact .ignored (.inl hactive) (Act.logs_debug _ d)

/-! ### Restarting -/

/-- Notify the active user's status: what resyncing does once the timers are restarted. -/
def notifyActive (h : Hooks) (answer : Except Fault Bool) : Act (Except Fault Bool) := do
  let d ← get
  if let some dark := d.activeWindowStatus? then notify h dark d.manager.active .onChange
  pure answer

/-- Where callbacks do nothing, `notifyActive` concludes with the status of the active user's
    window, under `onChange`. -/
theorem notifyActive_on (hrun : ∀ script, h.run script = pure ()) (answer : Except Fault Bool)
    (d : Daemon) :
    Concluded d.activeWindowStatus? d.manager.active .onChange d
      ((notifyActive h answer).on d).2 := by
  unfold notifyActive
  rw [Act.on_get_bind]
  cases d.activeWindowStatus? with
  | none => exact .refl d
  | some dark => exact notify_on hrun dark _ .onChange d

/-- Resyncing restarts all timers, then notifies the active user's status if it is another one. -/
theorem resync_restartAll (hl : h.Losing lossy) (d : Daemon) :
    ∃ d₀, Logged ((restartAll h).on d).2 d₀ ∧
      Concluded d₀.activeWindowStatus? d₀.manager.active .onChange d₀ ((resync h).on d).2 := by
  have hrestart : (restart h noUser).on d = (restartAll h).on d := by
    unfold restart
    rw [if_pos rfl]
  unfold resync
  rw [Act.on_bind, hrestart]
  cases ((restartAll h).on d).1 with
  | ok restarted => exact ⟨_, .refl _, notifyActive_on hl.run (.ok restarted) _⟩
  | error f => exact ⟨_, Act.logs_warn _ _, notifyActive_on hl.run (.error f) _⟩

end Daemon

end Twilight
