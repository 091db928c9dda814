import Twilight.Proofs.Daemon.Operations
import Twilight.Proofs.Daemon.Rescheduling

namespace Twilight

/-!
# Daemons that differ in their timers only

* `Daemon.Alike` — daemons that agree on everything but the zone, the timers, the alarms and the
  journal.
* `Act.Twin` — actions that treat alike daemons alike, up to a relation between their answers.
* `Daemon.twin_resolve` — resolving a state is of that kind: the status is read off the clock, and
  what came of arming is only reported.
* `Daemon.twin_loadWith`, `Daemon.twin_switchUser`, `Daemon.twin_putSetting`, `Daemon.twin_resync` —
  so is everything that is built on it.
-/

namespace Daemon

variable {d d₁ d₂ : Daemon}

/-! ### Alike daemons -/

/-- Daemons that agree on everything but the zone, the timers, the alarms and the journal. -/
def Alike (d d' : Daemon) : Prop :=
  ∃ z t a j, d' = { d with zone := z, timers := t, alarms := a, journal := j }

namespace Alike

variable {d' d₁' : Daemon}

theorem refl (d : Daemon) : Alike d d := ⟨_, _, _, _, rfl⟩

/-- Work on timers keeps daemons alike, whatever comes of it on either side. -/
theorem rescheduled (ha : Alike d d') (hr : Rescheduled d d₁) (hr' : Rescheduled d' d₁') :
    Alike d₁ d₁' := by
  obtain ⟨z, _, _, _, rfl⟩ := ha
  obtain ⟨_, _, _, rfl⟩ := hr
  obtain ⟨t, a, j, rfl⟩ := hr'
  exact ⟨z, t, a, j, rfl⟩

variable (ha : Alike d d')
include ha

theorem clock : d'.clock = d.clock := by obtain ⟨_, _, _, _, rfl⟩ := ha; rfl
theorem settings : d'.settings = d.settings := by obtain ⟨_, _, _, _, rfl⟩ := ha; rfl
theorem manager : d'.manager = d.manager := by obtain ⟨_, _, _, _, rfl⟩ := ha; rfl
theorem updates : d'.updates = d.updates := by obtain ⟨_, _, _, _, rfl⟩ := ha; rfl

end Alike

end Daemon

/-! ### Twin actions -/

namespace Act

open Daemon

variable {α β : Type} {R : α → α → Prop} {S : β → β → Prop}

/-- Carried out on alike daemons, the actions answer as `R` says and leave the daemons alike. -/
def Twin (R : α → α → Prop) (x y : Act α) : Prop :=
  ∀ d d', Alike d d' → R (x.on d).1 (y.on d').1 ∧ Alike (x.on d).2 (y.on d').2

/-- Answers that are related by `R` make twins of the actions that only give them. -/
theorem twin_pure {a b : α} (hab : R a b) : Twin R (pure a) (pure b) := fun _ _ ha => ⟨hab, ha⟩

/-- Twins that go on with twins are twins: the first ones answer related and leave alike what the
    others start from. -/
theorem Twin.bind {x y : Act α} {f g : α → Act β} (hx : Twin R x y)
    (hf : ∀ a b, R a b → Twin S (f a) (g b)) : Twin S (x >>= f) (y >>= g) := by
  intro d d' ha
  obtain ⟨hr, ha₁⟩ := hx d d' ha
  exact hf _ _ hr _ _ ha₁

/-- Twins with the same answer may go on with it. -/
theorem Twin.bind_eq {x y : Act α} {f g : α → Act β} (hx : Twin Eq x y)
    (hf : ∀ a, Twin S (f a) (g a)) : Twin S (x >>= f) (y >>= g) :=
  hx.bind fun a _ hab => hab ▸ hf a

/-- Actions that look at the daemon by `get` are twins if they are so whatever they see of the parts
    that may differ. -/
theorem twin_get_bind {f g : Daemon → Act β}
    (hf : ∀ d z t a j, Twin S (f d)
      (g { d with zone := z, timers := t, alarms := a, journal := j })) :
    Twin S (get >>= f) (get >>= g) := by
  rintro d d' ⟨z, t, a, j, rfl⟩
  exact hf d z t a j _ _ ⟨z, t, a, j, rfl⟩

/-- A change of the daemon that keeps daemons `Alike` is its own twin. -/
theorem twin_modify {f : Daemon → Daemon} (hf : ∀ d d', Alike d d' → Alike (f d) (f d')) :
    Twin Eq (modify f) (modify f) := fun d d' ha => ⟨rfl, hf d d' ha⟩

/-- Work on timers makes twins whose answers have nothing to do with each other. -/
theorem Reschedules.twin {x y : Act α} (hx : x.Reschedules) (hy : y.Reschedules) :
    Twin (fun _ _ => True) x y := fun d d' ha => ⟨trivial, ha.rescheduled (hx d) (hy d')⟩

/-- So do log lines, whatever they say. -/
theorem Logs.twin {x y : Act Unit} (hx : x.Logs) (hy : y.Logs) : Twin Eq x y :=
  fun d d' ha => ⟨rfl, (hx.reschedules.twin hy.reschedules d d' ha).2⟩

/-- A line that only one of them logs makes no difference. -/
theorem Twin.logs_left {x y : Act α} {l : Act Unit} (hxy : Twin R x y) (hl : l.Logs) :
    Twin R (l >>= fun _ => x) y := fun _ d' ha =>
  hxy _ _ (ha.rescheduled (hl _).rescheduled (.refl d'))

/-- Logging lines first on the one side does not keep two actions from being twins. -/
theorem Twin.logs_right {x y : Act α} {l : Act Unit} (hxy : Twin R x y) (hl : l.Logs) :
    Twin R x (l >>= fun _ => y) := fun d _ ha =>
  hxy _ _ (ha.rescheduled (.refl d) (hl _).rescheduled)

/-- What is read and logged only is read alike, if only what is alike is read. -/
theorem twin_of_read {x : Act α} {f : Daemon → α}
    (hx : ∀ d, ∃ d₁, x.on d = (f d, d₁) ∧ Logged d d₁)
    (hf : ∀ d d', Alike d d' → f d' = f d) : Twin Eq x x := by
  intro d d' ha
  obtain ⟨d₁, he, hd⟩ := hx d
  obtain ⟨d₁', he', hd'⟩ := hx d'
  rw [he, he']
  exact ⟨(hf d d' ha).symm, ha.rescheduled hd.rescheduled hd'.rescheduled⟩

end Act

namespace Daemon

open Act

variable {lossy : Prop} {h : Hooks} {d d' : Daemon}

/-! ### Handing statuses over -/

/-- A change of the appearance does not look at what `Alike` leaves open, so it is its own twin. -/
theorem twin_modifyAppearance (f : Appearance → Appearance) :
    Twin Eq (modifyAppearance f) (modifyAppearance f) := by
  refine twin_modify ?_
  rintro d d' ⟨z, t, a, j, rfl⟩
  exact ⟨z, t, a, j, rfl⟩

/-- A change by `modifyManager` is the same on both sides, as the manager is no part that may
    differ. -/
theorem twin_modifyManager (f : Manager → Manager) :
    Twin Eq (modifyManager f) (modifyManager f) := by
  refine twin_modify ?_
  rintro d d' ⟨z, t, a, j, rfl⟩
  exact ⟨z, t, a, j, rfl⟩

/-- Updating an item of the appearance answers and does the same on daemons that are `Alike`. -/
theorem twin_updateItem (item : Item) (value : String) :
    Twin Eq (updateItem item value) (updateItem item value) := by
  have hpush : Twin Eq (updateConfiguration item value) (updateConfiguration item value) := by
    refine twin_get_bind fun d z t a j => (twin_modifyAppearance _).bind_eq fun _ => ?_
    split
    · exact ((logs_log _).twin (logs_log _)).bind_eq fun _ => twin_pure rfl
    · exact twin_pure rfl
  refine ((logs_info _).twin (logs_info _)).bind_eq fun _ => hpush.bind_eq fun result => ?_
  cases result with
  | ok _ => exact twin_pure rfl
  | error refusal =>
    -- a refusal is looked into, on both sides in the same configuration
    refine twin_get_bind fun d z t a j => ?_
    simp only []
    cases d.appearance.configuration.get item with
    | error f => exact ((logs_fail _).twin (logs_fail _)).bind_eq fun _ => twin_pure rfl
    | ok reported =>
      by_cases hr : reported = value
      · simp only [if_pos hr]
        exact ((logs_warn _).twin (logs_warn _)).bind_eq fun _ => twin_pure rfl
      · simp only [if_neg hr]
        exact ((logs_fail _).twin (logs_fail _)).bind_eq fun _ => twin_pure rfl

/-- `applyStatus` does the same to daemons that are `Alike`, but for its lines in the journal. -/
theorem twin_applyStatus (dark : Bool) (user : UserId) :
    Twin Eq (applyStatus dark user) (applyStatus dark user) := by
  have hkeep : ∀ key value, Twin Eq (setParameter key value) (setParameter key value) := by
    rintro key value d d' ⟨z, t, a, j, rfl⟩
    exact ⟨rfl, z, t, a, j, rfl⟩
  have hmode : Twin Eq (applyMode (Mode.fixed dark)) (applyMode (Mode.fixed dark)) := by
    unfold applyMode
    rw [if_pos (Mode.isFixed_fixed dark)]
    refine (twin_updateItem _ _).bind_eq fun result => ?_
    cases result with
    | error f => exact twin_pure rfl
    | ok _ => exact (twin_modifyAppearance _).bind_eq fun _ => hkeep _ _
  refine ((logs_block _).twin (logs_block _)).bind_eq fun _ => hmode.bind_eq fun result => ?_
  cases result with
  | ok _ => exact twin_pure rfl
  | error f => exact (logs_fail _).twin (logs_fail _)

section

variable (hl : h.Losing lossy)
include hl

/-- A receiver does the same with a status on daemons that are `Alike`, be it to report or to apply
    it. -/
theorem twin_receive (receiver : Receiver) (dark : Bool) (user : UserId) :
    Twin Eq (receive h receiver dark user) (receive h receiver dark user) := by
  have hnote : Twin Eq (note (.update dark user)) (note (.update dark user)) := by
    refine twin_modify ?_
    rintro d d' ⟨z, t, a, j, rfl⟩
    exact ⟨z, t, a, j, rfl⟩
  have hreport : Twin Eq (modify fun d : Daemon => { d with updates := (dark, user) :: d.updates })
      (modify fun d : Daemon => { d with updates := (dark, user) :: d.updates }) := by
    refine twin_modify ?_
    rintro d d' ⟨z, t, a, j, rfl⟩
    exact ⟨z, t, a, j, rfl⟩
  -- whatever the script is, these hooks run nothing
  have hscript : Twin Eq (do h.run (← get).onUpdate : Act Unit) (do h.run (← get).onUpdate) := by
    refine twin_get_bind fun d z t a j => ?_
    rw [hl.run]
    exact twin_pure rfl
  unfold receive
  by_cases hr : receiver.reports = true
  · by_cases ha : receiver.applies = true
    · simp only [if_pos hr, if_pos ha]
      refine hnote.bind_eq fun _ => hreport.bind_eq fun _ => ?_
      exact (twin_applyStatus dark user).bind_eq fun _ => hscript
    · simp only [if_pos hr, if_neg ha]
      exact hnote.bind_eq fun _ => hreport.bind_eq fun _ => hscript
  · by_cases ha : receiver.applies = true
    · simp only [if_neg hr, if_pos ha]
      exact (twin_applyStatus dark user).bind_eq fun _ => twin_pure rfl
    · simp only [if_neg hr, if_neg ha]
      exact twin_pure rfl

/-- `deliver` does the same to daemons that are `Alike`, whatever receiver is there. -/
theorem twin_deliver (dark : Bool) (user : UserId) :
    Twin Eq (deliver h dark user) (deliver h dark user) := by
  refine (twin_modifyManager _).bind_eq fun _ => twin_get_bind fun d z t a j => ?_
  simp only []
  cases d.manager.receiver with
  | none => exact (logs_fail _).twin (logs_fail _)
  | some receiver =>
    refine ((logs_debug _).twin (logs_debug _)).bind_eq fun _ => ?_
    exact twin_receive hl receiver dark user

/-- Whether a status is notified under a policy, and what comes of it, is the same on daemons that
    are `Alike`. -/
theorem twin_notify (dark : Bool) (user : UserId) (policy : NotifyPolicy) :
    Twin Eq (notify h dark user policy) (notify h dark user policy) := by
  cases policy with
  | never => exact twin_pure rfl
  | always => exact twin_deliver hl dark user
  | onChange =>
    refine twin_get_bind fun d z t a j => ?_
    by_cases hlast : d.manager.lastStatus.get? user = some dark
    · simp only [if_pos hlast]
      exact (logs_debug _).twin (logs_debug _)
    · simp only [if_neg hlast]
      exact twin_deliver hl dark user

/-! ### Resolving states -/

/-- Resolutions to the same status, whatever came of arming the alarms. -/
def SameStatus (r r' : Resolution) : Prop := r.dark? = r'.dark?

/-- A window is resolved from the clock whether or not its alarms could be armed. -/
theorem twin_resolveWindow (request : ScheduleRequest) :
    Twin SameStatus (resolveWindow h request) (resolveWindow h request) := by
  have hrequest := reschedules_scheduleRequest hl request
  have hsched := hrequest.twin hrequest
  have hinside : ∀ outcome outcome', Twin SameStatus
      (do pure (.status (← isInside request.window) outcome))
      (do pure (.status (← isInside request.window) outcome')) := fun _ _ =>
    twin_get_bind fun d z t a j => twin_pure rfl
  refine hsched.bind fun outcome outcome' _ => ?_
  -- the outcomes may differ, and then the logs; the statuses do not
  cases outcome with
  | ok _ =>
    cases outcome' with
    | ok _ => exact hinside _ _
    | error f' => exact (hinside _ _).logs_right (logs_warn _)
  | error f =>
    cases outcome' with
    | ok _ => exact (hinside _ _).logs_left (logs_warn _)
    | error f' => exact ((hinside _ _).logs_left (logs_warn _)).logs_right (logs_warn _)

/-- Resolving a state finds the `SameStatus` on daemons that are `Alike`, whatever comes of arming
    the alarms there. -/
theorem twin_resolve (user : UserId) (state : DarkModeState) :
    Twin SameStatus (resolve h user state) (resolve h user state) := by
  have hdrop := (reschedules_dropTimers hl user).twin (reschedules_dropTimers hl user)
  unfold resolve
  cases state.mode with
  | alwaysLight => exact hdrop.bind fun _ _ _ => twin_pure rfl
  | alwaysDark => exact hdrop.bind fun _ _ _ => twin_pure rfl
  | customWindow =>
    by_cases hv : state.window.valid = true
    · simp only [if_pos hv]
      exact twin_resolveWindow hl _
    · simp only [if_neg hv]
      exact hdrop.bind fun _ _ _ => twin_pure rfl
  | invalid => exact ((logs_debug _).twin (logs_debug _)).bind_eq fun _ => twin_pure rfl

/-- `finish` notifies the same status on both sides where the resolutions have it, though they may
    answer differently. -/
theorem twin_finish (user : UserId) (policy : NotifyPolicy) {r r' : Resolution}
    (hr : SameStatus r r') :
    Twin (fun _ _ => True) (finish h user r policy) (finish h user r' policy) := by
  unfold finish
  rw [show r'.dark? = r.dark? from hr.symm]
  cases r.dark? with
  | none => exact twin_pure trivial
  | some dark => exact (twin_notify hl dark user policy).bind_eq fun _ => twin_pure trivial

/-! ### States of users -/

omit hl in
/-- The settings are the same, so `readState` reads the same state. -/
theorem twin_readState (user : UserId) : Twin Eq (readState user) (readState user) :=
  twin_of_read (fun d => readState_on user d) fun _ _ ha => by rw [ha.settings]

omit hl in
/-- The state of a user is the same, be it there already or the default one. -/
theorem twin_stateOrDefault (user : UserId) :
    Twin Eq (stateOrDefault user) (stateOrDefault user) := by
  rintro d d' ⟨z, t, a, j, rfl⟩
  exact ⟨rfl, z, t, a, j, rfl⟩

/-- Loading a user leaves daemons `Alike`; only the answers may differ, by the faults of the alarms.
    -/
theorem twin_loadWith (user : UserId) (policy : NotifyPolicy) :
    Twin (fun _ _ => True) (loadWith h user policy) (loadWith h user policy) := by
  have htake : ∀ state, Twin SameStatus (takeState h user state) (takeState h user state) := by
    intro state
    refine (twin_modifyManager _).bind_eq fun _ => ?_
    exact ((logs_info _).twin (logs_info _)).bind_eq fun _ => twin_resolve hl user state
  refine (twin_readState user).bind_eq fun state => ?_
  exact (htake state).bind fun r r' hr => twin_finish hl user policy hr

/-- `reevaluate` does the same to daemons that are `Alike`, though it may answer differently. -/
theorem twin_reevaluate (user : UserId) (notify : Bool) :
    Twin (fun _ _ => True) (reevaluate h user notify) (reevaluate h user notify) := by
  refine (twin_stateOrDefault user).bind_eq fun state => ?_
  exact (twin_resolve hl user state).bind fun r r' hr => twin_finish hl user _ hr

/-- A change of one of the keys of a state is taken over alike, though the timers for it may not be
    armed on both sides. -/
theorem twin_stateSettingChanged (key : StateKey) (user : UserId) :
    Twin Eq (stateSettingChanged h key user) (stateSettingChanged h key user) := by
  have hread : Twin Eq (readChange key user) (readChange key user) :=
    twin_of_read (fun d => readChange_on key user d) fun _ _ ha => by rw [ha.settings]
  have htake : ∀ change, Twin SameStatus (takeChange h user change) (takeChange h user change) := by
    intro change
    refine (twin_stateOrDefault user).bind_eq fun state => ?_
    refine ((logs_reportChange _ _ _).twin (logs_reportChange _ _ _)).bind_eq fun _ => ?_
    exact (twin_modifyManager _).bind_eq fun _ => twin_resolve hl user _
  refine hread.bind_eq fun change => twin_get_bind fun d z t a j => ?_
  by_cases hu : user = d.manager.active
  · simp only [if_pos hu]
    refine (htake change).bind fun r r' hr => (twin_finish hl user .always hr).bind fun e e' _ => ?_
    -- the answers may differ, and are only logged
    exact (logs_reportUnresolved key user e).twin (logs_reportUnresolved key user e')
  · simp only [if_neg hu]
    exact (logs_debug _).twin (logs_debug _)

/-- So is a change of any key, of which the manager heeds those of a state. -/
theorem twin_settingChanged (key : String) (user : UserId) :
    Twin Eq (settingChanged h key user) (settingChanged h key user) := by
  unfold settingChanged
  cases StateKey.ofName? key with
  | none => exact (logs_debug _).twin (logs_debug _)
  | some part => exact twin_stateSettingChanged hl part user

/-! ### Switching users -/

/-- Ask something of the store, which may change it. -/
def askStore {α : Type} (request : SettingsStore → α × SettingsStore) : Act α :=
  modifyGet fun d => ((request d.settings).1, { d with settings := (request d.settings).2 })

omit hl in
/-- The stores are the same, so whatever is asked of them gets the same answer and leaves them the
    same. -/
theorem twin_askStore {α : Type} (request : SettingsStore → α × SettingsStore) :
    Twin Eq (askStore request) (askStore request) := by
  rintro d d' ⟨z, t, a, j, rfl⟩
  exact ⟨rfl, z, t, a, j, rfl⟩

omit hl in
/-- Preparing the store by `prepareStore` succeeds or fails alike. -/
theorem twin_prepareStore : Twin Eq prepareStore prepareStore := by
  refine twin_get_bind fun d z t a j => ?_
  by_cases hr : d.settings.faults.ready = true
  · simp only [if_pos hr]
    exact twin_pure rfl
  · simp only [if_neg hr]
    refine (twin_askStore SettingsStore.bringUp).bind_eq fun result => ?_
    cases result with
    | error f => exact ((logs_fail _).twin (logs_fail _)).bind_eq fun _ => twin_pure rfl
    | ok _ =>
      refine twin_get_bind fun d z t a j => ?_
      by_cases hr : d.settings.faults.ready = true
      · simp only [if_pos hr]
        exact twin_pure rfl
      · simp only [if_neg hr]
        exact ((logs_fail _).twin (logs_fail _)).bind_eq fun _ => twin_pure rfl

omit hl in
/-- Unregistering observers one after another ends alike, since only the store is asked. -/
theorem twin_unobserveAll (user : UserId) (keys : List StateKey) :
    Twin Eq (unobserveAll user keys) (unobserveAll user keys) := by
  induction keys with
  | nil => exact twin_pure rfl
  | cons key rest ih =>
    refine (twin_askStore fun s => s.unobserve key.name user).bind_eq fun result => ?_
    cases result with
    | ok _ => exact ih
    | error f => exact ((logs_warn _).twin (logs_warn _)).bind_eq fun _ => ih

omit hl in
/-- `observeAll` registers the same observers on both sides, and as many calls fail. -/
theorem twin_observeAll (user : UserId) (keys : List StateKey) :
    Twin Eq (observeAll user keys) (observeAll user keys) := by
  induction keys with
  | nil => exact twin_pure rfl
  | cons key rest ih =>
    refine (twin_askStore fun s => s.observe key.name user .manager).bind_eq fun result => ?_
    cases result with
    | ok _ => exact ih
    | error f =>
      refine ((logs_fail _).twin (logs_fail _)).bind_eq fun _ => ?_
      exact ih.bind_eq fun _ => twin_pure rfl

omit hl in
/-- So does exchanging the observers of the active user for those of another one. -/
theorem twin_exchangeObservers (user : UserId) :
    Twin Eq (exchangeObservers user) (exchangeObservers user) := by
  have hdrop : ∀ previous, Twin Eq (unobserveActive previous) (unobserveActive previous) := by
    intro previous
    unfold unobserveActive
    by_cases hp : previous ≠ noUser
    · simp only [if_pos hp]
      refine ((logs_info _).twin (logs_info _)).bind_eq fun _ => ?_
      exact (twin_unobserveAll previous _).bind_eq fun _ => twin_modifyManager _
    · simp only [if_neg hp]
      exact twin_pure rfl
  refine twin_get_bind fun d z t a j => (hdrop _).bind_eq fun _ => ?_
  refine (twin_observeAll user _).bind_eq fun failures => ?_
  exact (twin_modifyManager _).bind_eq fun _ => twin_pure rfl

/-- Retiring a user by `retire` leaves daemons `Alike`: the state is forgotten on both sides, and
    timers may differ anyway. -/
theorem twin_retire (user : UserId) : Twin Eq (retire h user) (retire h user) := by
  have hdrop : Twin Eq (dropTimers h user) (dropTimers h user) := fun d d' ha =>
    ⟨rfl, ha.rescheduled (reschedules_dropTimers hl user d) (reschedules_dropTimers hl user d')⟩
  unfold retire
  by_cases hu : user ≠ noUser
  · rw [if_pos hu]
    exact (twin_modifyManager _).bind_eq fun _ => hdrop
  · rw [if_neg hu]
    exact twin_pure rfl

/-- Activating a user by `activate` leaves daemons `Alike`. -/
theorem twin_activate (user : UserId) : Twin Eq (activate h user) (activate h user) := by
  refine ((logs_info _).twin (logs_info _)).bind_eq fun _ => ?_
  exact (twin_loadWith hl user .onChange).bind fun e e' _ =>
    (logs_reportLoaded user e).twin (logs_reportLoaded user e')

/-- A switch answers alike: what became of the alarms is not among its answers. -/
theorem twin_switchUser (user : UserId) : Twin Eq (switchUser h user) (switchUser h user) := by
  refine twin_prepareStore.bind_eq fun result => ?_
  cases result with
  | error f => exact twin_pure rfl
  | ok _ =>
    refine twin_get_bind fun d z t a j => ?_
    by_cases hr : d.manager.receiver.isNone = true
    · simp only [if_pos hr]
      exact twin_pure rfl
    · simp only [if_neg hr]
      refine (twin_exchangeObservers user).bind_eq fun exchanged => ?_
      refine (twin_retire hl exchanged.1).bind_eq fun _ => ?_
      by_cases hn : exchanged.2 ≠ 0
      · simp only [if_pos hn]
        exact twin_pure rfl
      · simp only [if_neg hn]
        exact (twin_activate hl user).bind_eq fun _ => twin_pure rfl

/-! ### Settings -/

/-- Announcing a value tells the same observer on both sides, who does alike. -/
theorem twin_announce (key : String) (user : UserId) :
    Twin Eq (announce h key user) (announce h key user) := by
  refine twin_get_bind fun d z t a j => ?_
  simp only []
  cases d.settings.observers.get? (key, user) with
  | none => exact twin_pure rfl
  | some observer =>
    obtain ⟨told, action⟩ := observer
    -- a callback notes the same; the manager changes what is alike alike
    cases action with
    | manager => exact twin_settingChanged hl told user
    | script label steps =>
      have hnote : Twin Eq (note (.changed label told user)) (note (.changed label told user)) := by
        refine twin_modify ?_
        rintro d d' ⟨z, t, a, j, rfl⟩
        exact ⟨z, t, a, j, rfl⟩
      refine hnote.bind_eq fun _ => ?_
      rw [hl.run]
      exact twin_pure rfl

/-- Storing a value succeeds or fails alike, since the files and the store are the same, and is
    announced alike. -/
theorem twin_putSetting (key value : String) (user : UserId) :
    Twin Eq (putSetting h key value user) (putSetting h key value user) := by
  -- the settings and the files are the same on both sides, and so is what is written
  have hstore : Twin Eq (storeSetting key value user) (storeSetting key value user) := by
    rintro d d' ⟨z, t, a, j, rfl⟩
    unfold storeSetting storeSettingBy
    simp only [Act.on_modifyGet]
    cases d.settings.file with
    | none => exact ⟨rfl, z, t, a, j, rfl⟩
    | some path =>
      simp only []
      generalize d.files.replace path
        (SettingsTable.write (d.settings.values.put key value user)) = replaced
      obtain ⟨r, fs⟩ := replaced
      cases r with
      | error problem => exact ⟨rfl, z, t, a, j, rfl⟩
      | ok _ => exact ⟨rfl, z, t, a, j, rfl⟩
  refine twin_get_bind fun d z t a j => ?_
  by_cases hf : d.settings.faults.failsSet key = true
  · simp only [if_pos hf]
    exact twin_pure rfl
  · simp only [if_neg hf]
    refine hstore.bind_eq fun result => ?_
    cases result with
    | error f => exact twin_pure rfl
    | ok _ => exact (twin_announce hl key user).bind_eq fun _ => twin_pure rfl

/-- `announceAll` does the same to daemons that are `Alike`. By induction on the changes. -/
theorem twin_announceAll (changes : List (String × UserId)) :
    Twin Eq (announceAll h changes) (announceAll h changes) := by
  induction changes with
  | nil => exact twin_pure rfl
  | cons change rest ih =>
    obtain ⟨key, user⟩ := change
    refine ((logs_debug _).twin (logs_debug _)).bind_eq fun _ => ?_
    exact (twin_announce hl key user).bind_eq fun _ => ih

/-- A rewritten file is read and taken over alike, and what changed is announced alike, in any
    order. -/
theorem twin_rewriteSettings (files : FileSystem)
    (order : List (String × UserId) → List (String × UserId)) :
    Twin Eq (rewriteSettings h files order) (rewriteSettings h files order) := by
  have hfiles : Twin Eq (modify fun d : Daemon => { d with files := files })
      (modify fun d : Daemon => { d with files := files }) := by
    refine twin_modify ?_
    rintro d d' ⟨z, t, a, j, rfl⟩
    exact ⟨z, t, a, j, rfl⟩
  have htake : ∀ path, Twin Eq (takeFile path) (takeFile path) := by
    intro path
    refine twin_get_bind fun d z t a j => ?_
    simp only []
    cases readSettings? d.files path with
    | error f => exact twin_pure rfl
    | ok reading =>
      refine ((logs_warnIgnored _).twin (logs_warnIgnored _)).bind_eq fun _ => ?_
      exact twin_askStore fun s =>
        (Except.ok (s.replaceAll reading.table).1, (s.replaceAll reading.table).2)
  refine hfiles.bind_eq fun _ => twin_get_bind fun d z t a j => ?_
  simp only []
  cases d.settings.file with
  | none => exact twin_pure rfl
  | some path =>
    -- the same changes are found on both sides, so the same ones are announced
    have hreload : Twin Eq (reloadIn order h path) (reloadIn order h path) := by
      refine (htake path).bind_eq fun result => ?_
      cases result with
      | error f => exact twin_pure rfl
      | ok changes => exact (twin_announceAll hl _).bind_eq fun _ => twin_pure rfl
    exact hreload.bind_eq fun _ => twin_pure rfl

/-- An observed status is reconciled alike: the stored mode is the same, and so is what is written
    in its place. -/
theorem twin_reconcile (user : UserId) (dark : Bool) :
    Twin Eq (reconcile h user dark) (reconcile h user dark) := by
  refine twin_get_bind fun d z t a j => ?_
  simp only []
  by_cases hfixed : (!((d.manager.states.get? user).getD {}).mode.isFixed ||
      decide (((d.manager.states.get? user).getD {}).mode = Mode.fixed dark)) = true
  · simp only [if_pos hfixed]
    refine ((logs_debug _).twin (logs_debug _)).bind_eq fun _ => ?_
    exact (twin_modifyManager _).bind_eq fun _ => twin_pure rfl
  · simp only [if_neg hfixed]
    refine ((logs_info _).twin (logs_info _)).bind_eq fun _ => ?_
    refine (twin_putSetting hl _ _ user).bind_eq fun result => ?_
    cases result with
    | error f => exact twin_pure rfl
    | ok _ => exact (twin_modifyManager _).bind_eq fun _ => twin_pure rfl

/-! ### Restarting -/

/-- Restarting may fail on one side only, which is warned of and answered, and no more. -/
theorem twin_resync : Twin (fun _ _ => True) (resync h) (resync h) := by
  have hrestart : (restart h noUser).Reschedules := reschedules_restartAll hl
  -- the status comes from the state and the clock, not from the timers
  have hnotify : ∀ r r', Twin (fun _ _ => True) (notifyActive h r) (notifyActive h r') := by
    intro r r'
    refine twin_get_bind fun d z t a j => ?_
    rw [show activeWindowStatus? { d with zone := z, timers := t, alarms := a, journal := j } =
      d.activeWindowStatus? from rfl]
    cases d.activeWindowStatus? with
    | none => exact twin_pure trivial
    | some dark => exact (twin_notify hl dark _ .onChange).bind_eq fun _ => twin_pure trivial
  refine (hrestart.twin hrestart).bind fun r r' _ => ?_
  -- restarting may fail on either side, and only a line tells of it
  cases r with
  | ok _ =>
    cases r' with
    | ok _ => exact hnotify _ _
    | error f' => exact (hnotify _ _).logs_right (logs_warn _)
  | error f =>
    cases r' with
    | ok _ => exact (hnotify _ _).logs_left (logs_warn _)
    | error f' => exact ((hnotify _ _).logs_left (logs_warn _)).logs_right (logs_warn _)

end

end Daemon

end Twilight
