import Twilight.Proofs.Daemon.Users

namespace Twilight

/-!
# Switching the active user

* `Daemon.Observed` — how far a daemon can differ from another one in what is observed.
* `Daemon.Retired` — a user who is no longer active was forgotten.
* `Daemon.switchUser_cases` — all that a switch can do, whatever fails.
* `Daemon.switchUser_of_faultless` — without faults, it does all of that.
-/

namespace Daemon

variable {lossy : Prop} {h : Hooks} {d d₁ d₂ : Daemon}

/-- The daemon with something that receives the statuses. -/
def withReceiver (d : Daemon) (r : Receiver) : Daemon :=
  { d with manager := { d.manager with receiver := some r } }

/-- Installing a receiver puts it in the place of the one before, and logs a line. -/
theorem install_on (r : Receiver) (d : Daemon) :
    ∃ j, (install r).on d = ((), { d.withReceiver r with journal := j }) := ⟨_, rfl⟩

/-! ### Observing users -/

/-- `d₁` is `d` but for the observers, what the store says about its faults, and whose settings
    are observed. -/
def Observed (d d₁ : Daemon) : Prop :=
  ∃ o f a b j, d₁ = { d with
    settings := { d.settings with observers := o, faults := f }
    manager := { d.manager with active := a, allRegistered := b }
    journal := j }

namespace Observed

theorem trans (h₁ : Observed d d₁) (h₂ : Observed d₁ d₂) : Observed d d₂ := by
  obtain ⟨_, _, _, _, _, rfl⟩ := h₁
  obtain ⟨o, f, a, b, j, rfl⟩ := h₂
  exact ⟨o, f, a, b, j, rfl⟩

variable (ho : Observed d d₁)
include ho

theorem zone : d₁.zone = d.zone := by obtain ⟨_, _, _, _, _, rfl⟩ := ho; rfl
theorem clock : d₁.clock = d.clock := by obtain ⟨_, _, _, _, _, rfl⟩ := ho; rfl
theorem timers : d₁.timers = d.timers := by obtain ⟨_, _, _, _, _, rfl⟩ := ho; rfl
theorem alarms : d₁.alarms = d.alarms := by obtain ⟨_, _, _, _, _, rfl⟩ := ho; rfl
theorem values : d₁.settings.values = d.settings.values := by
  obtain ⟨_, _, _, _, _, rfl⟩ := ho; rfl
theorem file : d₁.settings.file = d.settings.file := by
  obtain ⟨_, _, _, _, _, rfl⟩ := ho; rfl
theorem states : d₁.manager.states = d.manager.states := by
  obtain ⟨_, _, _, _, _, rfl⟩ := ho; rfl
theorem lastStatus : d₁.manager.lastStatus = d.manager.lastStatus := by
  obtain ⟨_, _, _, _, _, rfl⟩ := ho; rfl
theorem receiver : d₁.manager.receiver = d.manager.receiver := by
  obtain ⟨_, _, _, _, _, rfl⟩ := ho; rfl
theorem appearance : d₁.appearance = d.appearance := by obtain ⟨_, _, _, _, _, rfl⟩ := ho; rfl
theorem files : d₁.files = d.files := by obtain ⟨_, _, _, _, _, rfl⟩ := ho; rfl

end Observed

/-- Without faults, equal values are served equally. -/
theorem Observed.decoded (ho : Observed d d₁) (hf : d.settings.faults = {})
    (hf₁ : d₁.settings.faults = {}) (user : UserId) :
    d₁.settings.decoded user = d.settings.decoded user :=
  DarkModeState.ext_part fun _ => SettingsStore.decoded_part_congr hf₁ hf (by rw [ho.values])

/-- The manager observes a setting of a user. -/
def Observes (d : Daemon) (user : UserId) (key : StateKey) : Prop :=
  d.settings.observers.get? (key.name, user) = some ⟨key.name, .manager⟩

/-- A store that is ready needs no preparing, so `prepareStore` succeeds and does nothing. -/
theorem prepareStore_of_ready (hr : d.settings.faults.ready = true) :
    prepareStore.on d = (.ok (), d) := by
  unfold prepareStore
  rw [Act.on_get_bind, if_pos hr]
  rfl

/-- The store is ready, or gets ready when it is asked to. -/
def CanPrepare (d : Daemon) : Prop :=
  d.settings.faults.ready = true ∨ d.settings.faults.onInitialize = .becomesReady

/-- Getting the store ready succeeds exactly if it can, and changes nothing but its readiness. -/
theorem prepareStore_cases (d : Daemon) :
    ∃ r b j, prepareStore.on d = (r, { d with
        settings := { d.settings with faults := { d.settings.faults with ready := b } }
        journal := j }) ∧
      (r = .ok () ↔ d.CanPrepare) ∧ ∀ f, r = .error f → f.kind = .notInitialized := by
  by_cases hr : d.settings.faults.ready = true
  · exact ⟨_, _, _, prepareStore_of_ready hr, by simp [CanPrepare, hr], by simp⟩
  · unfold prepareStore
    rw [Act.on_get_bind, if_neg hr]
    simp only [Act.on_bind, Act.on_modifyGet]
    -- bringing the store up gets it ready, or leaves it as it is, or fails
    obtain hi | hi | hi : d.settings.faults.onInitialize = .becomesReady ∨
        d.settings.faults.onInitialize = .staysUnready ∨
        d.settings.faults.onInitialize = .fails := by
      cases d.settings.faults.onInitialize <;> simp
    · have hup : d.settings.bringUp = (.ok (), { d.settings with
          faults := { d.settings.faults with ready := true } }) := by
        unfold SettingsStore.bringUp
        rw [hi]
      rw [hup]
      exact ⟨.ok (), true, d.journal, rfl, by simp [CanPrepare, hi], by simp⟩
    · have hup : d.settings.bringUp = (.ok (), d.settings) := by
        unfold SettingsStore.bringUp
        rw [hi]
      rw [hup]
      simp only []
      rw [Act.on_get_bind, if_neg hr]
      refine ⟨.error .storeNotReady, d.settings.faults.ready, _, rfl,
        by simp [CanPrepare, hr, hi], ?_⟩
      rintro f ⟨⟩
      rfl
    · have hup : d.settings.bringUp = (.error .storeOffline, d.settings) := by
        unfold SettingsStore.bringUp
        rw [hi]
      rw [hup]
      refine ⟨.error (.storeUnavailable .storeOffline), d.settings.faults.ready, _, rfl,
        by simp [CanPrepare, hr, hi], ?_⟩
      rintro f ⟨⟩
      rfl

/-- Observers, all of which were there before unless they are for settings of `user`. -/
def AddedFor (user : UserId) (o o₁ : Table (String × UserId) Observer) : Prop :=
  ∀ p observer, p.2 ≠ user → o₁.get? p = some observer → o.get? p = some observer

namespace AddedFor

variable {user : UserId} {o o₁ o₂ : Table (String × UserId) Observer}

theorem refl (o : Table (String × UserId) Observer) : AddedFor user o o := fun _ _ _ hp => hp

/-- Observers that are added for the same user in two steps are added for this user. -/
theorem trans (h₁ : AddedFor user o o₁) (h₂ : AddedFor user o₁ o₂) : AddedFor user o o₂ :=
  fun p observer hne hp => h₁ p observer hne (h₂ p observer hne hp)

/-- Removing an observer by `erase` adds none for anybody. -/
theorem erase (q : String × UserId) : AddedFor user o (o.erase q) := by
  intro p observer _ hp
  rw [Table.get?_erase] at hp
  by_cases hq : p = q
  · rw [if_pos hq] at hp
    contradiction
  · rwa [if_neg hq] at hp

/-- Adding an observer for a setting of the user is what `AddedFor` allows. -/
theorem insert (key : String) (added : Observer) :
    AddedFor user o (o.insert (key, user) added) := by
  intro p observer hne hp
  rwa [Table.get?_insert_of_ne] at hp
  rintro rfl
  exact hne rfl

end AddedFor

/-- A name of a setting and a user stand for one setting: the names are different. -/
theorem name_pair_inj {key other : StateKey} {user user' : UserId} :
    (key.name, user) = (other.name, user') ↔ key = other ∧ user = user' := by
  constructor
  · intro heq
    obtain ⟨hname, huser⟩ := Prod.mk.inj heq
    have hkey := congrArg StateKey.ofName? hname
    rw [StateKey.ofName?_name, StateKey.ofName?_name] at hkey
    exact ⟨Option.some.inj hkey, huser⟩
  · rintro ⟨rfl, rfl⟩
    rfl

/-- The daemon with the observer of a setting gone. -/
def unobserving (d : Daemon) (user : UserId) (key : StateKey) : Daemon :=
  { d with settings := { d.settings with
    observers := d.settings.observers.erase (key.name, user) } }

/-- The daemon with the manager observing a setting, by the key that the store tells it. -/
def observing (d : Daemon) (user : UserId) (key : StateKey) : Daemon :=
  { d with settings := { d.settings with
    observers := d.settings.observers.insert (key.name, user)
      ⟨d.settings.faults.toldKey.getD key.name, .manager⟩ } }

section

variable (user : UserId) {key : StateKey}

/-- Where the store refuses to unregister the first observer, `unobserveAll` logs a line and goes
    on. -/
theorem unobserveAll_cons_of_fails (hf : d.settings.faults.failsUnregister key.name = true)
    (rest : List StateKey) :
    ∃ j, (unobserveAll user (key :: rest)).on d =
      (unobserveAll user rest).on { d with journal := j } := by
  obtain ⟨j, hj⟩ := Act.logs_warn
    s!"Failed to unregister '{key.name}' for user {user}: {Fault.storeOffline.message}" d
  refine ⟨j, ?_⟩
  rw [unobserveAll]
  simp only [Act.on_bind, Act.on_modifyGet, SettingsStore.unobserve, if_pos hf, hj]

/-- Where the store does not refuse it, unregistering the observer of the first key removes it, and
    the others follow. -/
theorem unobserveAll_cons (hf : ¬ d.settings.faults.failsUnregister key.name = true)
    (rest : List StateKey) :
    (unobserveAll user (key :: rest)).on d =
      (unobserveAll user rest).on (d.unobserving user key) := by
  rw [unobserveAll]
  simp only [Act.on_bind, Act.on_modifyGet, SettingsStore.unobserve, if_neg hf]
  rfl

/-- Where the store refuses to register the first observer, `observeAll` counts that, logs a line
    and goes on. -/
theorem observeAll_cons_of_fails (hf : d.settings.faults.failsRegister key.name = true)
    (rest : List StateKey) :
    ∃ j, (observeAll user (key :: rest)).on d =
      (((observeAll user rest).on { d with journal := j }).1 + 1,
        ((observeAll user rest).on { d with journal := j }).2) := by
  obtain ⟨j, hj⟩ := Act.logs_fail
    s!"Failed to observe '{key.name}' for user {user}: {Fault.storeOffline.message}" d
  refine ⟨j, ?_⟩
  rw [observeAll]
  simp only [Act.on_bind, Act.on_modifyGet, SettingsStore.observe, if_pos hf, hj, Act.on_pure]

/-- Where the store does not refuse it, registering an observer for the first key puts the manager
    in place, and the others follow. -/
theorem observeAll_cons (hf : ¬ d.settings.faults.failsRegister key.name = true)
    (rest : List StateKey) :
    (observeAll user (key :: rest)).on d = (observeAll user rest).on (d.observing user key) := by
  rw [observeAll]
  simp only [Act.on_bind, Act.on_modifyGet, SettingsStore.observe, if_neg hf]
  rfl

end

/-- `unobserveAll` changes the observers only, and adds none. -/
theorem unobserveAll_on (user other : UserId) (keys : List StateKey) (d : Daemon) :
    ∃ o j, ((unobserveAll user keys).on d).2 =
        { d with settings := { d.settings with observers := o }, journal := j } ∧
      AddedFor other d.settings.observers o := by
  induction keys generalizing d with
  | nil => exact ⟨_, _, rfl, .refl _⟩
  | cons key rest ih =>
    by_cases hf : d.settings.faults.failsUnregister key.name = true
    · obtain ⟨j, he⟩ := unobserveAll_cons_of_fails user hf rest
      rw [he]
      exact ih { d with journal := j }
    · rw [unobserveAll_cons user hf]
      obtain ⟨o, j, he, ho⟩ := ih (d.unobserving user key)
      exact ⟨o, j, he, (AddedFor.erase _).trans ho⟩

/-- Registering observers for a user changes the observers only, and adds none for anybody else. -/
theorem observeAll_on (user : UserId) (keys : List StateKey) (d : Daemon) :
    ∃ o j, ((observeAll user keys).on d).2 =
        { d with settings := { d.settings with observers := o }, journal := j } ∧
      AddedFor user d.settings.observers o := by
  induction keys generalizing d with
  | nil => exact ⟨_, _, rfl, .refl _⟩
  | cons key rest ih =>
    by_cases hf : d.settings.faults.failsRegister key.name = true
    · obtain ⟨j, he⟩ := observeAll_cons_of_fails user hf rest
      rw [he]
      exact ih { d with journal := j }
    · rw [observeAll_cons user hf]
      obtain ⟨o, j, he, ho⟩ := ih (d.observing user key)
      exact ⟨o, j, he, (AddedFor.insert _ _).trans ho⟩

/-- A store without faults tells the manager the key that it observes, so that by `observing` one
    more setting is observed. -/
theorem observes_observing (hf : d.settings.faults = {}) (user : UserId) (first key : StateKey) :
    (d.observing user first).Observes user key ↔ key = first ∨ d.Observes user key := by
  have htold : d.settings.faults.toldKey = none := by rw [hf]
  unfold Observes observing
  simp only [htold, Option.getD_none]
  rw [Table.get?_insert]
  by_cases hk : key = first
  · rw [if_pos (name_pair_inj.2 ⟨hk, rfl⟩), hk]
    simp
  · rw [if_neg fun heq => hk (name_pair_inj.1 heq).1]
    simp [hk]

/-- Without faults `observeAll` registers all observers, and those of other settings stay. -/
theorem observeAll_of_faultless (user : UserId) (keys : List StateKey)
    (hf : d.settings.faults = {}) :
    ((observeAll user keys).on d).1 = 0 ∧
      ∀ key, key ∈ keys ∨ d.Observes user key →
        ((observeAll user keys).on d).2.Observes user key := by
  induction keys generalizing d with
  | nil => exact ⟨rfl, fun key hkey => hkey.resolve_left (by simp)⟩
  | cons first rest ih =>
    -- the first observer is in before the others are registered
    have hreg : ¬ d.settings.faults.failsRegister first.name = true := by simp [hf]
    rw [observeAll_cons user hreg]
    obtain ⟨hzero, hall⟩ := ih (d := d.observing user first) hf
    refine ⟨hzero, fun key hkey => hall key ?_⟩
    rw [observes_observing hf]
    rcases hkey with hmem | hobs
    · rcases List.mem_cons.1 hmem with heq | hmem
      · exact .inr (.inl heq)
      · exact .inl hmem
    · exact .inr (.inr hobs)

/-- Unregistering the observers of the active user changes what `Observed` allows, and adds none. -/
theorem unobserveActive_on (previous user : UserId) (d : Daemon) :
    ∃ o a b j, ((unobserveActive previous).on d).2 = { d with
        settings := { d.settings with observers := o }
        manager := { d.manager with active := a, allRegistered := b }
        journal := j } ∧
      AddedFor user d.settings.observers o := by
  unfold unobserveActive
  by_cases hp : previous ≠ noUser
  · obtain ⟨j, hj⟩ := Act.logs_info s!"Clearing timers and observers for user {previous}" d
    obtain ⟨o, j₁, he, ho⟩ := unobserveAll_on previous user StateKey.all { d with journal := j }
    rw [if_pos hp]
    simp only [Act.on_bind, hj, he, modifyManager, Act.on_modify]
    -- nobody is active until the new observers are in
    exact ⟨o, noUser, false, j₁, rfl, ho⟩
  · rw [if_neg hp]
    exact ⟨_, _, _, _, rfl, .refl _⟩

/-- `exchangeObservers` observes a user in the place of the active one, who is answered. Without
    faults all of the user's settings are observed. -/
theorem exchangeObservers_on (user : UserId) (d : Daemon) :
    ∃ n d₀, (exchangeObservers user).on d = ((d.manager.active, n), d₀) ∧ Observed d d₀ ∧
      d₀.manager.active = user ∧ d₀.settings.faults = d.settings.faults ∧
      AddedFor user d.settings.observers d₀.settings.observers ∧
      (d.settings.faults = {} → n = 0 ∧ ∀ key, d₀.Observes user key) := by
  obtain ⟨o, a, b, j, he, ho⟩ := unobserveActive_on d.manager.active user d
  obtain ⟨o₁, j₁, he₁, ho₁⟩ := observeAll_on user StateKey.all { d with
    settings := { d.settings with observers := o }
    manager := { d.manager with active := a, allRegistered := b }
    journal := j }
  -- all are registered if nothing fails
  have hall := fun hf => observeAll_of_faultless user StateKey.all (d := { d with
    settings := { d.settings with observers := o }
    manager := { d.manager with active := a, allRegistered := b }
    journal := j }) hf
  rw [he₁] at hall
  unfold exchangeObservers
  rw [Act.on_get_bind]
  simp only [Act.on_bind, he, he₁, modifyManager, Act.on_modify, Act.on_pure]
  refine ⟨_, _, rfl, ⟨o₁, _, user, _, j₁, rfl⟩, rfl, rfl, ho.trans ho₁,
    fun hf => ⟨(hall hf).1, fun key => ?_⟩⟩
  exact (hall hf).2 key (.inl (StateKey.mem_all key))

/-! ### Forgetting users -/

/-- `d₁` is `d` after a user who is no longer active was forgotten, if there was one. -/
inductive Retired (lossy : Prop) (user : UserId) (d d₁ : Daemon) : Prop
  | nobody (nobody : user = noUser) (same : d₁ = d)
  | forgotten (somebody : user ≠ noUser) (cleared : Cleared lossy user (d.withoutState user) d₁)

/-- Retiring a user by `retire` forgets their state and clears their timers, unless it stands for
    nobody. -/
theorem retire_on (hl : h.Losing lossy) (hc : d.alarms.Cancels) (user : UserId) :
    Retired lossy user d ((retire h user).on d).2 := by
  unfold retire
  by_cases hu : user ≠ noUser
  · rw [if_pos hu]
    exact .forgotten hu (dropTimers_on (d := d.withoutState user) hl hc user)
  · rw [if_neg hu]
    exact .nobody (not_not.1 hu) rfl

namespace Retired

variable {user : UserId}

/-- A user who was `Retired` leaves the plans for failing calls as they are. -/
theorem plans (hr : Retired lossy user d d₁) : d.alarms.SamePlans d₁.alarms := by
  cases hr with
  | nobody _ same =>
    rw [same]
    exact .refl _
  | forgotten _ cleared => exact cleared.plans

/-- After a user was `Retired` each pending alarm still belongs to a record, those of the user being
    gone. -/
theorem soundTimers (hr : Retired lossy user d d₁) (hs : SoundTimers d) : SoundTimers d₁ := by
  cases hr with
  | nobody _ same =>
    rw [same]
    exact hs
  | forgotten _ cleared =>
    have hwithout : SoundTimers (d.withoutState user) :=
      hs.congr rfl rfl
    exact hwithout.cleared cleared

/-- But for a user's state, their timers, the alarms and the journal nothing changes. -/
theorem eq (hr : Retired lossy user d d₁) :
    ∃ s t a j, d₁ = { d with
      manager := { d.manager with states := s }, timers := t, alarms := a, journal := j } := by
  cases hr with
  | nobody _ same => exact ⟨_, _, _, _, same⟩
  | forgotten _ cleared =>
    obtain ⟨t, a, j, rfl⟩ := cleared.rescheduled
    exact ⟨_, t, a, j, rfl⟩

end Retired

/-! ### Switching -/

/-- Log what came of loading the user who became active. -/
def reportLoaded (user : UserId) (answer : Except Fault Bool) : Act Unit :=
  match answer with
  | .ok dark => debug s!"User {user} resolves to {statusWord dark}"
  | .error f =>
    if f.kind = .operationInvalid then debug s!"User {user} has no dark mode configured"
    else warn s!"Loading settings for user {user} incomplete: {f.message}"

/-- `reportLoaded` adds lines to the journal only. -/
theorem logs_reportLoaded (user : UserId) (answer : Except Fault Bool) :
    (reportLoaded user answer).Logs := by
  cases answer with
  | ok dark => exact Act.logs_debug _
  | error f =>
    unfold reportLoaded
    by_cases hk : f.kind = .operationInvalid
    · simp only [if_pos hk]
      exact Act.logs_debug _
    · simp only [if_neg hk]
      exact Act.logs_warn _

/-- Activating a user settles the state that the store serves for them, and notifies its status if
    it is another one than the last. -/
theorem activate_on (hl : h.Losing lossy) (hc : d.alarms.Cancels) (user : UserId) :
    Settled lossy user (d.settings.decoded user) .onChange d ((activate h user).on d).2 := by
  obtain ⟨j, hj⟩ := Act.logs_info s!"Active user is now {user}" d
  have hload := loadWith_on (d := { d with journal := j }) hl hc user .onChange
  unfold activate
  simp only [Act.on_bind, hj]
  exact .of_logged ⟨j, rfl⟩ (hload.logged (logs_reportLoaded user _ _))

/-- All that a switch can come to: the store or the manager is not ready for it, or some observers
    could not be registered and nothing is loaded, or the user's state is settled as the store
    serves it. The user who was active before is forgotten in both of the latter cases. -/
inductive Switched (lossy : Prop) (user : UserId) (d : Daemon) : Except Fault Unit × Daemon → Prop
  | refused (f : Fault) (d₁ : Daemon)
    (reason : d.settings.faults ≠ {} ∨ d.manager.receiver = none) (observed : Observed d d₁) :
    Switched lossy user d (.error f, d₁)
  | unloaded (f : Fault) (d₀ d₁ : Daemon) (reason : d.settings.faults ≠ {})
    (observed : Observed d d₀) (retired : Retired lossy d.manager.active d₀ d₁) :
    Switched lossy user d (.error f, d₁)
  | loaded (d₀ d₁ d₂ : Daemon) (observed : Observed d d₀) (active : d₀.manager.active = user)
    (added : AddedFor user d.settings.observers d₀.settings.observers)
    (faultless : d.settings.faults = {} →
      d₀.settings.faults = {} ∧ ∀ key, d₀.Observes user key)
    (retired : Retired lossy d.manager.active d₀ d₁)
    (settled : Settled lossy user (d₁.settings.decoded user) .onChange d₁ d₂) :
    Switched lossy user d (.ok (), d₂)

/-- A switch of a manager that has a receiver, with the store ready. -/
theorem switchUser_of_ready (hl : h.Losing lossy) (hc : d.alarms.Cancels) (user : UserId)
    (hp : prepareStore.on d = (.ok (), d₁)) (hobs : Observed d d₁)
    (hf : d.settings.faults = {} → d₁ = d) (hr : ¬ d₁.manager.receiver.isNone = true)
    (hact : d₁.manager.active = d.manager.active)
    (hkept : d₁.settings.observers = d.settings.observers) :
    Switched lossy user d ((switchUser h user).on d) := by
  obtain ⟨n, d₂, he, hobs₁, hactive, hfaults, hadded, hall⟩ := exchangeObservers_on user d₁
  have hobs₂ := hobs.trans hobs₁
  have hc₂ : d₂.alarms.Cancels := by rw [hobs₂.alarms]; exact hc
  have hret := retire_on hl hc₂ d.manager.active
  unfold switchUser
  rw [Act.on_bind, hp]
  simp only []
  rw [Act.on_get_bind, if_neg hr]
  simp only [Act.on_bind, he, hact]
  by_cases hn : n ≠ 0
  · rw [if_pos hn]
    refine .unloaded _ d₂ _ (fun hd => hn ?_) hobs₂ hret
    exact (hall (by rw [hf hd, hd])).1
  · rw [if_neg hn]
    refine .loaded d₂ _ _ hobs₂ hactive (hkept ▸ hadded) (fun hd => ?_) hret
      (activate_on hl (hret.plans.cancels hc₂) user)
    have hd₁ : d₁.settings.faults = {} := by rw [hf hd, hd]
    exact ⟨hfaults.trans hd₁, (hall hd₁).2⟩

/-- A switch fails by `prepareStore` where the store does not get ready, and does nothing else. -/
theorem switchUser_of_unprepared (user : UserId) {f : Fault}
    (hp : prepareStore.on d = (.error f, d₁)) : (switchUser h user).on d = (.error f, d₁) := by
  unfold switchUser
  rw [Act.on_bind, hp]
  rfl

/-- A switch is refused with `observersMissing` where the manager has no receiver. -/
theorem switchUser_of_no_receiver (user : UserId) (hp : prepareStore.on d = (.ok (), d₁))
    (hr : d₁.manager.receiver.isNone = true) :
    (switchUser h user).on d = (.error .observersMissing, d₁) := by
  unfold switchUser
  rw [Act.on_bind, hp]
  simp only []
  rw [Act.on_get_bind, if_pos hr]
  rfl

/-- All that a switch can come to is what `Switched` lists. The cases are those of `switchUser`,
    stage by stage. -/
theorem switchUser_cases (hl : h.Losing lossy) (hc : d.alarms.Cancels) (user : UserId) :
    Switched lossy user d ((switchUser h user).on d) := by
  obtain ⟨r, b, j, he, _, _⟩ := prepareStore_cases d
  generalize { d.settings.faults with ready := b } = f at he
  have hobs : Observed d { d with settings := { d.settings with faults := f }, journal := j } :=
    ⟨_, f, _, _, j, rfl⟩
  -- a store without faults is ready, and then nothing is done to it
  have hf : d.settings.faults = {} →
      (r, ({ d with settings := { d.settings with faults := f }, journal := j } : Daemon)) =
        (.ok (), d) := by
    intro hf
    rw [← he]
    exact prepareStore_of_ready (by rw [hf])
  cases r with
  | error fault =>
    have hno : d.settings.faults ≠ {} := fun hd => by
      have := congrArg Prod.fst (hf hd)
      contradiction
    rw [switchUser_of_unprepared user he]
    exact .refused fault _ (.inl hno) hobs
  | ok _ =>
    by_cases hr : d.manager.receiver.isNone = true
    · rw [switchUser_of_no_receiver user he hr]
      exact .refused _ _ (.inr (Option.isNone_iff_eq_none.1 hr)) hobs
    · exact switchUser_of_ready hl hc user he hobs (fun hd => congrArg Prod.snd (hf hd)) hr rfl
        rfl

/-- Without faults, and with a receiver, `switchUser` succeeds. Its stages are the exchange of
    observers, retiring the user before, and activating the new one. -/
theorem switchUser_of_faultless (hl : h.Losing lossy) (hc : d.alarms.Cancels) (user : UserId)
    (hf : d.settings.faults = {}) (hr : d.manager.receiver ≠ none) :
    ∃ d₀ d₁ d₂, (switchUser h user).on d = (.ok (), d₂) ∧ Observed d d₀ ∧
      d₀.manager.active = user ∧ d₀.settings.faults = {} ∧
      AddedFor user d.settings.observers d₀.settings.observers ∧
      (∀ key, d₀.Observes user key) ∧ Retired lossy d.manager.active d₀ d₁ ∧
      Settled lossy user (d₁.settings.decoded user) .onChange d₁ d₂ := by
  have hcases := switchUser_cases hl hc user
  generalize (switchUser h user).on d = switched at hcases ⊢
  cases hcases with
  | refused f d₁ reason _ => exact absurd (reason.resolve_left fun h => h hf) hr
  | unloaded f d₀ d₁ reason _ _ => exact absurd hf reason
  | loaded d₀ d₁ d₂ hobs hactive hadded hfaultless hret hset =>
    obtain ⟨hf₀, hall⟩ := hfaultless hf
    exact ⟨d₀, d₁, d₂, rfl, hobs, hactive, hf₀, hadded, hall, hret, hset⟩

end Daemon

end Twilight
