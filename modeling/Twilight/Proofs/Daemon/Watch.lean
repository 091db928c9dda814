import Mathlib.Tactic.Tauto
import Twilight.Proofs.Daemon.Course
import Twilight.Proofs.Daemon.Frames

namespace Twilight

/-!
# Who is watched

* `Daemon.SameWatch` — the same user is active, and the same settings are observed.
* `Daemon.sameWatch_perform` — nothing but a switch of users changes that, whatever fails.
* `Daemon.Holds` — the store holds an observer of one of a user's settings.
* `Daemon.holds_unobserveAll`, `Daemon.holds_observeAll` — how registering and unregistering
  observers changes that.
* `Daemon.Watched` — the observers held are those of the active user, and a switch keeps it so.
* `Daemon.CanSwitch`, `Daemon.switchUser_stages` — what a switch needs in order not to be refused at
  once, and the stages that it has then.
* `Daemon.installed_of_run` — while the store does not fail, nobody is active without a receiver.
-/

namespace Daemon

variable {lossy : Prop} {h : Hooks} {d d₁ d₂ : Daemon}

/-! ### The same watch -/

/-- The same user is active, the same settings are observed, and the same calls on the store fail. A
    receiver that was installed is still there, or another one is. -/
structure SameWatch (d d₁ : Daemon) : Prop where
  observers : d₁.settings.observers = d.settings.observers
  faults : d₁.settings.faults = d.settings.faults
  active : d₁.manager.active = d.manager.active
  allRegistered : d₁.manager.allRegistered = d.manager.allRegistered
  receiver : d.manager.receiver ≠ none → d₁.manager.receiver ≠ none

namespace SameWatch

theorem refl (d : Daemon) : SameWatch d d := ⟨rfl, rfl, rfl, rfl, id⟩

theorem trans (h₁ : SameWatch d d₁) (h₂ : SameWatch d₁ d₂) : SameWatch d d₂ :=
  ⟨h₂.observers.trans h₁.observers, h₂.faults.trans h₁.faults, h₂.active.trans h₁.active,
    h₂.allRegistered.trans h₁.allRegistered, h₂.receiver ∘ h₁.receiver⟩

end SameWatch

/-- A daemon that was `Rescheduled` is under the `SameWatch`, as alarms and records are no part of
    it. -/
theorem Rescheduled.sameWatch (hr : Rescheduled d d₁) : SameWatch d d₁ := by
  obtain ⟨_, _, _, rfl⟩ := hr
  exact ⟨rfl, rfl, rfl, rfl, id⟩

/-- A daemon that `Delivered` a status is under the `SameWatch`. -/
theorem Delivered.sameWatch (hd : Delivered d d₁) : SameWatch d d₁ := by
  obtain ⟨_, _, _, _, _, _, rfl⟩ := hd
  exact ⟨rfl, rfl, rfl, rfl, id⟩

/-- The action keeps the watch. -/
def Watches {α : Type} (act : Act α) : Prop := ∀ d, SameWatch d (act.on d).2

/-- `SameWatch` is a `Frame`: what keeps the watch step by step keeps it as a whole. -/
theorem frame_sameWatch : Frame SameWatch where
  trans h₁ h₂ := h₁.trans h₂
  rescheduled hr := hr.sameWatch
  notified hn := hn.delivered.sameWatch
  elsewhere ha := by
    obtain ⟨_, _, _, _, _, _, rfl⟩ := ha
    exact ⟨rfl, rfl, rfl, rfl, id⟩

/-- Remembering a status keeps the watch. -/
theorem sameWatch_remembering (user : UserId) (dark : Bool) (d : Daemon) :
    SameWatch d (d.remembering user dark) := ⟨rfl, rfl, rfl, rfl, id⟩

/-- `reconcile` keeps the watch, whatever it has to correct. -/
theorem watches_reconcile (hl : h.Losing lossy) (user : UserId) (dark : Bool) :
    Watches (reconcile h user dark) := by
  intro d
  obtain ⟨d₀, hsame, he | ⟨f, he⟩⟩ := frame_sameWatch.reconcile_cases hl user dark d
  · rw [he]
    exact hsame.trans (sameWatch_remembering user dark d₀)
  · rw [he]
    exact hsame

/-- Every operation but a switch `Watches`: it leaves the observers and the active user alone. -/
theorem watches_perform (hl : h.Losing lossy) (op : Operation) (hop : ∀ user, op ≠ .switch user) :
    Watches (op.perform h) := by
  cases hframed : op.isFramed with
  | true => exact frame_sameWatch.perform hl op hframed
  | false =>
    cases op with
    | install receiver =>
      have hreceiver : Watches (modifyManager fun m => { m with receiver := some receiver }) :=
        fun _ => ⟨rfl, rfl, rfl, rfl, fun _ => Option.some_ne_none _⟩
      exact frame_sameWatch.bind hreceiver fun _ => frame_sameWatch.of_logs (Act.logs_debug _)
    | switch user => exact absurd rfl (hop user)
    | reconcile user dark =>
      exact frame_sameWatch.bind (watches_reconcile hl user dark) fun _ => frame_sameWatch.pure _
    | _ => contradiction

/-! ### Observers that are held -/

/-- The store holds an observer of one of a user's settings. -/
def Holds (d : Daemon) (key : StateKey) (user : UserId) : Prop :=
  (d.settings.observers.get? (key.name, user)).isSome = true

/-- After `unobserving`, exactly the observer that was taken away is not held any more. -/
theorem holds_unobserving (user : UserId) (first : StateKey) {key : StateKey} {other : UserId} :
    (d.unobserving user first).Holds key other ↔
      d.Holds key other ∧ ¬ (key = first ∧ other = user) := by
  unfold Holds unobserving
  simp only [Table.get?_erase, name_pair_inj]
  by_cases hk : key = first ∧ other = user <;> simp [hk]

/-- After `observing`, exactly the observer that was added is held besides those that were. -/
theorem holds_observing (user : UserId) (first : StateKey) {key : StateKey} {other : UserId} :
    (d.observing user first).Holds key other ↔ d.Holds key other ∨ key = first ∧ other = user := by
  unfold Holds observing
  simp only [Table.get?_insert, name_pair_inj]
  by_cases hk : key = first ∧ other = user <;> simp [hk]

/-- Where no observer refuses to go, those of a user's settings do, and no others. -/
theorem holds_unobserveAll {user : UserId} (keys : List StateKey)
    (hf : ∀ key, d.settings.faults.failsUnregister key = false) {key : StateKey} {other : UserId} :
    ((unobserveAll user keys).on d).2.Holds key other ↔
      d.Holds key other ∧ ¬ (other = user ∧ key ∈ keys) := by
  induction keys generalizing d with
  | nil => simp [unobserveAll]
  | cons first rest ih =>
    have hunreg : ¬ d.settings.faults.failsUnregister first.name = true := by simp [hf]
    rw [unobserveAll_cons user hunreg, ih (d := d.unobserving user first) hf, holds_unobserving,
      List.mem_cons]
    tauto

/-- Those observers are put in that can be registered; the others are counted. -/
theorem holds_observeAll (user : UserId) (keys : List StateKey) (d : Daemon) :
    (((observeAll user keys).on d).1 = 0 ↔
        ∀ key ∈ keys, d.settings.faults.failsRegister key.name = false) ∧
      ∀ key other, ((observeAll user keys).on d).2.Holds key other ↔
        d.Holds key other ∨ other = user ∧ key ∈ keys ∧
          d.settings.faults.failsRegister key.name = false := by
  induction keys generalizing d with
  | nil => exact ⟨by simp [observeAll], fun key other => by simp [observeAll]⟩
  | cons first rest ih =>
    by_cases hf : d.settings.faults.failsRegister first.name = true
    · -- the first one is refused, and nothing but a line comes of it
      obtain ⟨j, he⟩ := observeAll_cons_of_fails user hf rest
      obtain ⟨_, hholds⟩ := ih { d with journal := j }
      rw [he]
      refine ⟨by simp [hf], fun key other => (hholds key other).trans ?_⟩
      have hrefused : ∀ key, d.settings.faults.failsRegister key.name = false → key ≠ first := by
        rintro key hkey rfl
        rw [hf] at hkey
        contradiction
      have hother := hrefused key
      rw [List.mem_cons]
      tauto
    · -- the first one is registered, and the others are beside it
      have hreg : d.settings.faults.failsRegister first.name = false := by simpa using hf
      obtain ⟨hzero, hholds⟩ := ih (d.observing user first)
      rw [observeAll_cons user hf]
      refine ⟨hzero.trans ?_, fun key other => ?_⟩
      · rw [List.forall_mem_cons, and_iff_right hreg]
        rfl
      · rw [hholds key other, holds_observing, List.mem_cons]
        constructor
        · rintro ((hheld | ⟨rfl, rfl⟩) | ⟨rfl, hk, hregister⟩)
          · exact .inl hheld
          · exact .inr ⟨rfl, .inl rfl, hreg⟩
          · exact .inr ⟨rfl, .inr hk, hregister⟩
        · rintro (hheld | ⟨rfl, rfl | hk, hregister⟩)
          · exact .inl (.inl hheld)
          · exact .inl (.inr ⟨rfl, rfl⟩)
          · exact .inr ⟨rfl, hk, hregister⟩

/-! ### Switching -/

/-- Observers of the settings are held for the active user only, who has all of them exactly if the
    manager takes it so. -/
structure Watched (d : Daemon) : Prop where
  active : ∀ key user, d.Holds key user → user = d.manager.active ∧ user ≠ noUser
  all : (∀ key, d.Holds key d.manager.active) ↔
    d.manager.allRegistered = true ∧ d.manager.active ≠ noUser

/-- `Watched` depends on the observers, the active user and the manager's flag alone. -/
theorem Watched.congr (hd : Watched d) (ho : d₁.settings.observers = d.settings.observers)
    (ha : d₁.manager.active = d.manager.active)
    (hr : d₁.manager.allRegistered = d.manager.allRegistered) : Watched d₁ where
  active key user hkey := by
    unfold Holds at hkey
    rw [ho] at hkey
    rw [ha]
    exact hd.active key user hkey
  all := by
    unfold Holds
    rw [ho, ha, hr]
    exact hd.all

/-- `Watched` depends on the observers, the active user and the manager's flag alone, which
    `SameWatch` keeps. -/
theorem Watched.of_sameWatch (hd : Watched d) (hs : SameWatch d d₁) : Watched d₁ :=
  hd.congr hs.observers hs.active hs.allRegistered

/-- Where observers go when asked to, none is left once those of the active user are gone. -/
theorem Watched.not_holds_unobserveActive (hd : Watched d)
    (hf : ∀ key, d.settings.faults.failsUnregister key = false) (key : StateKey) (user : UserId) :
    ¬ ((unobserveActive d.manager.active).on d).2.Holds key user := by
  unfold unobserveActive
  by_cases hp : d.manager.active ≠ noUser
  · obtain ⟨j, hj⟩ := Act.logs_info
      s!"Clearing timers and observers for user {d.manager.active}" d
    rw [if_pos hp]
    simp only [Act.on_bind, hj]
    intro hkey
    obtain ⟨hheld, hother⟩ := (holds_unobserveAll (d := { d with journal := j })
      StateKey.all hf).1 hkey
    exact hother ⟨(hd.active key user hheld).1, StateKey.mem_all key⟩
  · rw [if_neg hp]
    intro hkey
    obtain ⟨rfl, hsomebody⟩ := hd.active key user hkey
    exact hp hsomebody

/-- Exchanging observers keeps the watch right, however many of them cannot be registered. -/
theorem Watched.exchangeObservers (hd : Watched d) {user : UserId} (hu : user ≠ noUser)
    (hf : ∀ key, d.settings.faults.failsUnregister key = false) :
    Watched ((Daemon.exchangeObservers user).on d).2 := by
  have hnone := hd.not_holds_unobserveActive hf
  unfold Daemon.exchangeObservers
  rw [Act.on_get_bind, Act.on_bind]
  generalize ((unobserveActive d.manager.active).on d).2 = d₀ at hnone ⊢
  obtain ⟨hzero, hholds⟩ := holds_observeAll user StateKey.all d₀
  rw [Act.on_bind]
  generalize (observeAll user StateKey.all).on d₀ = observed at hzero hholds ⊢
  obtain ⟨failures, d₁⟩ := observed
  -- what is held now was registered just now
  have hheld : ∀ key other, d₁.Holds key other ↔
      other = user ∧ d₀.settings.faults.failsRegister key.name = false := by
    intro key other
    rw [hholds key other]
    simp [hnone key other, StateKey.mem_all key]
  refine ⟨fun key other hkey => ?_, ?_⟩
  · obtain ⟨rfl, _⟩ := (hheld key other).1 hkey
    exact ⟨rfl, hu⟩
  · show (∀ key, d₁.Holds key user) ↔ decide (failures = 0) = true ∧ user ≠ noUser
    rw [decide_eq_true_eq, and_iff_left hu]
    refine Iff.trans ⟨fun hall key _ => ?_, fun hall key => ?_⟩ hzero.symm
    · exact ((hheld key user).1 (hall key)).2
    · exact (hheld key user).2 ⟨rfl, hall key (StateKey.mem_all key)⟩

/-- The store and the manager are ready for a switch. -/
def CanSwitch (d : Daemon) : Prop := d.CanPrepare ∧ d.manager.receiver ≠ none

/-- Unless the daemon `CanSwitch`, `switchUser` is refused as not initialized, before anything is
    changed but what is known of the store. -/
theorem switchUser_of_not_canSwitch (hd : ¬ d.CanSwitch) (user : UserId) :
    ∃ f b j, f.kind = .notInitialized ∧ (switchUser h user).on d = (.error f, { d with
      settings := { d.settings with faults := { d.settings.faults with ready := b } }
      journal := j }) := by
  obtain ⟨r, b, j, he, hok, hkind⟩ := prepareStore_cases d
  cases r with
  | error f => exact ⟨f, b, j, hkind f rfl, switchUser_of_unprepared user he⟩
  | ok _ =>
    have hr : d.manager.receiver = none := by
      by_contra hr
      exact hd ⟨hok.1 rfl, hr⟩
    exact ⟨.observersMissing, b, j, rfl,
      switchUser_of_no_receiver user he (Option.isNone_iff_eq_none.2 hr)⟩

/-- With that the observers are exchanged and the user who was active is forgotten. Only then the
    switch fails, if some observers were refused, or the new user is loaded. -/
theorem switchUser_stages (hd : d.CanSwitch) (user : UserId) :
    ∃ b j previous n d₀, (Daemon.exchangeObservers user).on { d with
          settings := { d.settings with faults := { d.settings.faults with ready := b } }
          journal := j } = ((previous, n), d₀) ∧
      (switchUser h user).on d =
        if n ≠ 0 then (.error (.observersRefused n user), ((retire h previous).on d₀).2)
        else (.ok (), ((activate h user).on ((retire h previous).on d₀).2).2) := by
  obtain ⟨r, b, j, he, hok, _⟩ := prepareStore_cases d
  -- the store gets ready, and there is a receiver
  obtain rfl := hok.2 hd.1
  refine ⟨b, j, ?_⟩
  unfold switchUser
  rw [Act.on_bind, he]
  simp only []
  rw [Act.on_get_bind, if_neg (by simpa using hd.2), Act.on_bind]
  generalize (Daemon.exchangeObservers user).on _ = exchanged
  obtain ⟨⟨previous, n⟩, d₀⟩ := exchanged
  refine ⟨previous, n, d₀, rfl, ?_⟩
  simp only [Act.on_bind]
  by_cases hn : n ≠ 0
  · rw [if_pos hn, if_pos hn]
    rfl
  · rw [if_neg hn, if_neg hn]
    rfl

/-- Where the daemon `CanSwitch`, everything that `switchUser` does after the exchange of observers
    keeps every `Frame`. -/
theorem switchUser_of_canSwitch {R : Daemon → Daemon → Prop} (hR : Frame R) (hl : h.Losing lossy)
    (hd : d.CanSwitch) (user : UserId) :
    ∃ b j, R
        ((Daemon.exchangeObservers user).on { d with
          settings := { d.settings with faults := { d.settings.faults with ready := b } }
          journal := j }).2
        ((switchUser h user).on d).2 ∧
      (((switchUser h user).on d).1 = .ok () ∨
        ∃ n, ((switchUser h user).on d).1 = .error (.observersRefused n user)) := by
  obtain ⟨b, j, previous, n, d₀, hexchange, he⟩ := switchUser_stages (h := h) hd user
  have hretired := hR.retire hl previous d₀
  refine ⟨b, j, ?_⟩
  rw [hexchange, he]
  by_cases hn : n ≠ 0
  · rw [if_pos hn]
    exact ⟨hretired, .inr ⟨n, rfl⟩⟩
  · rw [if_neg hn]
    exact ⟨hR.trans hretired (hR.activate hl user _), .inl rfl⟩

/-- A switch keeps the daemon `Watched`, whichever registrations fail, as long as unregistering
    works. -/
theorem Watched.switchUser (hl : h.Losing lossy) (hd : Watched d) {user : UserId}
    (hu : user ≠ noUser) (hf : ∀ key, d.settings.faults.failsUnregister key = false) :
    Watched ((Daemon.switchUser h user).on d).2 := by
  by_cases hs : d.CanSwitch
  · obtain ⟨b, j, hsame, _⟩ := switchUser_of_canSwitch frame_sameWatch hl hs user
    have hready : Watched { d with
        settings := { d.settings with faults := { d.settings.faults with ready := b } }
        journal := j } := hd.congr rfl rfl rfl
    exact (hready.exchangeObservers hu hf).of_sameWatch hsame
  · obtain ⟨f, b, j, _, he⟩ := switchUser_of_not_canSwitch (h := h) hs user
    rw [he]
    exact hd.congr rfl rfl rfl

/-! ### Stores without faults -/

/-- No call on the settings store fails, and nobody is active before there is a receiver. -/
structure Installed (d : Daemon) : Prop where
  faultless : d.settings.faults = {}
  receiver : d.manager.active ≠ noUser → d.manager.receiver ≠ none

/-- Every operation leaves the daemon `Installed`: a switch makes nobody active without a receiver,
    and receivers are never taken away. -/
theorem Installed.perform (hl : h.Losing lossy) (hc : d.alarms.Cancels) (hd : Installed d)
    (op : Operation) : Installed ((op.perform h).on d).2 := by
  by_cases hop : ∃ user, op = .switch user
  · obtain ⟨user, rfl⟩ := hop
    show Installed ((Daemon.switchUser h user).on d).2
    by_cases hr : d.manager.receiver = none
    · -- without a receiver a switch is refused
      have hready := prepareStore_of_ready (d := d) (by rw [hd.faultless])
      rw [switchUser_of_no_receiver user hready (by rw [hr]; rfl)]
      exact hd
    · obtain ⟨d₀, d₁, d₂, he, hobs, _, hf, _, _, hret, d₃, hres, hn⟩ :=
        switchUser_of_faultless hl hc user hd.faultless hr
      obtain ⟨s, t, a, j, rfl⟩ := hret.eq
      rw [he]
      refine ⟨?_, fun _ => ?_⟩
      · rw [hn.delivered.settings, hres.rescheduled.settings]
        exact hf
      · rw [hn.delivered.receiver, hres.rescheduled.manager]
        show d₀.manager.receiver ≠ none
        rw [hobs.receiver]
        exact hr
  · -- nothing else changes who is active
    have hsame := watches_perform hl op (fun user heq => hop ⟨user, heq⟩) d
    refine ⟨hsame.faults.trans hd.faultless, fun hactive => hsame.receiver (hd.receiver ?_)⟩
    rwa [hsame.active] at hactive

/-- Any operations without faults leave the daemon `Installed`. -/
theorem installed_of_run (hl : h.Losing lossy) (hd : Fresh d) (hf : d.settings.faults = {})
    (hc : d.alarms.Cancels) (ops : List Operation) : Installed ((runAll h ops).on d).2 := by
  have hstart : d.alarms.Cancels ∧ SoundTimers d ∧ Installed d := by
    refine ⟨hc, hd.soundTimers, hf, fun hactive => ?_⟩
    rw [hd.manager] at hactive
    exact absurd rfl hactive
  have hall := runAll_induction (h := h)
    (P := fun d => d.alarms.Cancels ∧ SoundTimers d ∧ Installed d) (fun _ => True)
    (fun op d _ hd => ?_) ops (fun _ _ => trivial) hstart
  · exact hall.2.2
  · obtain ⟨hc, hs, hi⟩ := hd
    have hco := perform_course hl op hc hs
    exact ⟨hco.plans.cancels hc, hco.soundTimers hs, hi.perform hl hc op⟩

end Daemon

end Twilight
