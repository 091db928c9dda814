import Twilight.Proofs.Daemon.Watch

namespace Twilight

/-!
# Observers of settings

The manager keeps who is active and whether all their settings are observed; the store keeps the
observers. Users are switched and settings change in any order, while any calls to register and to
unregister observers fail.

* `FaultyOperation`, `runFaulty` — operations, each with the calls on the store that fail in it.
* `Daemon.Untouched`, `Daemon.Inert` — changes for background users touch nothing, observed or not.
* `Daemon.Refusal` — when a switch is refused at once, and that it touches nothing then.
* `Daemon.watched_of_run` — so it is after every run, and if no observer refuses to go, those held
  are the active user's.
-/

/-! ### Runs with a failing store -/

/-- An operation, and the calls on the settings store that fail in it. -/
structure FaultyOperation where
  operation : Operation
  faults : SettingsFaults := {}

namespace Daemon

/-- The daemon with other faults of its settings store. -/
def withFaults (d : Daemon) (faults : SettingsFaults) : Daemon :=
  { d with settings := { d.settings with faults := faults } }

end Daemon

open Daemon

/-- Perform an operation under its faults. -/
def FaultyOperation.perform (h : Hooks) (op : FaultyOperation) : Act Unit := do
  modify fun d => d.withFaults op.faults
  op.operation.perform h

/-- Perform operations in order, each under its faults. -/
def runFaulty (h : Hooks) : List FaultyOperation → Act Unit
  | [] => pure ()
  | op :: rest => do
    op.perform h
    runFaulty h rest

/-- What all allowed operations preserve, each under its faults, holds after every run of them. -/
theorem runFaulty_induction {h : Hooks} {P : Daemon → Prop} (allowed : FaultyOperation → Prop)
    (step : ∀ op d, allowed op → P d → P ((op.perform h).on d).2) (ops : List FaultyOperation)
    (hops : ∀ op ∈ ops, allowed op) {d : Daemon} (hd : P d) : P ((runFaulty h ops).on d).2 := by
  induction ops generalizing d with
  | nil => exact hd
  | cons op rest ih =>
    have hfirst := step op d (hops op List.mem_cons_self) hd
    exact ih (fun op' hop' => hops op' (List.mem_cons_of_mem _ hop')) hfirst

/-- The users that are switched to have numbers of users. -/
def FaultyOperation.Sensible (op : FaultyOperation) : Prop :=
  ∀ user, op.operation = .switch user → 0 ≤ user

namespace Daemon

variable {lossy : Prop} {h : Hooks} {d d₁ d₂ : Daemon} {user : UserId}

/-! ### Changes for background users -/

/-- What the manager keeps, the timers and the alarms, the observers and the reports are as they
    were. -/
structure Untouched (d d₁ : Daemon) : Prop where
  manager : d₁.manager = d.manager
  timers : d₁.timers = d.timers
  alarms : d₁.alarms = d.alarms
  observers : d₁.settings.observers = d.settings.observers
  updates : d₁.updates = d.updates

namespace Untouched

theorem refl (d : Daemon) : Untouched d d := ⟨rfl, rfl, rfl, rfl, rfl⟩

theorem trans (h₁ : Untouched d d₁) (h₂ : Untouched d₁ d₂) : Untouched d d₂ :=
  ⟨h₂.manager.trans h₁.manager, h₂.timers.trans h₁.timers, h₂.alarms.trans h₁.alarms,
    h₂.observers.trans h₁.observers, h₂.updates.trans h₁.updates⟩

end Untouched

/-- Lines in the journal leave everything else `Untouched`. -/
theorem Logged.untouched (hd : Logged d d₁) : Untouched d d₁ := by
  obtain ⟨j, rfl⟩ := hd
  exact ⟨rfl, rfl, rfl, rfl, rfl⟩

/-- The manager ignores a change that it is told of for a background user. -/
theorem settingChanged_of_background (key : String) (hu : user ≠ d.manager.active) :
    Logged d ((settingChanged h key user).on d).2 := by
  unfold settingChanged
  cases StateKey.ofName? key with
  | none => exact Act.logs_debug _ d
  | some part => exact stateSettingChanged_of_background part hu

/-- Even if an observer of a background user was left behind, it does no harm. -/
theorem announce_of_background (hrun : ∀ script, h.run script = pure ()) (key : String)
    (hu : user ≠ d.manager.active) : Untouched d ((announce h key user).on d).2 := by
  unfold announce
  rw [Act.on_get_bind]
  cases d.settings.observers.get? (key, user) with
  | none => exact .refl d
  | some observer =>
    obtain ⟨told, action⟩ := observer
    cases action with
    | manager => exact (settingChanged_of_background told hu).untouched
    | script label steps =>
      simp only [tell, Act.on_bind, note, Act.on_modify, hrun]
      exact ⟨rfl, rfl, rfl, rfl, rfl⟩

/-- Announcing any number of changes for background users leaves the daemon `Untouched`. -/
theorem announceAll_of_background (hrun : ∀ script, h.run script = pure ())
    (changes : List (String × UserId)) (hu : ∀ c ∈ changes, c.2 ≠ d.manager.active) :
    Untouched d ((announceAll h changes).on d).2 := by
  induction changes generalizing d with
  | nil => exact .refl d
  | cons change rest ih =>
    obtain ⟨key, user⟩ := change
    obtain ⟨j, hj⟩ := Act.logs_debug s!"Settings file changed '{key}' for user {user}" d
    have hlog : Untouched d { d with journal := j } := ⟨rfl, rfl, rfl, rfl, rfl⟩
    have hfirst := hlog.trans (announce_of_background (h := h) (d := { d with journal := j }) hrun
      key (hu _ List.mem_cons_self))
    rw [announceAll]
    simp only [Act.on_bind, hj]
    -- the user who is active is still the same
    refine hfirst.trans (ih fun c hc => ?_)
    rw [hfirst.manager]
    exact hu c (List.mem_cons_of_mem _ hc)

/-- Changes for background users touch nothing, whether they are announced, stored, or found in the
    file. -/
structure Inert (d : Daemon) : Prop where
  announced : ∀ key user, user ≠ d.manager.active →
    Untouched d ((announce .quiet key user).on d).2
  stored : ∀ key value user, user ≠ d.manager.active →
    Untouched d ((putSetting .quiet key value user).on d).2
  found : ∀ files order,
    (∀ path changes, d.settings.file = some path →
      ((takeFile path).on { d with files := files }).1 = .ok changes →
      ∀ c ∈ order changes, c.2 ≠ d.manager.active) →
    Untouched d ((rewriteSettings .quiet files order).on d).2

/-- Every daemon is `Inert`: the manager asks who is active before it does anything about a change.
    -/
theorem inert (d : Daemon) : Inert d where
  announced key user hu := announce_of_background (fun _ => rfl) key hu
  stored key value user hu := by
    obtain ⟨fs, _, he | ⟨f, he⟩⟩ := putSetting_cases .quiet key value user d
    · rw [he]
      -- storing the value concerns the values alone, and announcing it nothing
      have htaken : Untouched d { d.withValues (d.settings.values.put key value user) with
          files := fs } := ⟨rfl, rfl, rfl, rfl, rfl⟩
      exact htaken.trans (announce_of_background (fun _ => rfl) key hu)
    · rw [he]
      exact ⟨rfl, rfl, rfl, rfl, rfl⟩
  found files order hu := by
    unfold rewriteSettings
    rw [Act.on_bind, Act.on_modify, Act.on_get_bind]
    have hfiles : Untouched d { d with files := files } := ⟨rfl, rfl, rfl, rfl, rfl⟩
    cases hfile : d.settings.file with
    | none => exact hfiles
    | some path =>
      have hchanges := fun changes => hu path changes hfile
      show Untouched d ((reloadIn order .quiet path).on { d with files := files }).2
      unfold reloadIn
      rw [Act.on_bind]
      rcases takeFile_cases path { d with files := files } with ⟨f, he⟩ | ⟨t, j, he⟩
      · rw [he]
        exact hfiles
      · rw [he] at hchanges ⊢
        have htaken : Untouched d
            { ({ d with files := files } : Daemon).withValues t with journal := j } :=
          ⟨rfl, rfl, rfl, rfl, rfl⟩
        exact htaken.trans (announceAll_of_background (fun _ => rfl) _ (hchanges _ rfl))

/-! ### Refused switches -/

/-- A switch is refused as long as the store or the manager is not initialized, and touches nothing
    then. Otherwise it fails only if observers could not be registered. -/
structure Refusal (d : Daemon) (user : UserId) : Prop where
  refused : ¬ d.CanSwitch → ∃ f, ((switchUser .quiet user).on d).1 = .error f ∧
    f.kind = .notInitialized ∧ Untouched d ((switchUser .quiet user).on d).2
  otherwise : d.CanSwitch → ∀ f, ((switchUser .quiet user).on d).1 = .error f →
    ∃ n, f = .observersRefused n user

/-- Every daemon refuses a switch as `Refusal` says. -/
theorem refusal (d : Daemon) (user : UserId) : Refusal d user where
  refused hd := by
    obtain ⟨f, b, j, hkind, he⟩ := switchUser_of_not_canSwitch (h := .quiet) hd user
    rw [he]
    exact ⟨f, rfl, hkind, ⟨rfl, rfl, rfl, rfl, rfl⟩⟩
  otherwise hd f hf := by
    obtain ⟨_, _, _, hok | ⟨n, hn⟩⟩ := switchUser_of_canSwitch frame_sameWatch
      (Hooks.quiet_losing True) hd user
    · rw [hok] at hf
      contradiction
    · rw [hn] at hf
      exact ⟨n, (Except.error.inj hf).symm⟩

/-! ### After every run -/

/-- Nobody is active, and no setting is observed. -/
structure Unwatched (d : Daemon) : Prop where
  active : d.manager.active = noUser
  observers : ∀ key user, ¬ d.Holds key user

/-- A daemon that observes nothing for nobody is `Watched`. -/
theorem Unwatched.watched (hd : Unwatched d) : Watched d where
  active key user hkey := absurd hkey (hd.observers key user)
  all := ⟨fun hall => absurd (hall .mode) (hd.observers .mode _),
    fun hreg => absurd hd.active hreg.2⟩

/-- An operation under faults keeps the daemon `Watched`, as long as observers go when asked to. -/
theorem Watched.perform (hd : Watched d) (op : FaultyOperation) (hop : op.Sensible)
    (hf : ∀ key, op.faults.failsUnregister key = false) :
    Watched ((op.perform .quiet).on d).2 := by
  have hl : Hooks.quiet.Losing True := Hooks.quiet_losing True
  have hfaulty : Watched (d.withFaults op.faults) := hd.congr rfl rfl rfl
  show Watched ((op.operation.perform .quiet).on (d.withFaults op.faults)).2
  by_cases hs : ∃ user, op.operation = .switch user
  · obtain ⟨user, hs⟩ := hs
    have hu : user ≠ noUser := by
      have hnat := hop user hs
      rintro rfl
      exact absurd hnat (by decide)
    rw [hs]
    exact hfaulty.switchUser hl hu hf
  · have hsame := watches_perform hl op.operation (fun user heq => hs ⟨user, heq⟩)
      (d.withFaults op.faults)
    exact hfaulty.of_sameWatch hsame

/-- A run of operations under faults keeps the daemon `Watched`. By induction on the operations. -/
theorem Watched.run (ops : List FaultyOperation) (hops : ∀ op ∈ ops, op.Sensible)
    (hf : ∀ op ∈ ops, ∀ key, op.faults.failsUnregister key = false) (hd : Watched d) :
    Watched ((runFaulty .quiet ops).on d).2 :=
  runFaulty_induction (fun op => op.Sensible ∧ ∀ key, op.faults.failsUnregister key = false)
    (fun op _ hop hd => hd.perform op hop.1 hop.2) ops (fun op hop => ⟨hops op hop, hf op hop⟩) hd

/-- **Observers belong to the active user, and leftovers do no harm.** Whatever was asked for, and
    whichever calls on the settings store failed: a change of a setting of a user who is not active
    touches nothing, and neither does a switch while the store or the manager is not initialized. If
    no observer refused to go, the observers held are those of the active user, all of them exactly
    if the manager takes it so. -/
theorem watched_of_run (hd : Unwatched d) (ops : List FaultyOperation)
    (hops : ∀ op ∈ ops, op.Sensible) :
    (∀ faults, Inert (((runFaulty .quiet ops).on d).2.withFaults faults)) ∧
      (∀ faults user, Refusal (((runFaulty .quiet ops).on d).2.withFaults faults) user) ∧
      ((∀ op ∈ ops, ∀ key, op.faults.failsUnregister key = false) →
        Watched ((runFaulty .quiet ops).on d).2) :=
  ⟨fun _ => inert _, fun _ user => refusal _ user, fun hf => hd.watched.run ops hops hf⟩

/-- The observer of the mode cannot be registered for user 100, and all can for user 101. -/
def handedOver : List FaultyOperation :=
  [{ operation := .install { applies := false, reports := true } },
    { operation := .switch 100
      faults := { failsRegister := fun key => key == StateKey.mode.name } },
    { operation := .switch 101 }]

/-- Then all observers are those of user 101, and a change for user 100 touches nothing. -/
theorem watched_of_handedOver :
    Watched ((runFaulty .quiet handedOver).on default).2 ∧
      ((runFaulty .quiet handedOver).on default).2.manager.active = 101 ∧
      ((runFaulty .quiet handedOver).on default).2.manager.allRegistered = true ∧
      ((runFaulty .quiet (handedOver.take 2)).on default).2.manager.allRegistered = false ∧
      Inert (((runFaulty .quiet handedOver).on default).2.withFaults {}) := by
  have hd : Unwatched default := ⟨rfl, fun key user hkey => by cases hkey⟩
  have hops : ∀ op ∈ handedOver, op.Sensible := by
    simp [handedOver, FaultyOperation.Sensible]
  have hall := watched_of_run hd handedOver hops
  refine ⟨hall.2.2 ?_, ?_, ?_, ?_, hall.1 {}⟩
  · simp [handedOver]
  · decide +kernel
  · decide +kernel
  · decide +kernel

end Daemon

end Twilight
