import Twilight.Proofs.Bookkeeping
import Twilight.Proofs.Daemon.Exchanges
import Twilight.Proofs.Daemon.Heeding
import Twilight.Proofs.Files.Replace

namespace Twilight

/-!
# Reconciling an observed status

A status that was observed elsewhere may contradict the mode of a user. If the mode is fixed it is
replaced in the store, and the manager learns of the new one as it does of every change: while it is
still busy with the status.

* `Daemon.contradiction?` — the state of a user that a status contradicts.
* `Daemon.correction` — the call that replaces its mode.
* `Daemon.told_of_modeChanged` — what the manager makes of the new mode before the call returns.
* `Daemon.Reconciles`, `Daemon.reconciles_of_run` — what is written and what changes, after every
  run.
-/

/-- A stored fixed mode is served as long as it can be read. -/
theorem SettingsStore.modeOf_of_stored {s : SettingsStore} {user : UserId} {dark : Bool}
    (hv : s.values.value? StateKey.mode.name user = some (toString (Mode.fixed dark).number)) :
    s.modeOf user = if s.faults.failsGet StateKey.mode.name then .invalid else .fixed dark := by
  have hread : Text.Numeral.readInt32 (Text.trim (toString (Mode.fixed dark).number).toList) =
      .ok (Mode.fixed dark).number := by
    cases dark <;> decide
  unfold modeOf getInt SettingsTable.getInt
  by_cases hf : s.faults.failsGet StateKey.mode.name = true
  · rw [if_pos hf, if_pos hf]
  · rw [if_neg hf, if_neg hf, hv]
    simp only [hread, Mode.ofStored, Mode.ofNumber?_number, Option.getD_some]

namespace Daemon

variable {h : Hooks} {d d₁ : Daemon} {user : UserId} {dark : Bool} {state : DarkModeState}

/-! ### Writing without announcing -/

/-- Write a value, and tell nobody. -/
def writeSetting (key value : String) (user : UserId) : Act (Except Fault Unit) := do
  if (← get).settings.faults.failsSet key then pure (.error .storeOffline)
  else storeSetting key value user

/-- A value is stored by writing it, and is announced if that succeeded. -/
theorem putSetting_eq (h : Hooks) (key value : String) (user : UserId) (d : Daemon) :
    (putSetting h key value user).on d = match (writeSetting key value user).on d with
      | (.error f, d₁) => (.error f, d₁)
      | (.ok _, d₁) => (.ok (), ((announce h key user).on d₁).2) := by
  unfold putSetting writeSetting
  rw [putSettingBy_eq, Act.on_get_bind]
  by_cases hf : d.settings.faults.failsSet key = true
  · rw [if_pos hf, if_pos hf]
    rfl
  · rw [if_neg hf, if_neg hf]
    rfl

/-- A value that cannot be written is not taken, and no file is touched. -/
theorem writeSetting_cases (key value : String) (user : UserId) (d : Daemon) :
    (∃ fs, (writeSetting key value user).on d =
        (.ok (), { d.withValues (d.settings.values.put key value user) with files := fs })) ∨
      ∃ f fs, (writeSetting key value user).on d = (.error f, { d with files := fs }) ∧
        d.files.SameFiles fs := by
  unfold writeSetting
  rw [Act.on_get_bind]
  by_cases hf : d.settings.faults.failsSet key = true
  · rw [if_pos hf]
    exact .inr ⟨.storeOffline, d.files, rfl, .refl _⟩
  · rw [if_neg hf]
    cases hfile : d.settings.file with
    | none => exact .inl ⟨d.files, storeSetting_of_memory hfile key value user⟩
    | some path =>
      rw [storeSetting_of_file hfile]
      cases hreplace : d.files.replace path
          (SettingsTable.write (d.settings.values.put key value user)) with
      | mk result fs =>
        cases result with
        | ok _ => exact .inl ⟨fs, rfl⟩
        | error problem => exact .inr ⟨_, fs, rfl, FileSystem.sameFiles_of_not_replaced hreplace⟩

/-- A line that is logged before `writeSetting` makes no difference to it. -/
theorem writeSetting_logged (key value : String) (user : UserId) (j : Log.Journal) (d : Daemon) :
    (writeSetting key value user).on { d with journal := j } =
      (((writeSetting key value user).on d).1,
        { ((writeSetting key value user).on d).2 with journal := j }) := by
  unfold writeSetting
  rw [Act.on_get_bind, Act.on_get_bind]
  by_cases hf : d.settings.faults.failsSet key = true
  · rw [if_pos hf]
    rfl
  · rw [if_neg hf]
    -- what is written depends on the values and the files alone
    cases hfile : d.settings.file with
    | none =>
      rw [storeSetting_of_memory hfile, storeSetting_of_memory (d := { d with journal := j }) hfile]
      rfl
    | some path =>
      rw [storeSetting_of_file hfile, storeSetting_of_file (d := { d with journal := j }) hfile]
      generalize d.files.replace path
        (SettingsTable.write (d.settings.values.put key value user)) = replaced
      obtain ⟨result, fs⟩ := replaced
      cases result with
      | ok _ => rfl
      | error problem => rfl

/-! ### Contradictions -/

/-- The state of a user, if its mode is fixed and contradicts a status. -/
def contradiction? (d : Daemon) (user : UserId) (dark : Bool) : Option DarkModeState :=
  (d.manager.states.get? user).filter fun state =>
    state.mode.isFixed && state.mode ≠ .fixed dark

/-- Replace a user's mode by the fixed one of a status, in the store. -/
def correction (user : UserId) (dark : Bool) : Act (Except Fault Unit) :=
  writeSetting StateKey.mode.name (toString (Mode.fixed dark).number) user

/-- There is a `contradiction?` exactly where the user's mode is fixed, and to another status. -/
theorem contradiction?_eq_some :
    d.contradiction? user dark = some state ↔ d.manager.states.get? user = some state ∧
      state.mode.isFixed = true ∧ state.mode ≠ .fixed dark := by
  simp [contradiction?, Option.filter_eq_some_iff]

/-- The mode of a user without a state is taken to be the default one, which is not fixed. -/
theorem contradiction?_eq_none : d.contradiction? user dark = none ↔
    (!((d.manager.states.get? user).getD {}).mode.isFixed ||
      decide (((d.manager.states.get? user).getD {}).mode = .fixed dark)) = true := by
  unfold contradiction?
  cases d.manager.states.get? user with
  | none => simp [Mode.isFixed]
  | some state =>
    simp only [Option.filter_eq_none_iff, Option.getD_some, Option.some.injEq, forall_eq']
    cases state.mode.isFixed <;> simp

/-- Without a `contradiction?`, `reconcile` remembers the status and does nothing else. -/
theorem reconcile_of_consistent (hn : d.contradiction? user dark = none) :
    ∃ j, (reconcile h user dark).on d =
      (.ok (), { d.remembering user dark with journal := j }) := by
  unfold reconcile
  rw [Act.on_get_bind, if_pos (contradiction?_eq_none.1 hn)]
  exact ⟨_, rfl⟩

/-- The daemon with the fixed mode of a status stored for a user, and nobody told of it yet. -/
def withMode (d : Daemon) (user : UserId) (dark : Bool) (fs : FileSystem) (j : Log.Journal) :
    Daemon :=
  { d.withValues
      (d.settings.values.put StateKey.mode.name (toString (Mode.fixed dark).number) user) with
    files := fs, journal := j }

/-- A mode that contradicts the status is replaced. If that succeeds the change is announced and the
    status remembered; if it fails nothing more is done. -/
theorem reconcile_of_contradiction (hs : d.contradiction? user dark = some state) :
    (∃ fs j, ((correction user dark).on d).1 = .ok () ∧ (reconcile h user dark).on d = (.ok (),
        ((announce h StateKey.mode.name user).on
          (d.withMode user dark fs j)).2.remembering user dark)) ∨
      ∃ f fs j, ((correction user dark).on d).1 = .error f ∧ d.files.SameFiles fs ∧
        (reconcile h user dark).on d = (.error f, { d with files := fs, journal := j }) := by
  have hn : d.contradiction? user dark ≠ none := by simp [hs]
  obtain ⟨j, hj⟩ := Act.logs_info
    s!"Correcting stored mode for user {user} to {(Mode.fixed dark).name}" d
  unfold reconcile correction
  rw [Act.on_get_bind, if_neg (mt contradiction?_eq_none.2 hn)]
  simp only [Act.on_bind, hj, putSetting_eq, writeSetting_logged]
  rcases writeSetting_cases StateKey.mode.name (toString (Mode.fixed dark).number) user d with
    ⟨fs, he⟩ | ⟨f, fs, he, hfiles⟩
  · rw [he]
    exact .inl ⟨fs, j, rfl, rfl⟩
  · rw [he]
    exact .inr ⟨f, fs, j, rfl, hfiles, rfl⟩

/-! ### The manager learns of the new mode -/

/-- `dropTimers` erases the user's record, whatever becomes of its alarms. -/
theorem dropTimers_quiet (user : UserId) (d : Daemon) :
    ∃ a j, (dropTimers .quiet user).on d = ((), { d with
      timers := d.timers.erase user, alarms := a, journal := j }) := by
  unfold dropTimers clearTimers
  simp only [Act.on_bind, takeRecord, Act.on_modifyGet]
  cases d.timers.get? user with
  | none => exact ⟨d.alarms, d.journal, rfl⟩
  | some record =>
    obtain ⟨j, hj⟩ := discardAll_quiet record.ids { d with timers := d.timers.erase user }
    simp only [Act.on_bind, hj]
    cases settle (d.alarms.cancelFaults record.ids).head? with
    | ok _ => exact ⟨_, _, rfl⟩
    | error f => exact ⟨_, _, rfl⟩

/-- `resolve` of a state with a fixed mode erases the user's record and answers the status of the
    mode. -/
theorem resolve_fixed (hm : state.mode = .fixed dark) (user : UserId) (d : Daemon) :
    ∃ a j, (resolve .quiet user state).on d = (.status dark (.ok ()), { d with
      timers := d.timers.erase user, alarms := a, journal := j }) := by
  obtain ⟨a, j, he⟩ := dropTimers_quiet user d
  refine ⟨a, j, ?_⟩
  unfold resolve
  rw [hm]
  cases dark with
  | true =>
    simp only [Mode.fixed, if_true, Act.on_bind, he]
    rfl
  | false =>
    simp only [Mode.fixed, Bool.false_eq_true, if_false, Act.on_bind, he]
    rfl

/-- `takeChange` to a fixed mode sets it in the state, and erases the user's record. -/
theorem takeChange_fixed (hstate : d.manager.states.get? user = some state) (dark : Bool) :
    ∃ a j, (takeChange .quiet user (.mode (.fixed dark))).on d = (.status dark (.ok ()),
      { d.withState user { state with mode := .fixed dark } with
        timers := d.timers.erase user, alarms := a, journal := j }) := by
  have hlive := liveState_of_get? hstate
  obtain ⟨j, hj⟩ := logs_reportChange user state (.mode (.fixed dark)) d
  have hmode : ({ state with mode := .fixed dark } : DarkModeState).mode = .fixed dark := rfl
  obtain ⟨a, j₁, he⟩ := resolve_fixed hmode user
    { d.withState user { state with mode := .fixed dark } with journal := j }
  refine ⟨a, j₁, ?_⟩
  unfold takeChange
  -- the state is there already, so that nothing is set before the change
  simp only [Act.on_bind, stateOrDefault_on, hlive, withState_of_get? hstate, hj, setState_on]
  exact he

/-- A fixed mode that the manager is told of is that of the active user's state from then on. The
    user's timers go, and the status is handed over. -/
theorem told_of_modeChanged (hactive : user = d.manager.active)
    (hstate : d.manager.states.get? user = some state)
    (hmode : d.settings.modeOf user = .fixed dark) :
    ∃ a j, Told dark user { d.withState user { state with mode := .fixed dark } with
        timers := d.timers.erase user, alarms := a, journal := j }
      ((settingChanged .quiet StateKey.mode.name user).on d).2 := by
  obtain ⟨_, hread, j, rfl⟩ := readChange_on .mode user d
  -- the change reads back the mode that was stored
  have hpart : (d.settings.decoded user).part .mode = .mode (.fixed dark) := by
    rw [← hmode]
    rfl
  obtain ⟨a, j₁, htake⟩ := takeChange_fixed (d := { d with journal := j }) hstate dark
  have htold := deliver_on (h := .quiet) (fun _ => rfl) dark user
    { d.withState user { state with mode := .fixed dark } with
      timers := d.timers.erase user, alarms := a, journal := j₁ }
  refine ⟨a, j₁, ?_⟩
  unfold settingChanged
  rw [StateKey.ofName?_name]
  unfold stateSettingChanged
  rw [Act.on_bind, hread, Act.on_get_bind, if_pos hactive, hpart]
  simp only [Act.on_bind, htake]
  exact htold

/-- The mode of the active user's state is what the store serves once a change of it is announced,
    fixed or not. -/
theorem states_of_modeChanged (hactive : user = d.manager.active)
    (hstate : d.manager.states.get? user = some state) :
    ((settingChanged .quiet StateKey.mode.name user).on d).2.manager.states =
      d.manager.states.insert user { state with mode := d.settings.modeOf user } := by
  have hl : Hooks.quiet.Losing True := Hooks.quiet_losing True
  have hc := mended_cancels d
  have hlive : d.mended.liveState user = state := liveState_of_get? hstate
  -- states do not depend on the alarm service, so they are those of a daemon where it works
  have halike := (twin_settingChanged hl StateKey.mode.name user d d.mended (alike_mended d)).2
  rw [← halike.manager]
  cases settingChanged_on hl hc StateKey.mode.name user with
  | ignored reason =>
    rw [StateKey.ofName?_name] at reason
    rcases reason with hne | hnone
    · exact absurd hactive hne
    · cases hnone
  | taken part name _ settled =>
    rw [StateKey.ofName?_name] at name
    obtain rfl := Option.some.inj name
    obtain ⟨d₀, hr, hc⟩ := settled
    rw [hlive] at hr
    rw [hc.delivered.states, hr.rescheduled.manager]
    rfl

/-- `announce` of a setting that the manager observes is `settingChanged`. -/
theorem announce_of_observes {key : StateKey} (ho : d.Observes user key) :
    (announce h key.name user).on d = (settingChanged h key.name user).on d := by
  unfold announce
  rw [Act.on_get_bind, show d.settings.observers.get? (key.name, user) = _ from ho]
  rfl

/-! ### What comes of a status -/

/-- Once the corrected mode is stored by `withMode`, the store serves it, unless it cannot be read.
    -/
theorem modeOf_withMode (user : UserId) (dark : Bool) (fs : FileSystem)
    (j : Log.Journal) (d : Daemon) :
    (d.withMode user dark fs j).settings.modeOf user =
      if d.settings.faults.failsGet StateKey.mode.name then .invalid else .fixed dark :=
  SettingsStore.modeOf_of_stored (SettingsTable.value?_put_self _ _ _ _)

/-- `d₁` is `d` after the mode of a user's state was replaced by the fixed one of a status: in the
    store and in the state. There are no timers for it, and the status was reported once. -/
structure Corrected (user : UserId) (dark : Bool) (state : DarkModeState) (d d₁ : Daemon) :
    Prop where
  stored : d₁.settings = { d.settings with
    values := d.settings.values.put StateKey.mode.name (toString (Mode.fixed dark).number) user }
  served : d₁.settings.modeOf user = .fixed dark
  states : d₁.manager.states = d.manager.states.insert user { state with mode := .fixed dark }
  timers : d₁.timers = d.timers.erase user
  lastStatus : d₁.manager.lastStatus = d.manager.lastStatus.insert user dark
  updates : d₁.updates = (dark, user) :: d.updates

/-- Once the corrected mode is stored, announcing it leaves the user's state `Corrected`: the
    manager hears of it before the call returns. -/
theorem corrected_of_announced (hd : Heeding d) (hu : user ≠ noUser)
    (hs : d.contradiction? user dark = some state)
    (hreads : d.settings.faults.failsGet StateKey.mode.name = false) (fs : FileSystem)
    (j : Log.Journal) : Corrected user dark state d
      (((announce .quiet StateKey.mode.name user).on (d.withMode user dark fs j)).2.remembering
        user dark) := by
  obtain ⟨hstate, hfixed, -⟩ := contradiction?_eq_some.1 hs
  have hactive := hd.live user hu state hstate
  obtain ⟨r, hr, hreports⟩ := hd.reporting (hactive ▸ hu)
  -- the mode was a fixed one, so the manager observes it
  have hobs : (d.withMode user dark fs j).Observes user .mode :=
    hd.fixed user hu state hstate hfixed
  have hmode : (d.withMode user dark fs j).settings.modeOf user = .fixed dark := by
    rw [modeOf_withMode, hreads]
    rfl
  obtain ⟨a, j₁, htold⟩ := told_of_modeChanged (d := d.withMode user dark fs j) hactive hstate hmode
  rw [← announce_of_observes hobs] at htold
  generalize
    ((announce .quiet StateKey.mode.name user).on (d.withMode user dark fs j)).2 = d₁ at htold
  refine ⟨htold.delivered.settings, ?_, htold.delivered.states, htold.delivered.timers, ?_,
    htold.reported r hr hreports⟩
  · show d₁.settings.modeOf user = .fixed dark
    rw [htold.delivered.settings]
    exact hmode
  · -- the status is remembered once more than it need be
    show d₁.manager.lastStatus.insert user dark = d.manager.lastStatus.insert user dark
    rw [htold.lastStatus, Table.insert_insert]
    rfl

/-- A mode that was replaced contradicts the status no longer. If it could not be read back, then
    the state has no fixed mode any more. -/
theorem contradiction?_of_announced (hd : Heeding d) (hu : user ≠ noUser)
    (hs : d.contradiction? user dark = some state) (fs : FileSystem) (j : Log.Journal) :
    (((announce .quiet StateKey.mode.name user).on (d.withMode user dark fs j)).2.remembering
      user dark).contradiction? user dark = none := by
  obtain ⟨hstate, hfixed, -⟩ := contradiction?_eq_some.1 hs
  have hobs : (d.withMode user dark fs j).Observes user .mode :=
    hd.fixed user hu state hstate hfixed
  have hstates := states_of_modeChanged (d := d.withMode user dark fs j)
    (hd.live user hu state hstate) hstate
  rw [← announce_of_observes hobs, modeOf_withMode] at hstates
  generalize
    ((announce .quiet StateKey.mode.name user).on (d.withMode user dark fs j)).2 = d₁ at hstates
  show (d₁.manager.states.get? user).filter _ = none
  rw [hstates, Table.get?_insert_self]
  cases d.settings.faults.failsGet StateKey.mode.name with
  | true => simp [Option.filter, Mode.isFixed]
  | false => simp [Option.filter]

/-- After `reconcile` succeeded there is no `contradiction?` to the status, which is the last one
    known. -/
theorem consistent_of_ok (hd : Heeding d) (hu : user ≠ noUser)
    (hok : ((reconcile .quiet user dark).on d).1 = .ok ()) :
    ((reconcile .quiet user dark).on d).2.contradiction? user dark = none ∧
      ((reconcile .quiet user dark).on d).2.manager.lastStatus.get? user = some dark := by
  cases hs : d.contradiction? user dark with
  | none =>
    obtain ⟨j, he⟩ := reconcile_of_consistent (h := .quiet) hs
    rw [he]
    exact ⟨hs, Table.get?_insert_self _ _ _⟩
  | some state =>
    rcases reconcile_of_contradiction (h := .quiet) hs with ⟨fs, j, -, he⟩ | ⟨f, fs, j, -, -, he⟩
    · rw [he]
      exact ⟨contradiction?_of_announced hd hu hs fs j, Table.get?_insert_self _ _ _⟩
    · rw [he] at hok
      cases hok

/-- What comes of a status of a user that was observed elsewhere. -/
structure Reconciles (d : Daemon) (user : UserId) (dark : Bool) : Prop where
  /-- Without a contradiction nothing is written, whether or not it could be. -/
  consistent : d.contradiction? user dark = none → ∃ j, (reconcile .quiet user dark).on d =
    (.ok (), { d.remembering user dark with journal := j })
  /-- A mode that cannot be replaced stays, and so does everything else. -/
  refused : ∀ state f, d.contradiction? user dark = some state →
    ((correction user dark).on d).1 = .error f → ∃ fs j, d.files.SameFiles fs ∧
      (reconcile .quiet user dark).on d = (.error f, { d with files := fs, journal := j })
  corrected : ∀ state, d.contradiction? user dark = some state →
    ((correction user dark).on d).1 = .ok () →
    d.settings.faults.failsGet StateKey.mode.name = false →
      ((reconcile .quiet user dark).on d).1 = .ok () ∧
        Corrected user dark state d ((reconcile .quiet user dark).on d).2
  /-- Right after a call that succeeded the same one changes nothing, whatever fails by then. -/
  again : ((reconcile .quiet user dark).on d).1 = .ok () → ∀ faults,
    ∃ j, (reconcile .quiet user dark).on
        (((reconcile .quiet user dark).on d).2.withFaults faults) =
      (.ok (), { ((reconcile .quiet user dark).on d).2.withFaults faults with journal := j })

/-- A daemon that is `Heeding` `Reconciles` every status of every user. -/
theorem Heeding.reconciles (hd : Heeding d) (hu : user ≠ noUser) (dark : Bool) :
    Reconciles d user dark where
  consistent hn := reconcile_of_consistent hn
  refused state f hs hf := by
    rcases reconcile_of_contradiction (h := .quiet) hs with
      ⟨fs, j, hok, -⟩ | ⟨f', fs, j, hf', hfiles, he⟩
    · rw [hok] at hf
      cases hf
    · rw [hf'] at hf
      obtain rfl := Except.error.inj hf
      exact ⟨fs, j, hfiles, he⟩
  corrected state hs hok hreads := by
    rcases reconcile_of_contradiction (h := .quiet) hs with ⟨fs, j, -, he⟩ | ⟨f, fs, j, hf, -⟩
    · rw [he]
      exact ⟨rfl, corrected_of_announced hd hu hs hreads fs j⟩
    · rw [hf] at hok
      cases hok
  again hok faults := by
    obtain ⟨hn, hlast⟩ := consistent_of_ok hd hu hok
    generalize ((reconcile .quiet user dark).on d).2 = d₁ at hn hlast
    obtain ⟨j, he⟩ := reconcile_of_consistent (h := .quiet) (d := d₁.withFaults faults) hn
    -- the status is known already, so remembering it changes nothing
    have hsame : (d₁.withFaults faults).remembering user dark = d₁.withFaults faults := by
      unfold remembering
      rw [show (d₁.withFaults faults).manager = d₁.manager from rfl,
        Table.insert_of_get?_eq_some hlast]
      rfl
    rw [hsame] at he
    exact ⟨j, he⟩

/-- **Only a fixed mode gives way to a status that was observed.** Whatever was asked for, whatever
    fired, and whichever calls failed: a status that a user's live mode does not contradict is
    remembered and nothing is written. A fixed mode that contradicts it is replaced in the store and
    in the state, the user keeps no timers, and the status is reported once; if it cannot be
    replaced then everything stays as it was, and the failure is answered. Right after a call that
    succeeded the same one writes nothing. -/
theorem reconciles_of_run (hm : d.manager = {}) (ho : d.settings.observers = {})
    (ops : List FaultyOperation) (hops : ∀ op ∈ ops, op.Heeded) (faults : SettingsFaults)
    {user : UserId} (hu : user ≠ noUser) (dark : Bool) :
    Reconciles (((runFaulty .quiet ops).on d).2.withFaults faults) user dark := by
  have hrun := (heeding_of_new hm ho).run ops hops
  exact (hrun.same (sameBearing_withFaults faults _)).reconciles hu dark

/-- User 100, whose mode is always light, becomes active. A dark status is observed while the store
    takes no values. -/
def darkenedInVain : List FaultyOperation :=
  [{ operation := .install { applies := false, reports := true } },
    { operation := .put StateKey.mode.name "0" 100 },
    { operation := .switch 100 },
    { operation := .reconcile 100 true, faults := { failsSet := fun _ => true } }]

/-- The daemon after that. -/
def unreconciled : Daemon := ((runFaulty .quiet darkenedInVain).on default).2

/-- The status still contradicts the mode, and is refused as long as nothing can be written. Once it
    can be, the mode is replaced. -/
theorem reconciles_of_darkenedInVain :
    (∀ faults, Reconciles (unreconciled.withFaults faults) 100 true) ∧
      (unreconciled.contradiction? 100 true).isSome = true ∧
      faultOf? ((reconcile .quiet 100 true).on (unreconciled.withFaults
        { failsSet := fun _ => true })).1 = some .storeOffline ∧
      ((reconcile .quiet 100 true).on (unreconciled.withFaults {})).2.updates =
        [(true, 100), (false, 100)] := by
  have hops : ∀ op ∈ darkenedInVain, op.Heeded := by
    simp [darkenedInVain, FaultyOperation.Heeded]
  have hu : (100 : UserId) ≠ noUser := by decide
  refine ⟨fun faults => reconciles_of_run rfl rfl darkenedInVain hops faults hu true, ?_, ?_, ?_⟩
  · decide +kernel
  · decide +kernel
  · decide +kernel

end Daemon

end Twilight
