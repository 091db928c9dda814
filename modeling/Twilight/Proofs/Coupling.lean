import Twilight.Proofs.Daemon.Operations
import Twilight.Proofs.Time.Constant

namespace Twilight

/-!
# States and timers stay coupled

States and timers are kept in two tables, each changed by many operations. Whatever operations run,
whatever alarms cannot be armed and whatever pending ones get lost, each user's record fits their
state.

* `Daemon.Coupling` — the invariant: every record is one that the state of its user asks for, unless
  that state has no usable mode.
* `Daemon.Coupling.perform` — every operation preserves it.
* `Daemon.Coupled` — what it means for one user, pending alarms included.
* `Daemon.coupled_of_run` — that holds after every run.
-/

open Time

/-- How a user's state and the window of their record belong together: the state of a usable mode
    decides about the record, and without a state there is none. -/
def Couples (state? : Option DarkModeState) (window? : Option Window) : Prop :=
  match state? with
  | none => window? = none
  | some state => state.mode = .invalid ∨ window? = state.window?

namespace Daemon

variable {lossy : Prop} {h : Hooks} {d d₁ : Daemon}

/-- The window that a user's alarms were armed for. -/
def windowOf (d : Daemon) (user : UserId) : Option Window :=
  (d.timers.get? user).map TimerRecord.window

/-- The clock, the alarms and the users' states and timers are the same. -/
structure SameUsers (d d₁ : Daemon) : Prop where
  zone : d₁.zone = d.zone
  clock : d₁.clock = d.clock
  timers : d₁.timers = d.timers
  alarms : d₁.alarms = d.alarms
  states : d₁.manager.states = d.manager.states

/-- What delivering a status changes is not compared by `SameUsers`. -/
theorem Delivered.sameUsers (hd : Delivered d d₁) : SameUsers d d₁ :=
  ⟨hd.zone, hd.clock, hd.timers, hd.alarms, hd.states⟩

/-- Neither is what exchanging observers changes. -/
theorem Observed.sameUsers (hd : Observed d d₁) : SameUsers d d₁ :=
  ⟨hd.zone, hd.clock, hd.timers, hd.alarms, hd.states⟩

/-- Every user's record fits their state, and every pending alarm belongs to a record; the wall
    clock, which decides when alarms fire, always finds a next occurrence. -/
structure Coupling (d : Daemon) : Prop where
  answers : d.zone.Answers
  clock : ∃ nanos, d.clock = .ofNanos d.zone nanos
  cancels : d.alarms.Cancels
  sound : SoundTimers d
  couples : ∀ user, Couples (d.manager.states.get? user) (d.windowOf user)

/-- A daemon that is `Fresh` has neither states nor timers nor alarms, so these are coupled. -/
theorem Fresh.coupling (hd : Fresh d) (hz : d.zone.Answers)
    (hclock : ∃ nanos, d.clock = .ofNanos d.zone nanos) (hc : d.alarms.Cancels) : Coupling d where
  answers := hz
  clock := hclock
  cancels := hc
  sound := hd.soundTimers
  couples user := by
    unfold windowOf
    rw [hd.manager, hd.timers]
    rfl

namespace Coupling

variable {user : UserId}

/-- `Coupling` reads nothing but what `SameUsers` compares, so it carries over. -/
theorem sameUsers (hc : Coupling d) (hs : SameUsers d d₁) : Coupling d₁ where
  answers := by rw [hs.zone]; exact hc.answers
  clock := by rw [hs.zone, hs.clock]; exact hc.clock
  cancels := by rw [hs.alarms]; exact hc.cancels
  sound := hc.sound.congr hs.timers hs.alarms
  couples := by
    unfold windowOf
    rw [hs.states, hs.timers]
    exact hc.couples

/-- Once a state was `Resolved`, the user's record is for the `window?` of this state, unless the
    mode is invalid. -/
theorem windowOf_of_resolved (hz : d.zone.Answers)
    (hclock : ∃ nanos, d.clock = .ofNanos d.zone nanos) {state : DarkModeState}
    (hr : Resolved lossy user state d d₁) :
    state.mode = .invalid ∨ d₁.windowOf user = state.window? := by
  unfold windowOf
  -- a mode that is not usable leaves the record as it was
  cases hr with
  | unset mode _ => exact .inl mode
  | cleared _ window cleared =>
    refine .inr ?_
    rw [cleared.timers, Table.get?_erase_self, window]
    rfl
  | armed w _ _ window _ rearmed =>
    refine .inr ?_
    rw [rearmed.timers, Table.get?_insert_self, window]
    rfl
  | stuck w f window occurrences _ =>
    -- the wall clock always finds a next occurrence
    obtain ⟨nanos, hnow⟩ := hclock
    obtain ⟨triggers, ho⟩ := hz.occurrences (DarkModeState.window?_eq_some.1 window).2.2 nanos
    rw [hnow, ho] at occurrences
    contradiction

/-- A user whose state was `Settled` is coupled by it, and everybody else stays coupled. -/
theorem settled (hc : Coupling d) {state : DarkModeState} {policy : NotifyPolicy}
    (hs : Settled lossy user state policy d d₁) : Coupling d₁ := by
  obtain ⟨d₀, hr, hn⟩ := hs
  -- the notification concerns neither states nor timers
  suffices hd₀ : Coupling d₀ from hd₀.sameUsers hn.delivered.sameUsers
  have hsound : SoundTimers (d.withState user state) :=
    hc.sound.congr rfl rfl
  refine ⟨?_, ?_, hr.plans.cancels hc.cancels, hr.soundTimers hsound, fun other => ?_⟩
  · rw [hr.rescheduled.zone]
    exact hc.answers
  · rw [hr.rescheduled.zone, hr.rescheduled.clock]
    exact hc.clock
  · rw [hr.rescheduled.manager]
    show Couples ((d.manager.states.insert user state).get? other) _
    rw [Table.get?_insert]
    -- the user whose state is settled, or anybody else
    by_cases ho : other = user
    · rw [if_pos ho, ho]
      exact windowOf_of_resolved (d := d.withState user state) hc.answers hc.clock hr
    · rw [if_neg ho]
      have hwin : d₀.windowOf other = d.windowOf other := by
        unfold windowOf
        rw [hr.timers_of_ne ho]
        rfl
      rw [hwin]
      exact hc.couples other

/-- A user who was `Retired` has neither state nor record, so that `Coupling` is kept. -/
theorem retired (hc : Coupling d) (hr : Retired lossy user d d₁) : Coupling d₁ := by
  cases hr with
  | nobody _ same =>
    rw [same]
    exact hc
  | forgotten _ cleared =>
    -- the state is forgotten first, and the record goes after it
    have hsound : SoundTimers (d.withoutState user) :=
      hc.sound.congr rfl rfl
    refine ⟨?_, ?_, cleared.plans.cancels hc.cancels, hsound.cleared cleared, fun other => ?_⟩
    · rw [cleared.rescheduled.zone]
      exact hc.answers
    · rw [cleared.rescheduled.zone, cleared.rescheduled.clock]
      exact hc.clock
    · rw [cleared.rescheduled.manager]
      unfold windowOf
      rw [cleared.timers]
      show Couples ((d.manager.states.erase user).get? other)
        (((d.timers.erase user).get? other).map TimerRecord.window)
      rw [Table.get?_erase, Table.get?_erase]
      by_cases ho : other = user
      · rw [if_pos ho, if_pos ho]
        rfl
      · rw [if_neg ho, if_neg ho]
        exact hc.couples other

/-- A change that the manager was told of leaves the user with a state and the timers for it, or as
    they were, so `Coupling` is kept. -/
theorem changed (hc : Coupling d) {key : String} (hch : Changed lossy key user d d₁) :
    Coupling d₁ := by
  cases hch with
  | ignored _ logged => exact hc.sameUsers logged.delivered.sameUsers
  | taken _ _ _ settled => exact hc.settled settled

/-- A request that is honoured sets up its user anew, and one that came too late does nothing; both
    keep the `Coupling`. -/
theorem fired (hc : Coupling d) {request : ScheduleRequest} (hf : Fired lossy request d d₁) :
    Coupling d₁ := by
  cases hf with
  | ignored _ logged => exact hc.sameUsers logged.delivered.sameUsers
  | outOfRange _ _ notified => exact hc.sameUsers notified.delivered.sameUsers
  | honoured _ _ _ _ settled => exact hc.settled settled

/-- An announced value is a change for the manager, or is noted by a callback, which keeps the
    `Coupling`. -/
theorem announced (hc : Coupling d) {key : String} (ha : Announced lossy key user d d₁) :
    Coupling d₁ := by
  cases ha with
  | manager _ _ changed => exact hc.changed changed
  | others _ noted =>
    obtain ⟨e, rfl⟩ := noted
    exact hc.sameUsers ⟨rfl, rfl, rfl, rfl, rfl⟩

/-- Storing a value keeps the `Coupling`, whether it is refused or taken and announced. -/
theorem put (hc : Coupling d) {key value : String} (hp : Put lossy key value user d d₁) :
    Coupling d₁ := by
  cases hp with
  | refused fs _ same =>
    rw [same]
    exact hc.sameUsers ⟨rfl, rfl, rfl, rfl, rfl⟩
  | stored fs _ announced =>
    have hput : Coupling { d.withValues (d.settings.values.put key value user) with files := fs } :=
      hc.sameUsers ⟨rfl, rfl, rfl, rfl, rfl⟩
    exact hput.announced announced

/-- An observed status is remembered, and before that a mode may be stored, neither of which breaks
    the `Coupling`. -/
theorem reconciled (hc : Coupling d) (hr : Reconciled lossy user d d₁) : Coupling d₁ := by
  cases hr with
  | remembered delivered => exact hc.sameUsers delivered.sameUsers
  | corrected value j d₀ put delivered =>
    have hlog : Coupling { d with journal := j } := hc.sameUsers ⟨rfl, rfl, rfl, rfl, rfl⟩
    exact (hlog.put put).sameUsers delivered.sameUsers

/-- A switch forgets one user with their timers and loads another one with theirs, so the `Coupling`
    is kept at whatever stage it ends. -/
theorem switched (hc : Coupling d) {r : Except Fault Unit}
    (hs : Switched lossy user d (r, d₁)) : Coupling d₁ := by
  cases hs with
  | refused _ _ _ observed => exact hc.sameUsers observed.sameUsers
  | unloaded _ d₀ _ _ observed retired => exact (hc.sameUsers observed.sameUsers).retired retired
  | loaded d₀ d₂ _ observed _ _ _ retired settled =>
    exact ((hc.sameUsers observed.sameUsers).retired retired).settled settled

/-! ### Runs of callbacks -/

/-- Announcing changes one after the other keeps `Coupling`. By induction on the changes. -/
theorem announceAll (hl : h.Losing lossy) (changes : List (String × UserId)) (hc : Coupling d) :
    Coupling ((Daemon.announceAll h changes).on d).2 :=
  announceAll_induction (fun _ _ hc => hc.sameUsers ⟨rfl, rfl, rfl, rfl, rfl⟩)
    (fun key user _ hc => hc.announced (announce_on hl hc.cancels key user)) changes hc

/-- Firing an alarm keeps the `Coupling`, whatever its action is. -/
theorem fire (hl : h.Losing lossy) (action : AlarmAction) (hc : Coupling d) :
    Coupling ((Daemon.fire h action).on d).2 := by
  rcases fire_cases hl hc.cancels action with ⟨request, hf⟩ | ⟨e, he⟩
  · exact hc.fired hf
  · rw [he]
    exact hc.sameUsers ⟨rfl, rfl, rfl, rfl, rfl⟩

/-- Firing all that is due keeps the `Coupling`, one alarm after the other. -/
theorem fireDue (hl : h.Losing lossy) (hc : Coupling d) : Coupling ((Daemon.fireDue h).on d).2 :=
  fireDue_induction (fun action _ hd => hd.fire hl action)
    ⟨hc.answers, hc.clock, hc.cancels, hc.sound.takeDue _ _, hc.couples⟩

/-- Setting up all timers anew arms every record for its own window again, which keeps the
    `Coupling`. -/
theorem resync (hl : h.Losing lossy) (hc : Coupling d) : Coupling ((Daemon.resync h).on d).2 := by
  obtain ⟨d₀, hlog, hn⟩ := resync_restartAll hl d
  obtain ⟨hr, hsound⟩ := restartAll_on hl hc.cancels hc.sound
  have hrestarted : Coupling ((restartAll h).on d).2 := by
    refine ⟨?_, ?_, hr.plans.cancels hc.cancels, hsound, fun user => ?_⟩
    · rw [hr.rescheduled.zone]
      exact hc.answers
    · rw [hr.rescheduled.zone, hr.rescheduled.clock]
      exact hc.clock
    · -- the windows of the records stay
      unfold windowOf
      rw [hr.rescheduled.manager, hr.windows]
      exact hc.couples user
  exact (hrestarted.sameUsers hlog.delivered.sameUsers).sameUsers hn.delivered.sameUsers

/-- Every operation keeps `Coupling`, whichever calls to arm fail. The cases are those of
    `Operation`. -/
theorem perform (hl : h.Losing lossy) (op : Operation) (hc : Coupling d) :
    Coupling ((op.perform h).on d).2 := by
  cases op with
  | install receiver =>
    obtain ⟨j, hj⟩ := install_on receiver d
    show Coupling ((Daemon.install receiver).on d).2
    rw [hj]
    exact hc.sameUsers ⟨rfl, rfl, rfl, rfl, rfl⟩
  | load user notify => exact hc.settled (loadWith_on hl hc.cancels user _)
  | reevaluate user notify => exact hc.settled (reevaluate_on hl hc.cancels user notify)
  | switch user => exact hc.switched (switchUser_cases hl hc.cancels user)
  | put key value user => exact hc.put (putSetting_on hl hc.cancels key value user)
  | rewrite files order =>
    show Coupling ((rewriteSettings h files order).on d).2
    rcases rewriteSettings_cases files order d with he | ⟨t, j, he⟩
    · rw [he]
      exact hc.sameUsers ⟨rfl, rfl, rfl, rfl, rfl⟩
    · rw [he]
      -- taking the file over concerns no state; announcing its changes does
      have htaken : Coupling { d.withValues t with files := files, journal := j } :=
        hc.sameUsers ⟨rfl, rfl, rfl, rfl, rfl⟩
      exact htaken.announceAll hl _
  | fire request boundary => exact hc.fired (fireBoundary_on hl hc.cancels request boundary)
  | fireDue => exact hc.fireDue hl
  | resync => exact hc.resync hl
  | reconcile user dark => exact hc.reconciled (reconcile_on hl hc.cancels user dark)
  | setClock nanos =>
    exact ⟨hc.answers, ⟨nanos, rfl⟩, hc.cancels,
      hc.sound.congr rfl rfl, hc.couples⟩
  | lose gone => exact ⟨hc.answers, hc.clock, hc.cancels, hc.sound.losing gone, hc.couples⟩

end Coupling

/-! ### What it means for a user -/

/-- A user's state, record and pending alarms fit each other. -/
structure Coupled (d : Daemon) (user : UserId) : Prop where
  /-- A window with valid bounds has a record with exactly those bounds. -/
  scheduled : ∀ state, d.manager.states.get? user = some state → state.mode = .customWindow →
    state.window.valid = true → ∃ r, d.timers.get? user = some r ∧ r.window = state.window
  /-- A fixed mode, and a window with bounds out of range, have neither record nor alarms. -/
  unscheduled : ∀ state, d.manager.states.get? user = some state →
    state.mode = .alwaysLight ∨ state.mode = .alwaysDark ∨
      state.mode = .customWindow ∧ state.window.valid = false →
    d.timers.get? user = none ∧ d.alarmsOf user = []
  /-- A record is there for the window of a state, or for one whose mode is not usable by now. -/
  explained : ∀ r, d.timers.get? user = some r →
    ∃ state, d.manager.states.get? user = some state ∧
      (state.mode = .customWindow ∧ state.window = r.window ∨ state.mode = .invalid)
  /-- Without a state there is neither record nor alarms. -/
  stateless : d.manager.states.get? user = none → d.timers.get? user = none ∧ d.alarmsOf user = []

namespace Coupling

variable {user : UserId} {state : DarkModeState}

/-- A user with a state has the record that their state asks for, unless its mode is invalid. -/
theorem couples_of_state (hc : Coupling d) (hstate : d.manager.states.get? user = some state) :
    state.mode = .invalid ∨ d.windowOf user = state.window? := by
  have hcouples := hc.couples user
  rw [hstate] at hcouples
  exact hcouples

/-- A user whose state asks for no record has neither record nor alarms. -/
theorem nothing_of_windowOf (hc : Coupling d) (hw : d.windowOf user = none) :
    d.timers.get? user = none ∧ d.alarmsOf user = [] := by
  have hr : d.timers.get? user = none := Option.map_eq_none_iff.1 hw
  exact ⟨hr, hc.sound.alarmsOf_eq_nil hr⟩

/-- Under `Coupling`, whoever has a record has a state that explains it: a window with its bounds,
    or an invalid mode, which leaves timers alone. -/
theorem explained (hc : Coupling d) {r : TimerRecord} (hr : d.timers.get? user = some r) :
    ∃ state, d.manager.states.get? user = some state ∧
      (state.mode = .customWindow ∧ state.window = r.window ∨ state.mode = .invalid) := by
  have hwin : d.windowOf user = some r.window := by
    unfold windowOf
    rw [hr]
    rfl
  cases hstate : d.manager.states.get? user with
  | none =>
    have hcouples := hc.couples user
    rw [hstate, hwin] at hcouples
    contradiction
  | some state =>
    refine ⟨state, rfl, ?_⟩
    rcases hc.couples_of_state hstate with hm | hw
    · exact .inr hm
    · obtain ⟨hm, heq, _⟩ := DarkModeState.window?_eq_some.1 (hw.symm.trans hwin)
      exact .inl ⟨hm, heq⟩

/-- From the `Coupling` of a daemon to what it means for one user: state, record and pending alarms
    fit each other, in both directions. -/
theorem coupled (hc : Coupling d) (user : UserId) : Coupled d user where
  scheduled := by
    intro state hstate hm hv
    have hw := (hc.couples_of_state hstate).resolve_left (by simp [hm])
    rw [DarkModeState.window?_eq_some.2 ⟨hm, rfl, hv⟩] at hw
    exact Option.map_eq_some_iff.1 hw
  unscheduled := by
    intro state hstate hm
    have husable : state.mode ≠ .invalid := by
      rcases hm with hm | hm | ⟨hm, _⟩ <;> simp [hm]
    have hnone : state.window? = none := by
      rcases hm with hm | hm | ⟨_, hv⟩
      · simp [DarkModeState.window?, hm]
      · simp [DarkModeState.window?, hm]
      · simp [DarkModeState.window?, hv]
    -- the mode is valid, so the record is the one that the state asks for: none
    have hw := (hc.couples_of_state hstate).resolve_left husable
    exact hc.nothing_of_windowOf (hw.trans hnone)
  explained _ hr := hc.explained hr
  stateless := by
    intro hstate
    have hcouples := hc.couples user
    rw [hstate] at hcouples
    exact hc.nothing_of_windowOf hcouples

end Coupling

/-- **States, records and alarms stay coupled.** In a zone where every minute occurs again, whatever
    is asked of a fresh daemon, whichever calls to arm fail and whichever alarms get lost, at any
    time: as long as no cancelling fails, every user's state, record and alarms fit each other. -/
theorem coupled_of_run (hl : h.Losing True) (hd : Fresh d) (hz : d.zone.Answers)
    (hclock : ∃ nanos, d.clock = .ofNanos d.zone nanos) (hc : d.alarms.Cancels)
    (ops : List Operation) (user : UserId) : Coupled ((runAll h ops).on d).2 user := by
  have hrun : Coupling ((runAll h ops).on d).2 :=
    runAll_induction (fun _ => True) (fun op _ _ hd => hd.perform hl op) ops
      (fun _ _ => trivial) (hd.coupling hz hclock hc)
  exact hrun.coupled user

/-- A record of which only the first alarm could be armed fits its state all the same. -/
theorem coupled_of_failed_arm :
    (((runAll .quiet (nightUser 100)).on { (default : Daemon) with
      alarms := AlarmService.failArmsAfter {} 1 }).2.timers.get? 100).map TimerRecord.ids =
        some [1] ∧
      Coupled ((runAll .quiet (nightUser 100)).on { (default : Daemon) with
        alarms := AlarmService.failArmsAfter {} 1 }).2 100 := by
  refine ⟨by decide +kernel, coupled_of_run (Hooks.quiet_losing True) ?_ ?_ ⟨0, rfl⟩ ?_ _ 100⟩
  · exact ⟨rfl, rfl, fun _ => rfl⟩
  · exact Zone.Constant.answers fun t ht => absurd ht (List.not_mem_nil)
  · exact fun _ => rfl

end Daemon

end Twilight
