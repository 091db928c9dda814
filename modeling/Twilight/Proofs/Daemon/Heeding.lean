import Twilight.Proofs.Blindness
import Twilight.Proofs.Observers

namespace Twilight

/-!
# What the manager hears of

A fixed mode gets into the manager when all settings of a user are observed, or when a change of the
mode is announced. Either way the mode is observed from then on until its user is no longer active,
whichever calls on the store and on the alarm service fail in between.

* `Daemon.Heeding` — the invariant: of all users only the active one has a state, and a mode that is
  fixed is observed.
* `Daemon.Heeding.of_mended` — it does not depend on what the alarm service does.
* `Daemon.Heeding.announced`, `Daemon.sameBearing_fireBoundary`, `Daemon.Heeding.switchUser` —
  changes, firings and switches keep it.
* `Daemon.heeding_of_new`, `Daemon.Heeding.run` — so it is after every run of a new manager.
-/

/-- `ofName?` finds a setting under its own name only. -/
theorem StateKey.name_of_ofName? {name : String} {key : StateKey} (hk : ofName? name = some key) :
    key.name = name := by
  unfold ofName? at hk
  simpa using List.find?_some hk

namespace Daemon

variable {lossy : Prop} {h : Hooks} {d d₁ d₂ : Daemon} {user : UserId}

/-! ### The invariant -/

/-- Everything that is observed is observed by the manager, who is told of it as it is. -/
def OwnObservers (d : Daemon) : Prop :=
  ∀ key user observer, d.settings.observers.get? (key, user) = some observer →
    observer = ⟨key, .manager⟩

/-- Of all users only the active one has a state; a mode that is fixed is observed; and whoever
    receives statuses, reports them. Nothing is said of the number that stands for nobody: a switch
    to it leaves a state that no later switch removes. -/
structure Heeding (d : Daemon) : Prop where
  own : OwnObservers d
  live : ∀ user, user ≠ noUser → ∀ state, d.manager.states.get? user = some state →
    user = d.manager.active
  fixed : ∀ user, user ≠ noUser → ∀ state, d.manager.states.get? user = some state →
    state.mode.isFixed = true → d.Observes user .mode
  reports : ∀ r, d.manager.receiver = some r → r.reports = true
  installed : d.manager.active ≠ noUser → d.manager.receiver ≠ none

/-- What the invariant is about is the same. -/
structure SameBearing (d d₁ : Daemon) : Prop where
  observers : d₁.settings.observers = d.settings.observers
  states : d₁.manager.states = d.manager.states
  active : d₁.manager.active = d.manager.active
  receiver : d₁.manager.receiver = d.manager.receiver

namespace SameBearing

theorem refl (d : Daemon) : SameBearing d d := ⟨rfl, rfl, rfl, rfl⟩

theorem trans (h₁ : SameBearing d d₁) (h₂ : SameBearing d₁ d₂) : SameBearing d d₂ :=
  ⟨h₂.observers.trans h₁.observers, h₂.states.trans h₁.states, h₂.active.trans h₁.active,
    h₂.receiver.trans h₁.receiver⟩

end SameBearing

/-- A daemon that was `Rescheduled` has the `SameBearing`: timers, alarms and lines have nothing to
    do with what is heeded. -/
theorem Rescheduled.sameBearing (hr : Rescheduled d d₁) : SameBearing d d₁ := by
  obtain ⟨_, _, _, rfl⟩ := hr
  exact ⟨rfl, rfl, rfl, rfl⟩

/-- A daemon that `Delivered` a status has the `SameBearing`, whatever the receiver did about it. -/
theorem Delivered.sameBearing (hd : Delivered d d₁) : SameBearing d d₁ := by
  obtain ⟨_, _, _, _, _, _, rfl⟩ := hd
  exact ⟨rfl, rfl, rfl, rfl⟩

/-- Daemons that are `Alike` have the same observers, states and receiver. -/
theorem Alike.sameBearing (ha : Alike d d₁) : SameBearing d d₁ := by
  obtain ⟨_, _, _, _, rfl⟩ := ha
  exact ⟨rfl, rfl, rfl, rfl⟩

/-- Which calls on the store fail has nothing to do with it either. -/
theorem sameBearing_withFaults (faults : SettingsFaults) (d : Daemon) :
    SameBearing d (d.withFaults faults) := ⟨rfl, rfl, rfl, rfl⟩

namespace Heeding

/-- `Heeding` reads nothing but what `SameBearing` compares, so it carries over. -/
theorem same (hd : Heeding d) (hs : SameBearing d d₁) : Heeding d₁ where
  own := by
    unfold OwnObservers
    rw [hs.observers]
    exact hd.own
  live := by
    rw [hs.states, hs.active]
    exact hd.live
  fixed := by
    unfold Observes
    rw [hs.states, hs.observers]
    exact hd.fixed
  reports := by
    rw [hs.receiver]
    exact hd.reports
  installed := by
    rw [hs.active, hs.receiver]
    exact hd.installed

/-- An action that treats alike daemons alike need only be looked at where no call on the alarm
    service fails. -/
theorem of_mended {α : Type} {R : α → α → Prop} {act : Act α} (ht : Act.Twin R act act)
    (hd : Heeding (act.on d.mended).2) : Heeding (act.on d).2 := by
  have halike := (ht d d.mended (alike_mended d)).2
  obtain ⟨ho, hs, ha, hr⟩ := halike.sameBearing
  exact hd.same ⟨ho.symm, hs.symm, ha.symm, hr.symm⟩

/-- A daemon goes on heeding when no call on its alarm service fails any more. -/
theorem mended (hd : Heeding d) : Heeding d.mended := hd.same (alike_mended d).sameBearing

/-- A daemon that is `Heeding` has a receiver that reports, once somebody is active. -/
theorem reporting (hd : Heeding d) (hsomebody : d.manager.active ≠ noUser) : d.Reporting := by
  obtain ⟨r, hr⟩ := Option.ne_none_iff_exists'.1 (hd.installed hsomebody)
  exact ⟨r, hr, hd.reports r hr⟩

/-! ### Changes of settings -/

/-- The active user's state may be settled, if its mode is not fixed or is observed. -/
theorem settled (hd : Heeding d) {state : DarkModeState} {policy : NotifyPolicy}
    (hactive : user = d.manager.active)
    (hobs : user ≠ noUser → state.mode.isFixed = true → d.Observes user .mode)
    (hs : Settled lossy user state policy d d₁) : Heeding d₁ := by
  obtain ⟨d₀, hr, hc⟩ := hs
  suffices hset : Heeding (d.withState user state) from
    hset.same (hr.rescheduled.sameBearing.trans hc.delivered.sameBearing)
  refine ⟨hd.own, fun other hu s hstate => ?_, fun other hu s hstate hfixed => ?_, hd.reports,
    hd.installed⟩
  · -- a live state is that of `user` or was there before, and `user` is active
    by_cases ho : other = user
    · exact ho.trans hactive
    · rw [withState, Table.get?_insert_of_ne _ ho] at hstate
      exact hd.live other hu s hstate
  · by_cases ho : other = user
    · subst ho
      rw [withState, Table.get?_insert_self] at hstate
      obtain rfl := Option.some.inj hstate
      exact hobs hu hfixed
    · rw [withState, Table.get?_insert_of_ne _ ho] at hstate
      exact hd.fixed other hu s hstate hfixed

/-- The mode of the active user's state is observed if it is fixed; a state that is new has none. -/
theorem observes_of_liveState (hd : Heeding d) (hu : user ≠ noUser)
    (hfixed : (d.liveState user).mode.isFixed = true) : d.Observes user .mode := by
  cases hstate : d.manager.states.get? user with
  | none =>
    rw [liveState_of_none hstate] at hfixed
    cases hfixed
  | some state =>
    rw [liveState_of_get? hstate] at hfixed
    exact hd.fixed user hu state hstate hfixed

/-- A mode that is fixed after a change was announced is observed: either it was announced, or it
    was fixed before. -/
theorem announced {key : String} (hd : Heeding d) (ha : Announced lossy key user d d₁) :
    Heeding d₁ := by
  cases ha with
  | others observer noted =>
    -- another observer only notes the change
    obtain ⟨e, rfl⟩ := noted
    exact hd.same ⟨rfl, rfl, rfl, rfl⟩
  | manager told observer changed =>
    obtain rfl : told = key := congrArg Observer.told (hd.own key user _ observer)
    cases changed with
    | ignored _ logged => exact hd.same logged.rescheduled.sameBearing
    | taken part name active settled =>
      refine hd.settled active (fun hu hfixed => ?_) settled
      cases part with
      | mode =>
        obtain rfl := StateKey.name_of_ofName? name
        exact observer
      | start => exact hd.observes_of_liveState hu hfixed
      | finish => exact hd.observes_of_liveState hu hfixed

/-- Announcing a value keeps a daemon `Heeding`: the manager reads the state of an active user, and
    callbacks only note. -/
theorem announce (hd : Heeding d) (key : String) (user : UserId) :
    Heeding ((Daemon.announce .quiet key user).on d).2 := by
  have hl : Hooks.quiet.Losing True := Hooks.quiet_losing True
  have hc := mended_cancels d
  exact of_mended (twin_announce hl key user) (hd.mended.announced (announce_on hl hc key user))

/-- Announcing changes one after the other keeps a daemon `Heeding`. -/
theorem announceAll (hd : Heeding d) (changes : List (String × UserId)) :
    Heeding ((Daemon.announceAll .quiet changes).on d).2 :=
  announceAll_induction (fun _ _ hd => hd.same ⟨rfl, rfl, rfl, rfl⟩)
    (fun key user _ hd => hd.announce key user) changes hd

/-- So does reading a rewritten file: what it holds is taken over before any of it is announced. -/
theorem rewriteSettings (hd : Heeding d) (files : FileSystem)
    (order : List (String × UserId) → List (String × UserId)) :
    Heeding ((Daemon.rewriteSettings .quiet files order).on d).2 := by
  rcases rewriteSettings_cases (h := .quiet) files order d with he | ⟨t, j, he⟩
  · rw [he]
    exact hd.same ⟨rfl, rfl, rfl, rfl⟩
  · have htaken : Heeding { d.withValues t with files := files, journal := j } :=
      hd.same ⟨rfl, rfl, rfl, rfl⟩
    rw [he]
    exact htaken.announceAll _

/-- So does storing a value, whether it is refused or taken and announced. -/
theorem put {key value : String} (hd : Heeding d) (hp : Put lossy key value user d d₁) :
    Heeding d₁ := by
  cases hp with
  | refused fs _ same =>
    rw [same]
    exact hd.same ⟨rfl, rfl, rfl, rfl⟩
  | stored fs _ announced =>
    have htaken : Heeding
        { d.withValues (d.settings.values.put key value user) with files := fs } :=
      hd.same ⟨rfl, rfl, rfl, rfl⟩
    exact htaken.announced announced

/-- Reconciling a status keeps a daemon `Heeding`, as a mode that is stored is announced. -/
theorem reconciled (hd : Heeding d) (hr : Reconciled lossy user d d₁) : Heeding d₁ := by
  cases hr with
  | remembered delivered => exact hd.same delivered.sameBearing
  | corrected value j d₀ put delivered =>
    have hlogged : Heeding { d with journal := j } := hd.same ⟨rfl, rfl, rfl, rfl⟩
    exact (hlogged.put put).same delivered.sameBearing

end Heeding

/-! ### Firings and restarts -/

/-- `fireBoundary` leaves it to the settings what state a user has, so the daemon has the
    `SameBearing`. -/
theorem sameBearing_fireBoundary (hl : h.Losing lossy) (request : ScheduleRequest)
    (boundary : Boundary) (d : Daemon) :
    SameBearing d ((fireBoundary h request boundary).on d).2 := by
  unfold fireBoundary isForActiveUser
  rw [Act.on_bind, Act.on_get_bind]
  by_cases hactive : request.user = d.manager.active
  · rw [if_pos hactive]
    by_cases hreq : d.liveRequest? request.user = some request
    · -- the alarms are armed again, and the status is notified
      obtain ⟨j, d₁, hlog, he⟩ := honour_of_live (h := h) boundary hreq
      have hsched := reschedules_scheduleRequest hl request { d with journal := j }
      have hall := (Rescheduled.trans ⟨_, _, j, rfl⟩ hsched).trans hlog.rescheduled
      have hnotified :=
        notify_on hl.run (request.window.containsMoment d₁.clock) request.user .always d₁
      simp only [Act.on_pure, if_true, Act.on_bind, he]
      exact hall.sameBearing.trans hnotified.delivered.sameBearing
    · obtain ⟨d₁, he, hlog⟩ := honour_of_stale (h := h) boundary hreq
      simp only [Act.on_pure, if_true, Act.on_bind, he]
      exact hlog.rescheduled.sameBearing
  · rw [if_neg hactive]
    exact (Act.logs_debug _ d).rescheduled.sameBearing

/-- Firing an alarm reloads at most a state that is there, which bears the same. -/
theorem sameBearing_fire (hl : h.Losing lossy) (action : AlarmAction) (d : Daemon) :
    SameBearing d ((fire h action).on d).2 := by
  cases action with
  | boundary request boundary => exact sameBearing_fireBoundary hl request boundary d
  | script label boundary steps =>
    simp only [fire, Act.on_bind, note, Act.on_modify, hl.run, Act.on_pure]
    exact ⟨rfl, rfl, rfl, rfl⟩

/-- `fireDue` leaves the daemon with the `SameBearing`, whichever alarms are due. -/
theorem sameBearing_fireDue (hl : h.Losing lossy) (d : Daemon) :
    SameBearing d ((fireDue h).on d).2 :=
  fireDue_induction (P := SameBearing d)
    (fun action d₁ hs => hs.trans (sameBearing_fire hl action d₁)) ⟨rfl, rfl, rfl, rfl⟩

/-- `resync` leaves the daemon with the `SameBearing`, as it sets up timers anew and reports a
    status at most. -/
theorem sameBearing_resync (hl : h.Losing lossy) (d : Daemon) :
    SameBearing d ((resync h).on d).2 := by
  obtain ⟨d₀, hlog, hc⟩ := resync_restartAll hl d
  have hrestarted := (reschedules_restartAll hl d).trans hlog.rescheduled
  exact hrestarted.sameBearing.trans hc.delivered.sameBearing

/-! ### Switching -/

namespace OwnObservers

/-- Unregistering observers leaves none but those of the manager, whatever could be unregistered. -/
theorem unobserveAll (ho : OwnObservers d) (user : UserId) (keys : List StateKey) :
    OwnObservers ((Daemon.unobserveAll user keys).on d).2 := by
  induction keys generalizing d with
  | nil => exact ho
  | cons first rest ih =>
    by_cases hf : d.settings.faults.failsUnregister first.name = true
    · obtain ⟨j, he⟩ := unobserveAll_cons_of_fails user hf rest
      rw [he]
      exact ih (d := { d with journal := j }) ho
    · rw [unobserveAll_cons user hf]
      refine ih fun key other observer hobs => ?_
      rw [unobserving, Table.get?_erase] at hobs
      by_cases hk : (key, other) = (first.name, user)
      · rw [if_pos hk] at hobs
        cases hobs
      · rw [if_neg hk] at hobs
        exact ho key other observer hobs

/-- Unregistering the active user's observers keeps `OwnObservers`. -/
theorem unobserveActive (ho : OwnObservers d) (previous : UserId) :
    OwnObservers ((Daemon.unobserveActive previous).on d).2 := by
  unfold Daemon.unobserveActive
  by_cases hp : previous ≠ noUser
  · obtain ⟨j, hj⟩ := Act.logs_info s!"Clearing timers and observers for user {previous}" d
    rw [if_pos hp]
    simp only [Act.on_bind, hj]
    exact unobserveAll (d := { d with journal := j }) ho previous StateKey.all
  · rw [if_neg hp]
    exact ho

/-- A store that tells observers the keys they asked for goes on doing so. -/
theorem observeAll (ho : OwnObservers d) (htold : d.settings.faults.toldKey = none)
    (user : UserId) (keys : List StateKey) :
    OwnObservers ((Daemon.observeAll user keys).on d).2 := by
  induction keys generalizing d with
  | nil => exact ho
  | cons first rest ih =>
    by_cases hf : d.settings.faults.failsRegister first.name = true
    · obtain ⟨j, he⟩ := observeAll_cons_of_fails user hf rest
      rw [he]
      exact ih (d := { d with journal := j }) ho htold
    · rw [observeAll_cons user hf]
      refine ih (fun key other observer hobs => ?_) htold
      -- with no `toldKey` an observer is told the key it was registered with
      rw [observing, htold, Table.get?_insert] at hobs
      by_cases hk : (key, other) = (first.name, user)
      · rw [if_pos hk] at hobs
        obtain ⟨rfl, rfl⟩ := Prod.mk.inj hk
        exact (Option.some.inj hobs).symm
      · rw [if_neg hk] at hobs
        exact ho key other observer hobs

/-- Under `OwnObservers`, a setting of which an observer is held is observed by the manager. -/
theorem observes (ho : OwnObservers d) {key : StateKey} (hk : d.Holds key user) :
    d.Observes user key := by
  obtain ⟨observer, hobs⟩ := Option.isSome_iff_exists.1 hk
  rw [ho key.name user observer hobs] at hobs
  exact hobs

end OwnObservers

namespace Heeding

/-- Observers of another user take the place of the active one's. Unless one of them was refused,
    the mode is observed. -/
theorem exchanged (hd : Heeding d) (htold : d.settings.faults.toldKey = none) {previous : UserId}
    {n : Nat} (he : (exchangeObservers user).on d = ((previous, n), d₁)) :
    previous = d.manager.active ∧ OwnObservers d₁ ∧ (n = 0 → d₁.Observes user .mode) ∧
      Observed d d₁ ∧ d₁.manager.active = user := by
  obtain ⟨_, _, he', hobs, hactive, -⟩ := exchangeObservers_on user d
  obtain ⟨hp, rfl⟩ := Prod.mk.inj (he.symm.trans he')
  obtain ⟨_, _, _, _, hfaults, -⟩ := unobserveActive_on d.manager.active user d
  have hgone := hd.own.unobserveActive d.manager.active
  -- the store still tells the manager the right keys once the old observers are gone
  have htold₀ : ((unobserveActive d.manager.active).on d).2.settings.faults.toldKey = none := by
    rw [hfaults]
    exact htold
  unfold exchangeObservers at he
  rw [Act.on_get_bind, Act.on_bind] at he
  generalize ((unobserveActive d.manager.active).on d).2 = d₀ at he hgone htold₀
  have hown := hgone.observeAll htold₀ user StateKey.all
  obtain ⟨hzero, hholds⟩ := holds_observeAll user StateKey.all d₀
  rw [Act.on_bind] at he
  generalize (observeAll user StateKey.all).on d₀ = observed at he hown hzero hholds
  obtain ⟨failures, d₂⟩ := observed
  obtain ⟨hn, rfl⟩ := Prod.mk.inj he
  obtain ⟨-, rfl⟩ := Prod.mk.inj hn
  refine ⟨(Prod.mk.inj hp).1, hown, fun hnone => ?_, hobs, hactive⟩
  -- without a failure every observer was registered, that of the mode among them
  have hregistered := hzero.1 hnone .mode (StateKey.mem_all _)
  exact hown.observes ((hholds .mode user).2 (.inr ⟨rfl, StateKey.mem_all _, hregistered⟩))

/-- Once the user who was active is forgotten, no user has a state. -/
theorem states_of_retired (hd : Heeding d) {d₀ : Daemon} (hobs : Observed d d₀)
    (hret : Retired lossy d.manager.active d₀ d₁) {other : UserId} (hu : other ≠ noUser) :
    d₁.manager.states.get? other = none := by
  cases hret with
  | nobody nobody same =>
    rw [same, hobs.states]
    by_contra hstate
    obtain ⟨state, hstate⟩ := Option.ne_none_iff_exists'.1 hstate
    -- a state would be that of the active user, and nobody is active
    exact hu ((hd.live other hu state hstate).trans nobody)
  | forgotten _ cleared =>
    have hstates : d₁.manager.states = d₀.manager.states.erase d.manager.active := by
      rw [cleared.rescheduled.manager]
      rfl
    rw [hstates, hobs.states, Table.get?_erase]
    by_cases ho : other = d.manager.active
    · rw [if_pos ho]
    · rw [if_neg ho]
      by_contra hstate
      obtain ⟨state, hstate⟩ := Option.ne_none_iff_exists'.1 hstate
      exact ho (hd.live other hu state hstate)

/-- A switch may be refused, or observe only some settings and load none, or load them all. -/
theorem switchUser_of_cancels (hc : d.alarms.Cancels) (hd : Heeding d)
    (htold : d.settings.faults.toldKey = none) (user : UserId) :
    Heeding ((Daemon.switchUser .quiet user).on d).2 := by
  have hl : Hooks.quiet.Losing True := Hooks.quiet_losing True
  by_cases hs : d.CanSwitch
  · obtain ⟨b, j, previous, n, d₀, hexchange, he⟩ := switchUser_stages (h := .quiet) hs user
    have hready : Heeding { d with
        settings := { d.settings with faults := { d.settings.faults with ready := b } }
        journal := j } := hd.same ⟨rfl, rfl, rfl, rfl⟩
    obtain ⟨rfl, hown, hmode, hobs, hactive⟩ := hready.exchanged htold hexchange
    have hc₀ : d₀.alarms.Cancels := by
      rw [hobs.alarms]
      exact hc
    have hret := retire_on hl hc₀ d.manager.active
    -- after the old user is retired nobody has a state
    have hnobody : ∀ other, other ≠ noUser →
        ((retire .quiet d.manager.active).on d₀).2.manager.states.get? other = none :=
      fun other => hready.states_of_retired hobs hret
    have hc₁ := hret.plans.cancels hc₀
    have hreceiver : d₀.manager.receiver = d.manager.receiver := hobs.receiver
    obtain ⟨s, t, a, j₁, hretired⟩ := hret.eq
    rw [hretired] at hnobody hc₁
    -- so there is nothing to heed until the new user is activated
    have hforgot : Heeding { d₀ with
        manager := { d₀.manager with states := s }, timers := t, alarms := a, journal := j₁ } := by
      refine ⟨hown, fun other hu state hstate => ?_, fun other hu state hstate => ?_, ?_,
        fun _ => ?_⟩
      · rw [hnobody other hu] at hstate
        cases hstate
      · rw [hnobody other hu] at hstate
        cases hstate
      · exact hreceiver ▸ hd.reports
      · exact hreceiver ▸ hs.2
    rw [he]
    simp only [hretired]
    by_cases hn : n ≠ 0
    · rw [if_pos hn]
      exact hforgot
    · rw [if_neg hn]
      exact hforgot.settled hactive.symm (fun _ _ => hmode (not_not.1 hn)) (activate_on hl hc₁ user)
  · obtain ⟨f, b, j, -, he⟩ := switchUser_of_not_canSwitch (h := .quiet) hs user
    rw [he]
    exact hd.same ⟨rfl, rfl, rfl, rfl⟩

/-- A switch keeps a daemon `Heeding`: the new user is observed before their state is loaded, and
    the old one's is forgotten. -/
theorem switchUser (hd : Heeding d) (htold : d.settings.faults.toldKey = none) (user : UserId) :
    Heeding ((Daemon.switchUser .quiet user).on d).2 :=
  of_mended (twin_switchUser (Hooks.quiet_losing True) user)
    (hd.mended.switchUser_of_cancels (mended_cancels d) htold user)

/-- Installing a receiver that reports keeps a daemon `Heeding`. -/
theorem install (hd : Heeding d) {receiver : Receiver} (hr : receiver.reports = true) :
    Heeding ((Daemon.install receiver).on d).2 := by
  obtain ⟨j, hj⟩ := install_on receiver d
  rw [hj]
  exact ⟨hd.own, hd.live, hd.fixed, fun r hrec => Option.some.inj hrec ▸ hr,
    fun _ => Option.some_ne_none _⟩

end Heeding

end Daemon

/-! ### Runs -/

/-- What the manager of the active user is asked and told. Receivers report what they receive, and
    observers are told the keys that they asked for. Everything else may fail. -/
def FaultyOperation.Heeded (op : FaultyOperation) : Prop :=
  op.faults.toldKey = none ∧
    match op.operation with
    | .load .. | .reevaluate .. => False
    | .install receiver => receiver.reports = true
    | _ => True

namespace Daemon

variable {d : Daemon}

/-- Every operation that is `Heeded` keeps a daemon `Heeding`, whatever fails in it besides. -/
theorem Heeding.perform (hd : Heeding d) {op : FaultyOperation} (hop : op.Heeded) :
    Heeding ((op.perform .quiet).on d).2 := by
  have hl : Hooks.quiet.Losing True := Hooks.quiet_losing True
  obtain ⟨operation, faults⟩ := op
  obtain ⟨htold, hallowed⟩ := hop
  have hkeys : (d.withFaults faults).settings.faults.toldKey = none := htold
  have hfaulty : Heeding (d.withFaults faults) := hd.same (sameBearing_withFaults faults d)
  have hc := mended_cancels (d.withFaults faults)
  show Heeding ((operation.perform .quiet).on (d.withFaults faults)).2
  generalize d.withFaults faults = e at hfaulty hc hkeys
  cases operation with
  | load user notify => exact hallowed.elim
  | reevaluate user notify => exact hallowed.elim
  | install receiver => exact hfaulty.install hallowed
  | switch user => exact hfaulty.switchUser hkeys user
  | put key value user =>
    -- what becomes of the alarms does not matter, so they may as well not fail
    exact of_mended (twin_perform hl (.put key value user) rfl)
      (hfaulty.mended.put (putSetting_on hl hc key value user))
  | rewrite files order => exact hfaulty.rewriteSettings files order
  | fire request boundary => exact hfaulty.same (sameBearing_fireBoundary hl request boundary _)
  | fireDue => exact hfaulty.same (sameBearing_fireDue hl _)
  | resync => exact hfaulty.same (sameBearing_resync hl _)
  | reconcile user dark =>
    exact of_mended (twin_perform hl (.reconcile user dark) rfl)
      (hfaulty.mended.reconciled (reconcile_on hl hc user dark))
  | setClock nanos => exact hfaulty.same ⟨rfl, rfl, rfl, rfl⟩
  | lose gone => exact hfaulty.same ⟨rfl, rfl, rfl, rfl⟩

/-- A new manager is `Heeding`: it has no states, nobody is active, and nothing is observed. -/
theorem heeding_of_new (hm : d.manager = {}) (ho : d.settings.observers = {}) : Heeding d where
  own key user observer hobs := by
    rw [ho] at hobs
    cases hobs
  live user _ state hstate := by
    rw [hm] at hstate
    cases hstate
  fixed user _ state hstate := by
    rw [hm] at hstate
    cases hstate
  reports r hr := by
    rw [hm] at hr
    cases hr
  installed hactive := by
    rw [hm] at hactive
    exact absurd rfl hactive

/-- So it is after every run. -/
theorem Heeding.run (ops : List FaultyOperation) (hops : ∀ op ∈ ops, op.Heeded) (hd : Heeding d) :
    Heeding ((runFaulty .quiet ops).on d).2 :=
  runFaulty_induction FaultyOperation.Heeded (fun _ _ hop hd => hd.perform hop) ops hops hd

end Daemon

end Twilight
