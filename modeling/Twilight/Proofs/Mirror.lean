import Twilight.Proofs.Daemon.Operations
import Twilight.Proofs.Settings.Changes

namespace Twilight

/-!
# The live state mirrors the settings

A store takes all new values before it announces any of them, and the manager takes them over one
by one. In between, a part of the state is up to date or its change is still to be announced; when
all are announced the state is what the store serves.

* `Daemon.Mirroring` — the invariant, with the changes that are still to be announced.
* `Daemon.Mirroring.announced`, `Daemon.Mirroring.perform` — announcing a change settles it; every
  operation ends with nothing left to announce.
* `Daemon.Mirrors`, `Daemon.mirrors_of_run` — what that means after every run.
-/

namespace Daemon

variable {lossy : Prop} {h : Hooks} {d d₁ : Daemon}

/-- The manager observes the active user's settings, if there is one, and has neither state nor
    timers of anybody else. -/
structure Attending (d : Daemon) : Prop where
  faultless : d.settings.faults = {}
  cancels : d.alarms.Cancels
  sound : SoundTimers d
  unobserved : ∀ key told, d.settings.observers.get? (key, noUser) ≠ some ⟨told, .manager⟩
  observed : d.manager.active ≠ noUser → ∀ key, d.Observes d.manager.active key
  others : ∀ user, user ≠ d.manager.active ∨ user = noUser →
    d.manager.states.get? user = none ∧ d.timers.get? user = none

/-- The active user has a state, each part of which is as the store serves it or is changed by one
    of the changes still to be announced. -/
structure Mirroring (changes : List (String × UserId)) (d : Daemon) : Prop
    extends Attending d where
  state : d.manager.active ≠ noUser → ∃ s, d.manager.states.get? d.manager.active = some s ∧
    ∀ key : StateKey, (key.name, d.manager.active) ∈ changes ∨
      s.part key = (d.settings.decoded d.manager.active).part key

/-- A `Fresh` daemon is `Mirroring` its store, with nobody active and nothing observed. -/
theorem Fresh.mirroring (hd : Fresh d) (hf : d.settings.faults = {})
    (ho : d.settings.observers = {}) (hc : d.alarms.Cancels) : Mirroring [] d where
  faultless := hf
  cancels := hc
  sound := hd.soundTimers
  unobserved key told := by
    rw [ho]
    simp
  observed hact := absurd (by rw [hd.manager]) hact
  state hact := absurd (by rw [hd.manager]) hact
  others user _ := by
    rw [hd.manager, hd.timers]
    exact ⟨rfl, rfl⟩

/-- The settings, the alarms, whose settings are observed, and the users' states and timers are the
    same. -/
structure SameMirror (d d₁ : Daemon) : Prop where
  timers : d₁.timers = d.timers
  alarms : d₁.alarms = d.alarms
  settings : d₁.settings = d.settings
  states : d₁.manager.states = d.manager.states
  active : d₁.manager.active = d.manager.active

/-- Delivering a status concerns none of what a mirror shows. -/
theorem Delivered.sameMirror (hd : Delivered d d₁) : SameMirror d d₁ :=
  ⟨hd.timers, hd.alarms, hd.settings, hd.states, hd.active⟩

namespace Mirroring

variable {changes rest : List (String × UserId)} {key : String} {user : UserId}

/-- `Mirroring` is about what `SameMirror` keeps. -/
theorem same (hm : Mirroring changes d) (hs : SameMirror d d₁) : Mirroring changes d₁ where
  faultless := by rw [hs.settings]; exact hm.faultless
  cancels := by rw [hs.alarms]; exact hm.cancels
  sound := hm.sound.congr hs.timers hs.alarms
  unobserved := by rw [hs.settings]; exact hm.unobserved
  observed := by
    unfold Observes
    rw [hs.active, hs.settings]
    exact hm.observed
  state := by
    rw [hs.active, hs.settings, hs.states]
    exact hm.state
  others := by
    rw [hs.active, hs.states, hs.timers]
    exact hm.others

/-- Settling the active user in a state each part of which is up to date or still to be announced.
    -/
theorem of_settled (hm : Attending d) {state : DarkModeState} {policy : NotifyPolicy}
    (hs : Settled lossy d.manager.active state policy d d₁) (hact : d.manager.active ≠ noUser)
    (hparts : ∀ key : StateKey, (key.name, d.manager.active) ∈ rest ∨
      state.part key = (d.settings.decoded d.manager.active).part key) : Mirroring rest d₁ := by
  obtain ⟨d₀, hr, hn⟩ := hs
  -- the notification concerns none of what a mirror shows
  suffices hd₀ : Mirroring rest d₀ from hd₀.same hn.delivered.sameMirror
  have hsound : SoundTimers (d.withState d.manager.active state) :=
    hm.sound.congr rfl rfl
  have hset : d₀.settings = d.settings := hr.rescheduled.settings
  have hman : d₀.manager = (d.withState d.manager.active state).manager := hr.rescheduled.manager
  refine ⟨⟨?_, hr.plans.cancels hm.cancels, hr.soundTimers hsound, ?_, ?_, ?_⟩, ?_⟩
  · rw [hset]
    exact hm.faultless
  · rw [hset]
    exact hm.unobserved
  · unfold Observes
    rw [hset, hman]
    exact hm.observed
  · intro user hu
    rw [hman] at hu ⊢
    have hu : user ≠ d.manager.active ∨ user = noUser := hu
    have hne : user ≠ d.manager.active := by
      rcases hu with hu | rfl
      · exact hu
      · exact Ne.symm hact
    -- nobody else had a state or timers, and nobody has got any
    obtain ⟨hstate, htimers⟩ := hm.others user hu
    refine ⟨?_, ?_⟩
    · show (d.manager.states.insert d.manager.active state).get? user = none
      rw [Table.get?_insert_of_ne _ hne, hstate]
    · rw [hr.timers_of_ne hne]
      exact htimers
  · intro _
    rw [hset, hman]
    exact ⟨state, Table.get?_insert_self _ _ _, hparts⟩

/-! ### Announcing -/

/-- A change that is not one of the active user's state need not be announced. -/
theorem drop (hm : Mirroring ((key, user) :: rest) d)
    (hno : d.manager.active ≠ noUser →
      ∀ part : StateKey, (part.name, d.manager.active) ≠ (key, user)) : Mirroring rest d := by
  refine { hm with state := fun hact => ?_ }
  obtain ⟨s, hs, hparts⟩ := hm.state hact
  refine ⟨s, hs, fun part => ?_⟩
  rcases hparts part with hmem | heq
  · rcases List.mem_cons.1 hmem with heq | hmem
    · exact absurd heq (hno hact part)
    · exact .inl hmem
  · exact .inr heq

/-- The observer of a part of the active user's state is the manager, and is told that part. -/
theorem observer_eq (hm : Attending d) (hact : d.manager.active ≠ noUser) {part : StateKey}
    (heq : (part.name, d.manager.active) = (key, user)) :
    d.settings.observers.get? (key, user) = some ⟨part.name, .manager⟩ := by
  rw [← heq]
  exact hm.observed hact part

/-- Taking over a part that is told leaves only the others to be announced. -/
theorem taken (hm : Mirroring ((key, d.manager.active) :: rest) d) {told : String}
    {part : StateKey} (hname : StateKey.ofName? told = some part)
    (hobs : d.settings.observers.get? (key, d.manager.active) = some ⟨told, .manager⟩)
    (hs : Settled lossy d.manager.active ((d.liveState d.manager.active).changed
      ((d.settings.decoded d.manager.active).part part)) .always d d₁) : Mirroring rest d₁ := by
  have hact : d.manager.active ≠ noUser := by
    intro hno
    rw [hno] at hobs
    exact hm.unobserved key told hobs
  obtain ⟨s, hstate, hparts⟩ := hm.state hact
  rw [liveState_of_get? hstate] at hs
  refine of_settled hm.toAttending hs hact fun other => ?_
  by_cases ho : other = part
  · rw [ho]
    exact .inr (DarkModeState.part_changed_self _ _ _)
  · rw [DarkModeState.part_changed_of_ne _ _ ho]
    refine (hparts other).imp_left fun hmem => ?_
    refine (List.mem_cons.1 hmem).resolve_left fun heq => ho ?_
    -- the observer would have been told the other part
    have hother := hobs.symm.trans (observer_eq hm.toAttending hact heq)
    obtain rfl : told = other.name := (Observer.mk.inj (Option.some.inj hother)).1
    exact Option.some.inj ((StateKey.ofName?_name other).symm.trans hname)

/-- A change that is `Announced` is no longer to be announced: `Mirroring` goes on with the others.
    -/
theorem announced (hm : Mirroring ((key, user) :: rest) d)
    (ha : Announced lossy key user d d₁) : Mirroring rest d₁ := by
  cases ha with
  | others observer noted =>
    -- the manager does not observe it, so it is no part of the state
    obtain ⟨e, rfl⟩ := noted
    have hdrop := hm.drop fun hact part heq =>
      observer part.name (observer_eq hm.toAttending hact heq)
    exact hdrop.same ⟨rfl, rfl, rfl, rfl, rfl⟩
  | manager told observer changed =>
    cases changed with
    | ignored reason logged =>
      refine (hm.drop fun hact part heq => ?_).same logged.delivered.sameMirror
      rcases reason with hne | hnone
      · exact hne (Prod.mk.inj heq).2.symm
      · have hpart := observer.symm.trans (observer_eq hm.toAttending hact heq)
        rw [(Observer.mk.inj (Option.some.inj hpart)).1, StateKey.ofName?_name] at hnone
        contradiction
    | taken part name active settled =>
      subst active
      exact hm.taken name observer settled

/-- Once all changes are announced, in the order of the list, none is left: the state mirrors the
    store. -/
theorem announceAll (hl : h.Losing lossy) (changes : List (String × UserId))
    (hm : Mirroring changes d) : Mirroring [] ((Daemon.announceAll h changes).on d).2 := by
  -- each announcement leaves the rest to be announced
  induction changes generalizing d with
  | nil => exact hm
  | cons change rest ih =>
    obtain ⟨key, user⟩ := change
    obtain ⟨j, d₁, ha, he⟩ := announceAll_cons hl hm.cancels key user rest
    have hlog : Mirroring ((key, user) :: rest) { d with journal := j } :=
      hm.same ⟨rfl, rfl, rfl, rfl, rfl⟩
    rw [he]
    exact ih (hlog.announced ha)

/-! ### Changed values -/

/-- With other values stored, `Mirroring` goes on with every pair that differs still to be
    announced. -/
theorem withValues (hm : Mirroring [] d) {t : SettingsTable} {changes : List (String × UserId)}
    (ht : ∀ key user, d.settings.values.value? key user ≠ t.value? key user →
      (key, user) ∈ changes) : Mirroring changes (d.withValues t) where
  faultless := hm.faultless
  cancels := hm.cancels
  sound := hm.sound.congr rfl rfl
  unobserved := hm.unobserved
  observed := hm.observed
  state hact := by
    obtain ⟨s, hs, hparts⟩ := hm.state hact
    refine ⟨s, hs, fun key => ?_⟩
    by_cases hsame : d.settings.values.value? key.name d.manager.active =
        t.value? key.name d.manager.active
    · -- the same text decodes to the same part
      have hf : (d.withValues t).settings.faults = {} := hm.faultless
      refine .inr (((hparts key).resolve_left (by simp)).trans ?_)
      exact SettingsStore.decoded_part_congr hm.faultless hf hsame
    · exact .inl (ht key.name d.manager.active hsame)
  others := hm.others

/-- By `put` the value of no other pair changes than of the one that is put. -/
theorem value?_put_ne {t : SettingsTable} {key value : String} {user : UserId} {key' : String}
    {user' : UserId} (hne : t.value? key' user' ≠ (t.put key value user).value? key' user') :
    (key', user') ∈ [(key, user)] := by
  by_cases hu : user' = user
  · by_cases hk : key' = key
    · rw [hu, hk]
      exact List.mem_singleton.2 rfl
    · rw [hu, SettingsTable.value?_put_of_key_ne _ hk] at hne
      contradiction
  · rw [SettingsTable.value?_put_of_user_ne _ hu] at hne
    contradiction

/-- A value that is stored and announced keeps the state a mirror of the store. -/
theorem put (hm : Mirroring [] d) {value : String} (hp : Put lossy key value user d d₁) :
    Mirroring [] d₁ := by
  cases hp with
  | refused fs _ same =>
    -- a value that cannot be written is not served either
    rw [same]
    exact hm.same ⟨rfl, rfl, rfl, rfl, rfl⟩
  | stored fs _ announced =>
    have hput := hm.withValues (t := d.settings.values.put key value user) fun _ _ => value?_put_ne
    have hfiles : Mirroring [(key, user)]
        { d.withValues (d.settings.values.put key value user) with files := fs } :=
      hput.same ⟨rfl, rfl, rfl, rfl, rfl⟩
    exact hfiles.announced announced

/-- A rewritten file that is taken over, with its changes announced in any order, keeps the state a
    mirror of the store. -/
theorem rewrite (hl : h.Losing lossy) (files : FileSystem)
    {order : List (String × UserId) → List (String × UserId)} (horder : ∀ l, (order l).Perm l)
    (hm : Mirroring [] d) : Mirroring [] ((rewriteSettings h files order).on d).2 := by
  rcases rewriteSettings_cases files order d with he | ⟨t, j, he⟩
  · rw [he]
    exact hm.same ⟨rfl, rfl, rfl, rfl, rfl⟩
  · rw [he]
    have htaken := hm.withValues (t := t) fun key user hne =>
      (horder _).mem_iff.2 (SettingsTable.mem_changes_iff.2 hne)
    have hall : Mirroring (order (d.settings.values.changes t))
        { d.withValues t with files := files, journal := j } :=
      htaken.same ⟨rfl, rfl, rfl, rfl, rfl⟩
    exact hall.announceAll hl _

/-! ### Firings and restarts -/

/-- A boundary that is `Fired` keeps the state a mirror of the store, as it settles the state as it
    is. -/
theorem fired (hm : Mirroring [] d) {request : ScheduleRequest}
    (hf : Fired lossy request d d₁) : Mirroring [] d₁ := by
  cases hf with
  | ignored _ logged => exact hm.same logged.delivered.sameMirror
  | outOfRange _ _ notified => exact hm.same notified.delivered.sameMirror
  | honoured state active live window settled =>
    rw [active] at live settled
    by_cases hact : d.manager.active = noUser
    · -- nobody has a state then
      rw [(hm.others _ (.inr hact)).1] at live
      contradiction
    · obtain ⟨s, hs, hparts⟩ := hm.state hact
      obtain rfl : state = s := Option.some.inj (live.symm.trans hs)
      exact of_settled hm.toAttending settled hact hparts

/-- An alarm that fires keeps the state a mirror of the store. -/
theorem fire (hl : h.Losing lossy) (action : AlarmAction) (hm : Mirroring [] d) :
    Mirroring [] ((Daemon.fire h action).on d).2 := by
  rcases fire_cases hl hm.cancels action with ⟨request, hf⟩ | ⟨e, he⟩
  · exact hm.fired hf
  · rw [he]
    exact hm.same ⟨rfl, rfl, rfl, rfl, rfl⟩

/-- All due alarms may fire, one after another, and the state stays a mirror of the store. -/
theorem fireDue (hl : h.Losing lossy) (hm : Mirroring [] d) :
    Mirroring [] ((Daemon.fireDue h).on d).2 :=
  fireDue_induction (fun action _ hd => hd.fire hl action)
    ⟨⟨hm.faultless, hm.cancels, hm.sound.takeDue _ _, hm.unobserved, hm.observed, hm.others⟩,
      hm.state⟩

/-- Resynchronizing keeps the state a mirror of the store: it restarts timers, and may report a
    status. -/
theorem resync (hl : h.Losing lossy) (hm : Mirroring [] d) :
    Mirroring [] ((Daemon.resync h).on d).2 := by
  obtain ⟨d₀, hlog, hn⟩ := resync_restartAll hl d
  obtain ⟨hr, hsound⟩ := restartAll_on hl hm.cancels hm.sound
  have hset := hr.rescheduled.settings
  have hman := hr.rescheduled.manager
  have hrestarted : Mirroring [] ((restartAll h).on d).2 := by
    refine ⟨⟨?_, hr.plans.cancels hm.cancels, hsound, ?_, ?_, ?_⟩, ?_⟩
    · rw [hset]
      exact hm.faultless
    · rw [hset]
      exact hm.unobserved
    · unfold Observes
      rw [hset, hman]
      exact hm.observed
    · intro user hu
      rw [hman] at hu ⊢
      obtain ⟨hstate, htimers⟩ := hm.others user hu
      refine ⟨hstate, ?_⟩
      -- whoever had no record gets none
      have hwin := hr.windows user
      rw [htimers] at hwin
      exact Option.map_eq_none_iff.1 hwin
    · rw [hset, hman]
      exact hm.state
  exact (hrestarted.same hlog.delivered.sameMirror).same hn.delivered.sameMirror

/-- A status that is `Reconciled` keeps the state a mirror of the store, since the corrected mode is
    announced. -/
theorem reconciled (hm : Mirroring [] d) (hr : Reconciled lossy user d d₁) : Mirroring [] d₁ := by
  cases hr with
  | remembered delivered => exact hm.same delivered.sameMirror
  | corrected value j d₀ put delivered =>
    have hlog : Mirroring [] { d with journal := j } := hm.same ⟨rfl, rfl, rfl, rfl, rfl⟩
    exact (hlog.put put).same delivered.sameMirror

/-! ### Switching -/

/-- Once the user who was active is forgotten, nobody has a state or timers. -/
theorem others_of_retired (hm : Attending d) {d₀ : Daemon} (hobs : Observed d d₀)
    (hret : Retired lossy d.manager.active d₀ d₁) (user : UserId) :
    d₁.manager.states.get? user = none ∧ d₁.timers.get? user = none := by
  cases hret with
  | nobody nobody same =>
    -- nobody was active, so the store of states was empty before
    rw [same, hobs.states, hobs.timers]
    by_cases hu : user = noUser
    · exact hm.others user (.inr hu)
    · exact hm.others user (.inl (by rw [nobody]; exact hu))
  | forgotten _ cleared =>
    have hstates : d₁.manager.states = d₀.manager.states.erase d.manager.active := by
      rw [cleared.rescheduled.manager]
      rfl
    have htimers : d₁.timers = d₀.timers.erase d.manager.active := cleared.timers
    rw [hstates, htimers, hobs.states, hobs.timers, Table.get?_erase, Table.get?_erase]
    -- the state and the timers of the active user are erased, the others had none
    by_cases hu : user = d.manager.active
    · rw [if_pos hu, if_pos hu]
      exact ⟨rfl, rfl⟩
    · rw [if_neg hu, if_neg hu]
      exact hm.others user (.inl hu)

/-- A switch to another user makes the state a mirror of what the store serves of them. -/
theorem switch (hl : h.Losing lossy) (hu : user ≠ noUser) (hm : Mirroring [] d) :
    Mirroring [] ((switchUser h user).on d).2 := by
  by_cases hr : d.manager.receiver = none
  · -- without a receiver the switch is refused
    have hready : prepareStore.on d = (.ok (), d) :=
      prepareStore_of_ready (by rw [hm.faultless])
    rw [switchUser_of_no_receiver user hready (by rw [hr]; rfl)]
    exact hm
  · obtain ⟨d₀, d₁, d₂, he, hobs, hact, hf, hadded, hall, hret, hset⟩ :=
      switchUser_of_faultless hl hm.cancels user hm.faultless hr
    rw [he]
    have hnone := others_of_retired hm.toAttending hobs hret
    have hsound₀ : SoundTimers d₀ := hm.sound.congr hobs.timers hobs.alarms
    have hcancels₀ : d₀.alarms.Cancels := by
      rw [hobs.alarms]
      exact hm.cancels
    have hsound : SoundTimers d₁ := hret.soundTimers hsound₀
    have hcancels : d₁.alarms.Cancels := hret.plans.cancels hcancels₀
    obtain ⟨s, t, a, j, rfl⟩ := hret.eq
    subst hact
    -- the new user's state is loaded from the store, so that nothing is still to be announced
    refine of_settled (d := { d₀ with
      manager := { d₀.manager with states := s }, timers := t, alarms := a, journal := j })
      ⟨hf, hcancels, hsound, fun key told hobs => ?_, fun _ => hall, fun other _ => hnone other⟩
      hset hu fun key => .inr rfl
    exact hm.unobserved key told (hadded (key, noUser) _ (Ne.symm hu) hobs)

end Mirroring

end Daemon

/-! ### Runs -/

/-- Operations after which the live state mirrors the settings: all but those that evaluate a user
    who need not be active. Users have ids from 0 on, and changes are all announced, in any
    order. -/
def Operation.MayMirror : Operation → Prop
  | .load .. | .reevaluate .. | .lose _ => False
  | .switch user => 0 ≤ user
  | .rewrite _ order => ∀ changes, (order changes).Perm changes
  | _ => True

namespace Daemon

variable {lossy : Prop} {h : Hooks} {d d₁ : Daemon}

/-- Every operation that `MayMirror` keeps `Mirroring`, with no change left to be announced. The
    cases are those of `Operation`. -/
theorem Mirroring.perform (hl : h.Losing lossy) {op : Operation} (hop : op.MayMirror)
    (hm : Mirroring [] d) : Mirroring [] ((op.perform h).on d).2 := by
  cases op with
  | install receiver =>
    obtain ⟨j, hj⟩ := install_on receiver d
    show Mirroring [] ((Daemon.install receiver).on d).2
    rw [hj]
    exact hm.same ⟨rfl, rfl, rfl, rfl, rfl⟩
  | load user notify => exact hop.elim
  | reevaluate user notify => exact hop.elim
  | switch user =>
    -- no user has the number of nobody
    have hne : user ≠ noUser := by
      rintro rfl
      exact absurd (show (0 : Int) ≤ noUser from hop) (by decide)
    exact hm.switch hl hne
  | put key value user => exact hm.put (putSetting_on hl hm.cancels key value user)
  | rewrite files order => exact hm.rewrite hl files hop
  | fire request boundary => exact hm.fired (fireBoundary_on hl hm.cancels request boundary)
  | fireDue => exact hm.fireDue hl
  | resync => exact hm.resync hl
  | reconcile user dark => exact hm.reconciled (reconcile_on hl hm.cancels user dark)
  | setClock nanos =>
    exact ⟨⟨hm.faultless, hm.cancels, hm.sound.congr rfl rfl,
      hm.unobserved, hm.observed, hm.others⟩, hm.state⟩
  | lose gone => exact hop.elim

/-- The active user's state is exactly what the store serves, and nobody else has a state or
    timers. -/
structure Mirrors (d : Daemon) : Prop where
  state : d.manager.active ≠ noUser →
    d.manager.states.get? d.manager.active = some (d.settings.decoded d.manager.active)
  others : ∀ user, user ≠ d.manager.active ∨ user = noUser →
    d.manager.states.get? user = none ∧ d.timers.get? user = none

/-- With no change left to be announced, the state is what the store serves: the daemon `Mirrors`
    it. -/
theorem Mirroring.mirrors (hm : Mirroring [] d) : Mirrors d where
  state hact := by
    obtain ⟨s, hs, hparts⟩ := hm.state hact
    rw [hs, DarkModeState.ext_part fun key => (hparts key).resolve_left (by simp)]
  others := hm.others

/-- Any operations that `MayMirror` lead from a new daemon to one that mirrors the store, with no
    change left to be announced. -/
theorem mirroring_of_run (hl : h.Losing lossy) (hd : Fresh d) (hf : d.settings.faults = {})
    (ho : d.settings.observers = {}) (hc : d.alarms.Cancels) (ops : List Operation)
    (hops : ∀ op ∈ ops, op.MayMirror) : Mirroring [] ((runAll h ops).on d).2 :=
  runAll_induction Operation.MayMirror (fun _ _ hop hm => hm.perform hl hop) ops hops
    (hd.mirroring hf ho hc)

/-- The states of a daemon that mirrors its settings are decided by who is active, and by the three
    texts that are stored for that user. -/
theorem states_eq_of_mirroring (hm : Mirroring [] d) (hm₁ : Mirroring [] d₁)
    (hactive : d₁.manager.active = d.manager.active)
    (hvalues : ∀ key : StateKey, d₁.settings.values.value? key.name d.manager.active =
      d.settings.values.value? key.name d.manager.active) :
    d₁.manager.states = d.manager.states := by
  apply Table.ext_get
  intro user
  by_cases hu : user ≠ d.manager.active ∨ user = noUser
  · rw [(hm.others user hu).1, (hm₁.others user (by rw [hactive]; exact hu)).1]
  · obtain ⟨huser, hact⟩ := not_or.1 hu
    obtain rfl : user = d.manager.active := not_not.1 huser
    have hstate₁ := hm₁.mirrors.state (by rw [hactive]; exact hact)
    rw [hactive] at hstate₁
    rw [hm.mirrors.state hact, hstate₁, DarkModeState.ext_part fun key =>
      SettingsStore.decoded_part_congr hm₁.faultless hm.faultless (hvalues key)]

/-- **The live state mirrors the settings.** After every run of operations on a fresh daemon the
    active user's state is exactly what the store serves, and nobody else has a state or timers.
    Hence runs that leave the same texts stored end in the same states, in whatever order the texts
    were written or their changes announced. -/
theorem mirrors_of_run (hd : Fresh d) (hf : d.settings.faults = {})
    (ho : d.settings.observers = {}) (hc : d.alarms.Cancels) (ops : List Operation)
    (hops : ∀ op ∈ ops, op.MayMirror) :
    Mirrors ((runAll .quiet ops).on d).2 ∧
      ∀ others : List Operation, (∀ op ∈ others, op.MayMirror) →
        ((runAll .quiet others).on d).2.manager.active =
          ((runAll .quiet ops).on d).2.manager.active →
        (∀ key : StateKey,
          ((runAll .quiet others).on d).2.settings.values.value? key.name
              ((runAll .quiet ops).on d).2.manager.active =
            ((runAll .quiet ops).on d).2.settings.values.value? key.name
              ((runAll .quiet ops).on d).2.manager.active) →
        ((runAll .quiet others).on d).2.manager.states =
          ((runAll .quiet ops).on d).2.manager.states := by
  have hrun := fun ops hops =>
    mirroring_of_run (Hooks.quiet_losing False) hd hf ho hc ops hops
  refine ⟨(hrun ops hops).mirrors, fun others hothers hactive hvalues => ?_⟩
  exact states_eq_of_mirroring (hrun ops hops) (hrun others hothers) hactive hvalues

/-- The settings of a user who becomes active can be written in another order. -/
theorem mirrors_of_reordered :
    Mirrors ((runAll .quiet (nightUser 100)).on default).2 ∧
      ((runAll .quiet [.install { applies := false, reports := true },
        .put StateKey.finish.name "360" 100, .put StateKey.mode.name "2" 100, .switch 100,
        .put StateKey.start.name "1200" 100]).on default).2.manager.states =
          ((runAll .quiet (nightUser 100)).on default).2.manager.states := by
  have hnight : ∀ op ∈ nightUser 100, op.MayMirror := by
    simp [nightUser, Operation.MayMirror]
  obtain ⟨hmirrors, hothers⟩ := mirrors_of_run (d := default) ⟨rfl, rfl, fun _ => rfl⟩ rfl rfl
    (fun _ => rfl) (nightUser 100) hnight
  refine ⟨hmirrors, hothers _ ?_ ?_ ?_⟩
  · simp [Operation.MayMirror]
  · decide +kernel
  · intro key
    cases key <;> decide +kernel

end Daemon

end Twilight
