import Twilight.Proofs.Handover

namespace Twilight

/-!
# Changed settings while users are switched

A setting of the active user changes while another user becomes active. What the change leaves of
the old user is settled by the turn that forgets them: it depends on how far the change has come by
then, and on no turn after that.

* `Daemon.Changing`, `Daemon.changing_on` — all that a turn of a change can do.
* `ChangePhase.remains` — what will be left of a user who has been forgotten, when a change of
  theirs that has come to a phase is finished.
* `Daemon.Late.switch`, `Daemon.Late.change` — no turn changes what will be left.
* `Daemon.left_of_race` — so the old user has neither timers nor alarms in the end, and a state only
  if the change had been found to be one of the active user, but had not been taken over, when they
  were forgotten.
-/

open Time

namespace Daemon

variable {d d₀ d₁ : Daemon} {u v user : UserId} {key : StateKey} {phase : SwitchPhase}
  {p : ChangePhase}

/-! ### Turns of a change -/

/-- All that a turn of a change can do. -/
inductive Changing (key : StateKey) (user : UserId) (d : Daemon) :
    ChangePhase → ChangePhase × Daemon → Prop
  | reads (d₁ : Daemon) (logged : Logged d d₁) :
    Changing key user d .begun (.read ((d.settings.decoded user).part key), d₁)
  | accepts (change : StateChange) (active : user = d.manager.active) :
    Changing key user d (.read change) (.mine change, d)
  | ignores (change : StateChange) (d₁ : Daemon) (background : user ≠ d.manager.active)
    (logged : Logged d d₁) : Changing key user d (.read change) (.finished, d₁)
  | takes (change : StateChange) (r : Resolution) (d₁ : Daemon)
    (dark : r.dark? = ((d.liveState user).changed change).status? d.clock)
    (resolved : Resolved False user ((d.liveState user).changed change)
      (d.withState user ((d.liveState user).changed change)) d₁) :
    Changing key user d (.mine change) (.taken r, d₁)
  | tells (r : Resolution) (d₁ : Daemon) (concluded : Concluded r.dark? user .always d d₁) :
    Changing key user d (.taken r) (.finished, d₁)
  | rests : Changing key user d .finished (.finished, d)

/-- A turn of a change does what `Changing` says, in whichever phase it is. -/
theorem changing_on (hc : d.alarms.Cancels) (key : StateKey) (user : UserId) (p : ChangePhase) :
    Changing key user d p ((p.next .quiet key user).on d) := by
  have hl : Hooks.quiet.Losing False := Hooks.quiet_losing False
  -- one case per section of the change; which comes next is decided by the last one
  cases p with
  | begun =>
    obtain ⟨d₁, he, hlog⟩ := readChange_on key user d
    rw [ChangePhase.next_begun, he]
    exact .reads d₁ hlog
  | read change =>
    by_cases hu : user = d.manager.active
    · rw [ChangePhase.next_read_of_active key change hu]
      exact .accepts change hu
    · rw [ChangePhase.next_read_of_background key change hu]
      exact .ignores change _ hu (Act.logs_debug _ d)
  | mine change =>
    obtain ⟨r, d₁, he, hdark, hres⟩ := takeChange_on hl hc user change
    unfold ChangePhase.next
    simp only [Act.on_bind, he, Act.on_pure]
    exact .takes change r d₁ hdark hres
  | taken r =>
    obtain ⟨d₁, he, hcon⟩ := finish_on (h := .quiet) (fun _ => rfl) user r .always d
    unfold ChangePhase.next
    simp only [Act.on_bind, he, Act.on_pure]
    exact .tells r _ (hcon.logged (logs_reportUnresolved key user r.result d₁))
  | finished => exact .rests

/-- A turn of a change is `Aside` for its user: it changes nothing of anybody else's. -/
theorem Changing.aside {turn : ChangePhase × Daemon} (hs : Sane d)
    (hch : Changing key user d p turn) : Sane turn.2 ∧ Aside user d turn.2 := by
  cases hch with
  | reads d₁ logged =>
    have hdel := logged.delivered
    exact ⟨hs.congr hdel.timers hdel.alarms, hdel.aside⟩
  | accepts change _ => exact ⟨hs, .refl user d⟩
  | ignores change d₁ _ logged =>
    have hdel := logged.delivered
    exact ⟨hs.congr hdel.timers hdel.alarms, hdel.aside⟩
  | takes change r d₁ _ resolved => exact resolved.aside_of_withState hs
  | tells r d₁ concluded =>
    have hdel := concluded.delivered
    exact ⟨hs.congr hdel.timers hdel.alarms, hdel.aside⟩
  | rests => exact ⟨hs, .refl user d⟩

/-! ### Reports -/

/-- The statuses reported of a user, the last one first. -/
def reportsOf (d : Daemon) (user : UserId) : List Bool :=
  d.updates.filterMap fun report => if report.2 = user then some report.1 else none

/-- `reportsOf` is read off the updates alone. -/
theorem reportsOf_congr (hup : d₁.updates = d.updates) (user : UserId) :
    d₁.reportsOf user = d.reportsOf user := by
  unfold reportsOf
  rw [hup]

/-- A status that is told of a user is the last one in `reportsOf`. -/
theorem reportsOf_told {dark : Bool} (hup : d₁.updates = (dark, user) :: d.updates) :
    d₁.reportsOf user = dark :: d.reportsOf user := by
  simp [reportsOf, hup]

/-- A status that is told of one user is no report of another one. -/
theorem reportsOf_told_of_ne {dark : Bool} (hup : d₁.updates = (dark, user) :: d.updates)
    {other : UserId} (hne : user ≠ other) : d₁.reportsOf other = d.reportsOf other := by
  simp [reportsOf, hup, hne]

/-- A change that was `Concluded` of one user is no report of another one. -/
theorem Concluded.reportsOf_of_ne {dark? : Option Bool} {policy : NotifyPolicy}
    (hc : Concluded dark? user policy d d₁) (hr : d.Reporting) {other : UserId}
    (hne : user ≠ other) :
    d₁.reportsOf other = d.reportsOf other := by
  obtain ⟨r, hr, hreports⟩ := hr
  cases dark? with
  | none => exact reportsOf_congr (Logged.rescheduled hc).updates other
  | some dark =>
    cases hc with
    | told _ told => exact reportsOf_told_of_ne (told.reported r hr hreports) hne
    | silent _ logged => exact reportsOf_congr logged.rescheduled.updates other

/-- A change that was `Concluded` in any case is the last report of its user, if it has a status. -/
theorem Concluded.reportsOf {dark? : Option Bool} (hc : Concluded dark? user .always d d₁)
    (hr : d.Reporting) : d₁.reportsOf user = dark?.toList ++ d.reportsOf user := by
  obtain ⟨r, hr, hreports⟩ := hr
  cases dark? with
  | none => exact reportsOf_congr (Logged.rescheduled hc).updates user
  | some dark =>
    cases hc with
    | told _ told => exact reportsOf_told (told.reported r hr hreports)
    | silent passes _ => exact absurd (.inl rfl) passes

end Daemon

/-! ### What will be left -/

/-- What is left of a user: a state, and the statuses reported of them, the last one first. -/
structure Remains where
  state : Option DarkModeState
  reports : List Bool

/-- The state that a change makes of none. -/
def StateChange.alone (change : StateChange) : DarkModeState := ({} : DarkModeState).changed change

/-- A state of which only one part was set, `alone`, has no window. -/
theorem StateChange.window?_alone (change : StateChange) : change.alone.window? = none := by
  cases change <;> simp [alone, DarkModeState.changed, DarkModeState.window?, Window.valid,
    isMinuteOfDay, unsetBound]

/-- What will be left of a user who is not active when a change of theirs that has come to this
    phase is finished. -/
def ChangePhase.remains (user : UserId) (d : Daemon) : ChangePhase → Remains
  | .mine change =>
    ⟨some change.alone, (change.alone.status? d.clock).toList ++ d.reportsOf user⟩
  | .taken resolution =>
    ⟨d.manager.states.get? user, resolution.dark?.toList ++ d.reportsOf user⟩
  | .begun | .read _ | .finished => ⟨d.manager.states.get? user, d.reportsOf user⟩

namespace Daemon

variable {d d₀ d₁ : Daemon} {u v user : UserId} {key : StateKey} {phase : SwitchPhase}
  {p : ChangePhase} {remains : Remains}

/-- What `remains` of a user depends on the clock, their state and the reports of them alone. -/
theorem remains_congr (hc : d₁.clock = d.clock)
    (hs : d₁.manager.states.get? user = d.manager.states.get? user)
    (hr : d₁.reportsOf user = d.reportsOf user) (p : ChangePhase) :
    p.remains user d₁ = p.remains user d := by
  cases p <;> simp only [ChangePhase.remains, hc, hs, hr]

/-- Nothing is `planned` where the state has no window, and nothing was planned before. -/
theorem planned_eq_none {state : DarkModeState} (hw : state.window? = none)
    (hp : d.plan? user = none) : d.planned user state = none := by
  unfold planned
  rw [hw, hp, Option.bind_none, ite_self]

/-- The user before has been forgotten, and a change of theirs is not finished yet. -/
structure Late (u v : UserId) (d₀ : Daemon) (remains : Remains) (phase : SwitchPhase)
    (p : ChangePhase) (d : Daemon) : Prop where
  handing : Handing u v d₀ phase d
  vacated : phase.vacated = true
  plan : d.plan? u = none
  untaken : ∀ change, p = .mine change → d.manager.states.get? u = none
  remains : p.remains u d = remains

/-- A switch that has forgotten a user has made another one active. -/
theorem Handing.active_of_vacated (hh : Handing u v d₀ phase d) (hv : phase.vacated = true) :
    d.manager.active = v := by
  cases hh.stage with
  | begun _ _ => contradiction
  | prepared _ _ => contradiction
  | exchanged _ _ => contradiction
  | retired active _ => exact active
  | read active _ => exact active
  | taken _ active _ => exact active
  | finished active _ => exact active

/-- Where the receiver reports statuses at the start of a switch it does so in every phase. -/
theorem Handing.reports (hh : Handing u v d₀ phase d) (hr : d₀.Reporting) : d.Reporting := by
  unfold Reporting
  rw [hh.receiver]
  exact hr

/-- A turn of the switch keeps a change `Late`, with the same remains: it does nothing more about
    the user before. -/
theorem Late.switch (hd : Late u v d₀ remains phase p d) (hu : u ≠ noUser) (hne : u ≠ v)
    (hf₀ : d₀.settings.faults = {}) (hr : d₀.Reporting) :
    Late u v d₀ remains ((phase.next .quiet v).on d).1 p ((phase.next .quiet v).on d).2 := by
  have hreceiver : d₀.manager.receiver ≠ none := by
    obtain ⟨r, hr, _⟩ := hr
    rw [hr]
    exact Option.some_ne_none r
  obtain ⟨hh₁, hturn⟩ := hd.handing.next hu hne hf₀ hreceiver
  generalize (phase.next .quiet v).on d = turn at hh₁ hturn ⊢
  -- the old user has been forgotten, so the turn comes after that
  have hvacated := hd.vacated
  cases hturn with
  | before phase₁ d₁ here _ =>
    rw [here] at hvacated
    contradiction
  | retiring d₁ here _ _ =>
    rw [here] at hvacated
    contradiction
  | after phase₁ d₁ _ still aside updates =>
    have hstate := aside.states u hne
    -- what is told then is of the new user
    have hreports : d₁.reportsOf u = d.reportsOf u := by
      rcases updates with hup | ⟨dark?, hcon⟩
      · exact reportsOf_congr hup u
      · exact hcon.reportsOf_of_ne (hd.handing.reports hr) hne.symm
    exact ⟨hh₁, still, (aside.plans u hne).trans hd.plan,
      fun change hp => hstate.trans (hd.untaken change hp),
      (remains_congr aside.clock hstate hreports p).trans hd.remains⟩

/-- Log lines, and a phase that will leave the same, make no difference. -/
theorem Late.logged (hd : Late u v d₀ remains phase p d) (hne : u ≠ v) (hlog : Logged d d₁)
    {p₁ : ChangePhase} (hp : p₁.remains u d = p.remains u d)
    (hmine : ∀ change, p₁ ≠ .mine change) : Late u v d₀ remains phase p₁ d₁ := by
  have hdel := hlog.delivered
  have hsane := hd.handing.sane.congr hdel.timers hdel.alarms
  have hsame : p₁.remains u d₁ = p₁.remains u d :=
    remains_congr hdel.clock (by rw [hdel.states]) (reportsOf_congr hlog.rescheduled.updates u) p₁
  exact ⟨hd.handing.aside hsane hlog.aside hne, hd.vacated, hlog.plan.trans hd.plan,
    fun change hchange => absurd hchange (hmine change), hsame.trans (hp.trans hd.remains)⟩

/-- Where there is no state, one is made of the change alone, which no window and no alarm comes
    of. -/
theorem Late.taken {change : StateChange} (hd : Late u v d₀ remains phase (.mine change) d)
    (hne : u ≠ v) {r : Resolution}
    (hdark : r.dark? = ((d.liveState u).changed change).status? d.clock)
    (hres : Resolved False u ((d.liveState u).changed change)
      (d.withState u ((d.liveState u).changed change)) d₁) :
    Late u v d₀ remains phase (.taken r) d₁ := by
  have hsane := hd.handing.sane
  obtain ⟨hs₁, haside⟩ := hres.aside_of_withState hsane
  rw [liveState_of_none (hd.untaken change rfl)] at hdark hres
  have hset : Sane (d.withState u change.alone) := hsane.congr rfl rfl
  have hplan : d₁.plan? u = none :=
    (hres.plan hset.arms).trans (planned_eq_none change.window?_alone hd.plan)
  have hstate : d₁.manager.states.get? u = some change.alone := by
    rw [hres.rescheduled.manager]
    exact Table.get?_insert_self _ _ _
  have hup : d₁.reportsOf u = d.reportsOf u := reportsOf_congr hres.rescheduled.updates u
  refine ⟨hd.handing.aside hs₁ haside hne, hd.vacated, hplan, nofun, ?_⟩
  rw [← hd.remains]
  simp only [ChangePhase.remains, hstate, hup, hdark]
  rfl

/-- A turn of the change keeps it `Late`, with the same remains: it does what it was to do. -/
theorem Late.change (hd : Late u v d₀ remains phase p d) (hne : u ≠ v) (hr : d₀.Reporting)
    (key : StateKey) :
    Late u v d₀ remains phase ((p.next .quiet key u).on d).1 ((p.next .quiet key u).on d).2 := by
  have hch := changing_on hd.handing.sane.cancels key u p
  generalize (p.next .quiet key u).on d = turn at hch ⊢
  cases hch with
  | reads d₁ logged => exact hd.logged hne logged rfl nofun
  | accepts change active =>
    -- the user is no longer active
    exact absurd (active.trans (hd.handing.active_of_vacated hd.vacated)) hne
  | ignores change d₁ _ logged => exact hd.logged hne logged rfl nofun
  | takes change r d₁ dark resolved => exact hd.taken hne dark resolved
  | tells r d₁ concluded =>
    have hdel := concluded.delivered
    have hsane := hd.handing.sane.congr hdel.timers hdel.alarms
    have hup := concluded.reportsOf (hd.handing.reports hr)
    refine ⟨hd.handing.aside hsane hdel.aside hne, hd.vacated, hdel.plan.trans hd.plan, nofun, ?_⟩
    rw [← hd.remains]
    simp only [ChangePhase.remains, hup, hdel.states]
  | rests => exact hd

/-- A switch to `v` and a change for `u` are under way. -/
def pairOf (u v : UserId) (key : StateKey) (phase : SwitchPhase) (p : ChangePhase) : List Task :=
  [.switching v phase, .changing key u p]

/-- Any sequence of turns keeps a change `Late`, with the same remains. By induction on the
    schedule. -/
theorem Late.interleave (hd : Late u v d₀ remains phase p d) (hu : u ≠ noUser) (hne : u ≠ v)
    (hf₀ : d₀.settings.faults = {}) (hr : d₀.Reporting) (key : StateKey) (schedule : List Nat) :
    ∃ phase₁ p₁ d₁, (Twilight.interleave .quiet (pairOf u v key phase p) schedule).on d =
      (pairOf u v key phase₁ p₁, d₁) ∧ Late u v d₀ remains phase₁ p₁ d₁ := by
  induction schedule generalizing phase p d with
  | nil => exact ⟨phase, p, d, rfl, hd⟩
  | cons i rest ih =>
    match i with
    | 0 => exact ih (hd.switch hu hne hf₀ hr)
    | 1 => exact ih (hd.change hne hr key)
    | _ + 2 => exact ih hd

/-! ### The turn that forgets -/

/-- What a change has read, it has read on `d₀`. -/
def ReadOn (d₀ : Daemon) (user : UserId) (key : StateKey) (p : ChangePhase) : Prop :=
  ∀ change, p = .read change ∨ p = .mine change → change = (d₀.settings.decoded user).part key

/-- A turn keeps `ReadOn`: a change that reads does so where the store serves what it did. -/
theorem Changing.readOn {turn : ChangePhase × Daemon} (hch : Changing key user d p turn)
    (hdec : d.settings.decoded user = d₀.settings.decoded user) (hp : ReadOn d₀ user key p) :
    ReadOn d₀ user key turn.1 := by
  intro change hchange
  cases hch with
  | reads d₁ _ =>
    rcases hchange with hread | hmine
    · obtain rfl := ChangePhase.read.inj hread
      rw [hdec]
    · contradiction
  | accepts change' _ =>
    rcases hchange with hread | hmine
    · contradiction
    · obtain rfl := ChangePhase.mine.inj hmine
      exact hp change' (.inl rfl)
  | ignores _ _ _ _ => rcases hchange with hread | hmine <;> contradiction
  | takes _ _ _ _ _ => rcases hchange with hread | hmine <;> contradiction
  | tells _ _ _ => rcases hchange with hread | hmine <;> contradiction
  | rests => rcases hchange with hread | hmine <;> contradiction

/-- Where a switch and a change that begin together have both come to their end, there is a turn in
    between that forgets the user before. -/
theorem exists_retiring (hh : Handing u v d₀ phase d) (hv : phase.vacated = false)
    (hp : ReadOn d₀ u key p) (hu : u ≠ noUser) (hne : u ≠ v) (hf₀ : d₀.settings.faults = {})
    (hr : d₀.manager.receiver ≠ none) (schedule : List Nat) {tasks : List Task}
    (hturns : (interleave .quiet (pairOf u v key phase p) schedule).on d = (tasks, d₁))
    (hover : ∀ t ∈ tasks, t.isOver = true) :
    ∃ before after q dᵣ, schedule = before ++ 0 :: after ∧
      (interleave .quiet (pairOf u v key phase p) before).on d =
        (pairOf u v key (.exchanged u 0) q, dᵣ) ∧
      Handing u v d₀ (.exchanged u 0) dᵣ ∧ ReadOn d₀ u key q := by
  induction schedule generalizing phase p d with
  | nil =>
    -- a switch that is over has forgotten the user before
    obtain ⟨rfl, rfl⟩ := Prod.mk.inj hturns
    have hswitch := hover _ List.mem_cons_self
    cases phase <;> contradiction
  | cons i rest ih =>
    match i with
    | 0 =>
      obtain ⟨hh₁, hturn⟩ := hh.next hu hne hf₀ hr
      change (interleave .quiet (pairOf u v key ((phase.next .quiet v).on d).1 p) rest).on
        ((phase.next .quiet v).on d).2 = _ at hturns
      generalize hnext : (phase.next .quiet v).on d = turn at hh₁ hturn hturns
      cases hturn with
      | before phase₁ d₂ _ still =>
        obtain ⟨before, after, q, dᵣ, rfl, hbefore, hhᵣ, hq⟩ := ih hh₁ still hp hturns
        refine ⟨0 :: before, after, q, dᵣ, rfl, ?_, hhᵣ, hq⟩
        show (interleave .quiet (pairOf u v key ((phase.next .quiet v).on d).1 p) before).on
          ((phase.next .quiet v).on d).2 = _
        rw [hnext, hbefore]
      | retiring d₂ here _ _ =>
        subst here
        exact ⟨[], rest, p, d, rfl, rfl, hh, hp⟩
      | after phase₁ d₂ left _ _ _ =>
        rw [hv] at left
        contradiction
    | 1 =>
      have hch := changing_on hh.sane.cancels key u p
      obtain ⟨hs₁, haside⟩ := hch.aside hh.sane
      obtain ⟨before, after, q, dᵣ, rfl, hbefore, hhᵣ, hq⟩ :=
        ih (hh.aside hs₁ haside hne) hv (hch.readOn (hh.decoded hf₀ u) hp) hturns
      exact ⟨1 :: before, after, q, dᵣ, rfl, hbefore, hhᵣ, hq⟩
    | n + 2 =>
      obtain ⟨before, after, q, dᵣ, rfl, hbefore, hhᵣ, hq⟩ := ih hh hv hp hturns
      exact ⟨(n + 2) :: before, after, q, dᵣ, rfl, hbefore, hhᵣ, hq⟩

/-- What will be left is what the phase of the change says of the user without a state. -/
theorem Handing.late (hh : Handing u v d₀ (.exchanged u 0) d) (hu : u ≠ noUser) (hne : u ≠ v)
    (p : ChangePhase) :
    ∃ d₁, ((SwitchPhase.exchanged u 0).next .quiet v).on d = (.retired, d₁) ∧
      Late u v d₀ (p.remains u (d.withoutState u)) .retired p d₁ := by
  obtain ⟨d₁, he, hh₁, hgone, hup⟩ := hh.next_exchanged hu hne
  have hstate : d₁.manager.states.get? u = (d.withoutState u).manager.states.get? u :=
    hgone.state.trans (Table.get?_erase_self _ _).symm
  have hclock : d₁.clock = (d.withoutState u).clock := hh₁.clock.trans hh.clock.symm
  exact ⟨d₁, he, hh₁, rfl, hgone.plan, fun _ _ => hgone.state,
    remains_congr hclock hstate (reportsOf_congr hup u) p⟩

/-! ### Races after every run -/

/-- `d₁` is what is left of a race between a switch from `u` to `v` and a change for `u` that had
    come to the phase `q` when `u` was forgotten on `d`, and `e` what the switch leaves alone. -/
structure Left (u v : UserId) (key : StateKey) (q : ChangePhase) (e d d₁ : Daemon) : Prop where
  read : ∀ change, q = .mine change → change = (d.settings.decoded u).part key
  remains : q.remains u (d.withoutState u) = ⟨d₁.manager.states.get? u, d₁.reportsOf u⟩
  record : d₁.timers.get? u = none
  alarms : d₁.alarmsOf u = []
  active : d₁.manager.active = v
  sameState : d₁.manager.states.get? v = e.manager.states.get? v
  samePlan : d₁.plan? v = e.plan? v

/-- Other values in the store make no difference to what has been reached. -/
theorem Reached.withValues (hd : Reached u d) (values : SettingsTable) :
    Reached u (d.withValues values) :=
  ⟨hd.sane.congr rfl rfl, ⟨hd.installed.faultless, hd.installed.receiver⟩, hd.active⟩

/-- **What a change that races a switch of users leaves is settled when the old user is forgotten.**
    In a state that any operations led to without faults, with any values in the store, a setting of
    the active user is announced while another user becomes active; their sections take turns in any
    order. Once both are over, one of the turns has forgotten the old user, who has no timers and no
    pending alarm. What else there is of them is what the phase says that the change had come to at
    that turn: no state, unless the change had been found to be one of the active user and was not
    taken over yet, which leaves a state of that part alone; and no further report, unless the
    change stood for a status from then on. The new user is as the switch alone leaves them. -/
theorem left_of_race (hd : Fresh d) (hf : d.settings.faults = {}) (hc : d.alarms.Cancels)
    (harms : d.alarms.Arms) (ops : List Operation) (values : SettingsTable)
    (hrun : ((runAll .quiet ops).on d).2.withValues values = d₀) (hactive : d₀.manager.active = u)
    (hu : 0 ≤ u) (hne : u ≠ v) (hr : d₀.Reporting) (key : StateKey) (schedule : List Nat)
    {tasks : List Task}
    (hturns : (interleave .quiet (pairOf u v key .begun .begun) schedule).on d₀ = (tasks, d₁))
    (hover : ∀ t ∈ tasks, t.isOver = true) :
    ∃ before after q dᵣ, schedule = before ++ 0 :: after ∧
      (interleave .quiet (pairOf u v key .begun .begun) before).on d₀ =
        (pairOf u v key (.exchanged u 0) q, dᵣ) ∧
      Left u v key q ((switchUser .quiet v).on d₀).2 dᵣ d₁ := by
  have hreached := (reached_of_run hd hf hc harms ops).withValues values
  have hstart : ((runAll .quiet ops).on d).2.manager.active = u := by
    rw [← hactive, ← hrun]
    rfl
  rw [hstart, hrun] at hreached
  have hsomebody : u ≠ noUser := by
    rintro rfl
    exact absurd hu (by decide)
  have hf₀ := hreached.installed.faultless
  obtain ⟨before, after, q, dᵣ, rfl, hbefore, hhᵣ, hq⟩ := exists_retiring (hreached.handing v) rfl
    (nofun : ReadOn d₀ u key .begun) hsomebody hne hf₀ (hreached.receiver hsomebody) schedule hturns
    hover
  refine ⟨before, after, q, dᵣ, rfl, hbefore, ?_⟩
  -- from the turn that forgets on, nothing changes what will be left
  obtain ⟨d₂, he, hlate⟩ := hhᵣ.late hsomebody hne q
  obtain ⟨phase₁, p₁, d₃, hafter, hlate₁⟩ := hlate.interleave hsomebody hne hf₀ hr key after
  have hlast : (tasks, d₁) = (pairOf u v key phase₁ p₁, d₃) := by
    rw [← hturns, interleave_append, hbefore, ← hafter]
    show (interleave .quiet (pairOf u v key
      (((SwitchPhase.exchanged u 0).next .quiet v).on dᵣ).1 q) after).on
        (((SwitchPhase.exchanged u 0).next .quiet v).on dᵣ).2 = _
    rw [he]
  obtain ⟨rfl, rfl⟩ := Prod.mk.inj hlast
  obtain ⟨_, hactive₁, harrived⟩ := hlate₁.handing.finished (hover _ List.mem_cons_self)
  have hfinished : p₁ = .finished := by
    have hchange := hover (.changing key u p₁) (by simp [pairOf])
    cases p₁ <;> first | rfl | contradiction
  subst hfinished
  have harrived' := hreached.switched hsomebody hne
  have hrecord := plan?_eq_none.1 hlate₁.plan
  refine ⟨fun change hmine => ?_, hlate₁.remains.symm, hrecord,
    hlate₁.handing.sane.sound.alarmsOf_eq_nil hrecord, hactive₁,
    harrived.state.trans harrived'.state.symm, harrived.plan.trans harrived'.plan.symm⟩
  rw [hhᵣ.decoded hf₀ u]
  exact hq change (.inr hmine)

/-- User 100 of two users with a window each has just stored that it is to be dark always. -/
def darkStored : Daemon :=
  let d := ((runAll .quiet twoWindows).on default).2
  d.withValues (d.settings.values.put StateKey.mode.name "1" 100)

/-- The change is found to be one of the active user before the observers are exchanged, and is
    taken over after user 100 is forgotten. -/
def overtaken : List Nat := [1, 1, 0, 0, 0, 1, 1, 0, 0, 0]

/-- A change that is overtaken brings a user back who is not active, and has a status reported for
    them. -/
theorem back_of_overtaken :
    let start := darkStored
    let race := (interleave .quiet (pairOf 100 101 .mode .begun .begun) overtaken).on start
    race.1.all Task.isOver = true ∧
      race.2.manager.active = 101 ∧
      race.2.manager.states.get? 100 = some (StateChange.mode .alwaysDark).alone ∧
      race.2.updates = [(false, 101), (true, 100)] ++ start.updates := by
  decide +kernel

end Daemon

end Twilight
