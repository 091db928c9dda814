import Twilight.Proofs.Daemon.Plans
import Twilight.Proofs.Daemon.Sections
import Twilight.Proofs.Daemon.Watch

namespace Twilight

/-!
# Firings while users are switched

Alarms of the active user fire while another user becomes active. The firings and the switch take
turns in any order, section by section.

* `Daemon.Gone` — nothing of a user is left.
* `Daemon.Stage`, `Daemon.Handing` — how things stand when a switch has come to one of its phases,
  whatever firings did meanwhile.
* `Daemon.Handing.next` — a turn of the switch leads to the next stage.
* `Daemon.firing_on`, `Daemon.Firing.gone` — all that a turn of a firing can do; it leads to no
  stage, and does not bring a user back.
* `Daemon.handedOver_of_race` — in the end the old user is gone, and the new one is as without
  firings.
-/

open Time

namespace Daemon

variable {d d₀ d₁ : Daemon} {u v : UserId}

/-! ### Stages of a switch -/

/-- Nothing of the user is left but what is remembered of statuses. -/
structure Gone (user : UserId) (d : Daemon) : Prop where
  state : d.manager.states.get? user = none
  plan : d.plan? user = none

/-- The user's state and plan are those on `d₀`. -/
structure Waiting (user : UserId) (d₀ d : Daemon) : Prop where
  state : d.manager.states.get? user = d₀.manager.states.get? user
  plan : d.plan? user = d₀.plan? user

/-- The user's state is what the store served on `d₀`, and was resolved there. -/
structure Arrived (user : UserId) (d₀ d : Daemon) : Prop where
  state : d.manager.states.get? user = some (d₀.settings.decoded user)
  plan : d.plan? user = d₀.planned user (d₀.settings.decoded user)

/-- How things stand with a switch from `u` to `v` that began on `d₀`. -/
inductive Stage (u v : UserId) (d₀ d : Daemon) : SwitchPhase → Prop
  | begun (active : d.manager.active = u) (waiting : Waiting v d₀ d) : Stage u v d₀ d .begun
  | prepared (active : d.manager.active = u) (waiting : Waiting v d₀ d) : Stage u v d₀ d .prepared
  | exchanged (active : d.manager.active = v) (waiting : Waiting v d₀ d) :
    Stage u v d₀ d (.exchanged u 0)
  | retired (active : d.manager.active = v) (waiting : Waiting v d₀ d) : Stage u v d₀ d .retired
  | read (active : d.manager.active = v) (waiting : Waiting v d₀ d) :
    Stage u v d₀ d (.read (d₀.settings.decoded v))
  | taken (resolution : Resolution) (active : d.manager.active = v) (arrived : Arrived v d₀ d) :
    Stage u v d₀ d (.taken resolution)
  | finished (active : d.manager.active = v) (arrived : Arrived v d₀ d) :
    Stage u v d₀ d (.finished (.ok ()))

/-- A switch from `u` to `v` began on `d₀`, and has come to a phase on `d` without any fault. -/
structure Handing (u v : UserId) (d₀ : Daemon) (phase : SwitchPhase) (d : Daemon) : Prop where
  sane : Sane d
  zone : d.zone = d₀.zone
  clock : d.clock = d₀.clock
  values : d.settings.values = d₀.settings.values
  faultless : d.settings.faults = {}
  receiver : d.manager.receiver = d₀.manager.receiver
  stage : Stage u v d₀ d phase

end Daemon

/-- The user before has been forgotten in this phase of a switch. -/
def SwitchPhase.vacated : SwitchPhase → Bool
  | .retired | .read _ | .taken _ | .finished _ => true
  | _ => false

namespace Daemon

variable {d d₀ d₁ : Daemon} {u v : UserId} {phase : SwitchPhase}

/-- What is done about others does not bring a user back. -/
theorem Gone.aside (hg : Gone u d) (ha : Aside v d d₁) (hne : u ≠ v) : Gone u d₁ :=
  ⟨(ha.states u hne).trans hg.state, (ha.plans u hne).trans hg.plan⟩

/-- A user goes on `Waiting` while something happens to another one. -/
theorem Waiting.aside (hw : Waiting v d₀ d) (ha : Aside u d d₁) (hne : u ≠ v) :
    Waiting v d₀ d₁ :=
  ⟨(ha.states v hne.symm).trans hw.state, (ha.plans v hne.symm).trans hw.plan⟩

/-- A user stays `Arrived` while something happens to another one. -/
theorem Arrived.aside (har : Arrived v d₀ d) (ha : Aside u d d₁) (hne : u ≠ v) :
    Arrived v d₀ d₁ :=
  ⟨(ha.states v hne.symm).trans har.state, (ha.plans v hne.symm).trans har.plan⟩

/-- A switch stays at its `Stage` whatever is done `Aside`, for the old user. -/
theorem Handing.aside (hh : Handing u v d₀ phase d) (hs : Sane d₁) (ha : Aside u d d₁)
    (hne : u ≠ v) : Handing u v d₀ phase d₁ where
  sane := hs
  zone := ha.zone.trans hh.zone
  clock := ha.clock.trans hh.clock
  values := by rw [ha.settings, hh.values]
  faultless := by rw [ha.settings, hh.faultless]
  receiver := ha.receiver.trans hh.receiver
  stage := by
    have hactive := ha.active
    -- whichever stage was reached, what happens aside leaves the new user alone
    cases hh.stage with
    | begun active waiting => exact .begun (hactive.trans active) (waiting.aside ha hne)
    | prepared active waiting => exact .prepared (hactive.trans active) (waiting.aside ha hne)
    | exchanged active waiting => exact .exchanged (hactive.trans active) (waiting.aside ha hne)
    | retired active waiting => exact .retired (hactive.trans active) (waiting.aside ha hne)
    | read active waiting => exact .read (hactive.trans active) (waiting.aside ha hne)
    | taken r active arrived => exact .taken r (hactive.trans active) (arrived.aside ha hne)
    | finished active arrived => exact .finished (hactive.trans active) (arrived.aside ha hne)

/-- During a switch the store serves every user what it served at its start. -/
theorem Handing.decoded (hh : Handing u v d₀ phase d) (hf₀ : d₀.settings.faults = {})
    (user : UserId) : d.settings.decoded user = d₀.settings.decoded user :=
  DarkModeState.ext_part fun _ =>
    SettingsStore.decoded_part_congr hh.faultless hf₀ (by rw [hh.values])

/-- What is done for the new user keeps everything about a switch but its `Stage`. -/
theorem Handing.ahead (hh : Handing u v d₀ phase d) (hs : Sane d₁) (ha : Aside v d d₁)
    {phase₁ : SwitchPhase} (hstage : Stage u v d₀ d₁ phase₁) : Handing u v d₀ phase₁ d₁ where
  sane := hs
  zone := ha.zone.trans hh.zone
  clock := ha.clock.trans hh.clock
  values := by rw [ha.settings, hh.values]
  faultless := by rw [ha.settings, hh.faultless]
  receiver := ha.receiver.trans hh.receiver
  stage := hstage

/-! ### Turns of the switch -/

/-- The section that exchanges the observers makes the new user active. -/
theorem Handing.next_prepared (hh : Handing u v d₀ .prepared d) (hr : d₀.manager.receiver ≠ none) :
    ∃ d₁, (SwitchPhase.prepared.next .quiet v).on d = (.exchanged u 0, d₁) ∧
      Handing u v d₀ (.exchanged u 0) d₁ := by
  have hsome : ¬ d.manager.receiver.isNone = true := by
    rw [hh.receiver]
    simpa using hr
  obtain ⟨n, d₁, he, hobs, hactive, hf, _, hall⟩ := exchangeObservers_on v d
  obtain ⟨rfl, _⟩ := hall hh.faultless
  rw [SwitchPhase.next_prepared_of_some v hsome, he]
  cases hh.stage with
  | prepared active waiting =>
    refine ⟨d₁, by rw [active], hh.sane.congr hobs.timers hobs.alarms, hobs.zone.trans hh.zone,
      hobs.clock.trans hh.clock, hobs.values.trans hh.values, hf.trans hh.faultless,
      hobs.receiver.trans hh.receiver, ?_⟩
    have hplan : d₁.plan? v = d.plan? v := by
      unfold plan? pending?
      rw [hobs.timers, hobs.alarms]
    exact .exchanged hactive ⟨by rw [hobs.states, waiting.state], hplan.trans waiting.plan⟩

/-- The section that retires the old user leaves them `Gone`, and reports nothing. -/
theorem Handing.next_exchanged (hh : Handing u v d₀ (.exchanged u 0) d) (hu : u ≠ noUser)
    (hne : u ≠ v) :
    ∃ d₁, ((SwitchPhase.exchanged u 0).next .quiet v).on d = (.retired, d₁) ∧
      Handing u v d₀ .retired d₁ ∧ Gone u d₁ ∧ d₁.updates = d.updates := by
  have hret := retire_on (Hooks.quiet_losing False) hh.sane.cancels u
  refine ⟨((retire .quiet u).on d).2, rfl, ?_⟩
  cases hret with
  | nobody nobody _ => exact absurd nobody hu
  | forgotten _ cleared =>
    -- without its state and its timers nothing of `u` is left
    have hwithout : Sane (d.withoutState u) := hh.sane.congr rfl rfl
    have hsane := hwithout.change (.cleared u cleared)
    have haside := (aside_withoutState u d).trans
      (cleared.rescheduled.aside fun _ hother => cleared.plan_of_ne hwithout hother)
    refine ⟨?_, ⟨?_, cleared.plan⟩, cleared.rescheduled.updates⟩
    · have hstill := hh.aside hsane haside hne
      cases hstill.stage with
      | exchanged active waiting =>
        exact ⟨hstill.sane, hstill.zone, hstill.clock, hstill.values, hstill.faultless,
          hstill.receiver, .retired active waiting⟩
    · rw [cleared.rescheduled.manager]
      exact Table.get?_erase_self _ _

/-- What is read for the new user is what the store served when the switch began. -/
theorem Handing.next_retired (hh : Handing u v d₀ .retired d) (hf₀ : d₀.settings.faults = {}) :
    ∃ d₁, (SwitchPhase.retired.next .quiet v).on d = (.read (d₀.settings.decoded v), d₁) ∧
      Logged d d₁ ∧ Handing u v d₀ (.read (d₀.settings.decoded v)) d₁ := by
  obtain ⟨j, hj⟩ := Act.logs_info s!"Active user is now {v}" d
  obtain ⟨d₁, he, hlog⟩ := readState_on v { d with journal := j }
  have hdecoded : ({ d with journal := j } : Daemon).settings.decoded v =
      d₀.settings.decoded v := hh.decoded hf₀ v
  have hlogged : Logged d d₁ := .trans ⟨j, rfl⟩ hlog
  rw [hdecoded] at he
  refine ⟨d₁, ?_, hlogged, ?_⟩
  · unfold SwitchPhase.next
    simp only [Act.on_bind, hj, he, Act.on_pure]
  · have hdel := hlogged.delivered
    cases hh.stage with
    | retired active waiting =>
      exact hh.ahead (hh.sane.congr hdel.timers hdel.alarms) hlogged.aside
        (.read (hdel.active.trans active)
          ⟨by rw [hdel.states, waiting.state], hlogged.plan.trans waiting.plan⟩)

/-- Taking the state over resolves it as on the daemon that the switch began on. -/
theorem Handing.next_read (hh : Handing u v d₀ (.read (d₀.settings.decoded v)) d) :
    ∃ r d₁, ((SwitchPhase.read (d₀.settings.decoded v)).next .quiet v).on d = (.taken r, d₁) ∧
      Aside v d d₁ ∧ d₁.updates = d.updates ∧ Handing u v d₀ (.taken r) d₁ := by
  obtain ⟨r, d₁, he, _, hres⟩ := takeState_on (Hooks.quiet_losing False) hh.sane.cancels v
    (d₀.settings.decoded v)
  obtain ⟨hsane, haside⟩ := hres.aside_of_withState hh.sane
  refine ⟨r, d₁, ?_, haside, hres.rescheduled.updates, ?_⟩
  · unfold SwitchPhase.next
    simp only [Act.on_bind, he, Act.on_pure]
  · cases hh.stage with
    | read active waiting =>
      -- the plan depends on zone and clock only, and these are as they were
      refine hh.ahead hsane haside (.taken r (haside.active.trans active) ⟨?_, ?_⟩)
      · rw [hres.rescheduled.manager]
        exact Table.get?_insert_self _ _ _
      · calc d₁.plan? v
          _ = (d.withState v (d₀.settings.decoded v)).planned v (d₀.settings.decoded v) :=
            hres.plan hh.sane.arms
          _ = d₀.planned v (d₀.settings.decoded v) :=
            planned_congr hh.zone hh.clock waiting.plan

/-- The section that notifies the status leads to the end of the switch, with success. -/
theorem Handing.next_taken {r : Resolution} (hh : Handing u v d₀ (.taken r) d) :
    ∃ d₁, ((SwitchPhase.taken r).next .quiet v).on d = (.finished (.ok ()), d₁) ∧
      Concluded r.dark? v .onChange d d₁ ∧ Handing u v d₀ (.finished (.ok ())) d₁ := by
  obtain ⟨d₂, he, hcon⟩ := finish_on (h := .quiet) (fun _ => rfl) v r .onChange d
  have hlogged := hcon.logged (logs_reportLoaded v r.result d₂)
  refine ⟨((reportLoaded v r.result).on d₂).2, ?_, hlogged, ?_⟩
  · unfold SwitchPhase.next
    simp only [Act.on_bind, he, Act.on_pure]
  · have hdel := hlogged.delivered
    have haside : Aside v d _ := hdel.aside
    have hplan : ((reportLoaded v r.result).on d₂).2.plan? v = d.plan? v :=
      hdel.plan
    cases hh.stage with
    | taken _ active arrived =>
      exact hh.ahead (hh.sane.congr hdel.timers hdel.alarms) haside
        (.finished (haside.active.trans active)
          ⟨by rw [hdel.states, arrived.state], hplan.trans arrived.plan⟩)

/-- What a turn of a switch from `u` to `v` is for `u`: one before they are forgotten, the one that
    forgets them, or one after that, which is not about them. -/
inductive Turn (u v : UserId) (phase : SwitchPhase) (d : Daemon) : SwitchPhase × Daemon → Prop
  | before (phase₁ : SwitchPhase) (d₁ : Daemon) (here : phase.vacated = false)
    (still : phase₁.vacated = false) : Turn u v phase d (phase₁, d₁)
  | retiring (d₁ : Daemon) (here : phase = .exchanged u 0) (gone : Gone u d₁)
    (updates : d₁.updates = d.updates) : Turn u v phase d (.retired, d₁)
  | after (phase₁ : SwitchPhase) (d₁ : Daemon) (left : phase.vacated = true)
    (still : phase₁.vacated = true) (aside : Aside v d d₁)
    (updates : d₁.updates = d.updates ∨ ∃ dark?, Concluded dark? v .onChange d d₁) :
    Turn u v phase d (phase₁, d₁)

/-- Each turn of a switch leads to its next `Stage`, and is a `Turn` for the old user. The cases are
    those of the phase. -/
theorem Handing.next (hh : Handing u v d₀ phase d) (hu : u ≠ noUser) (hne : u ≠ v)
    (hf₀ : d₀.settings.faults = {}) (hr : d₀.manager.receiver ≠ none) :
    Handing u v d₀ ((phase.next .quiet v).on d).1 ((phase.next .quiet v).on d).2 ∧
      Turn u v phase d ((phase.next .quiet v).on d) := by
  cases hh.stage with
  | begun active waiting =>
    -- the store is ready without faults
    have hready := prepareStore_of_ready (d := d) (by rw [hh.faultless])
    have he : (SwitchPhase.begun.next .quiet v).on d = (.prepared, d) := by
      unfold SwitchPhase.next
      rw [Act.on_bind, hready]
      rfl
    rw [he]
    exact ⟨⟨hh.sane, hh.zone, hh.clock, hh.values, hh.faultless, hh.receiver,
      .prepared active waiting⟩, .before _ _ rfl rfl⟩
  | prepared _ _ =>
    obtain ⟨d₁, he, hh₁⟩ := hh.next_prepared hr
    rw [he]
    exact ⟨hh₁, .before _ _ rfl rfl⟩
  | exchanged _ _ =>
    obtain ⟨d₁, he, hh₁, hgone, hup⟩ := hh.next_exchanged hu hne
    rw [he]
    exact ⟨hh₁, .retiring d₁ rfl hgone hup⟩
  | retired _ _ =>
    obtain ⟨d₁, he, hlog, hh₁⟩ := hh.next_retired hf₀
    rw [he]
    exact ⟨hh₁, .after _ _ rfl rfl hlog.aside (.inl hlog.rescheduled.updates)⟩
  | read _ _ =>
    obtain ⟨r, d₁, he, haside, hup, hh₁⟩ := hh.next_read
    rw [he]
    exact ⟨hh₁, .after _ _ rfl rfl haside (.inl hup)⟩
  | taken r _ _ =>
    obtain ⟨d₁, he, hcon, hh₁⟩ := hh.next_taken
    rw [he]
    exact ⟨hh₁, .after _ _ rfl rfl hcon.delivered.aside (.inr ⟨_, hcon⟩)⟩
  | finished _ _ => exact ⟨hh, .after _ d rfl rfl (.refl v d) (.inl rfl)⟩

/-- A `Turn` leaves the old user `Gone` once they are so, or makes them so. -/
theorem Turn.gone {turn : SwitchPhase × Daemon} (ht : Turn u v phase d turn) (hne : u ≠ v)
    (hgone : phase.vacated = true → Gone u d) (hv : turn.1.vacated = true) : Gone u turn.2 := by
  cases ht with
  | before phase₁ d₁ _ still =>
    rw [still] at hv
    contradiction
  | retiring d₁ _ gone _ => exact gone
  | after phase₁ d₁ left _ aside _ => exact (hgone left).aside aside hne

/-! ### Turns of firings -/

/-- All that a turn of a firing can do: to hand a status over or to log, and, if the request is the
    live one of its user, to have the alarms of its window armed anew. -/
inductive Firing (request : ScheduleRequest) (d d₁ : Daemon) : Prop
  | told (delivered : Delivered d d₁)
  | rearmed (d₂ d₃ : Daemon) (ids : Pair (Option AlarmId)) (triggers : Pair Moment)
    (live : d.liveRequest? request.user = some request) (valid : request.window.valid = true)
    (before : Logged d d₂)
    (rearmed : Rearmed False request.user ⟨ids, request.window, request.actions⟩ triggers d₂ d₃)
    (after : Logged d₃ d₁)

/-- Asking whether a request `isForActiveUser` adds lines to the journal only. -/
theorem logs_isForActiveUser (request : ScheduleRequest) (boundary : Boundary) :
    (isForActiveUser request boundary).Logs := by
  intro d
  unfold isForActiveUser
  rw [Act.on_get_bind]
  by_cases hmine : request.user = d.manager.active
  · rw [if_pos hmine]
    exact .refl d
  · rw [if_neg hmine]
    exact Act.logs_debug _ d

/-- A turn of a firing does what `Firing` says, in whichever phase it is. -/
theorem firing_on (hc : d.alarms.Cancels) (request : ScheduleRequest) (boundary : Boundary)
    (phase : FiringPhase) : Firing request d ((phase.next .quiet request boundary).on d).2 := by
  cases phase with
  | begun =>
    refine .told (((logs_isForActiveUser request boundary).bind fun mine => ?_) d).delivered
    cases mine with
    | true => exact Act.logs_pure _
    | false => exact Act.logs_pure _
  | mine =>
    have hafter : ((FiringPhase.mine.next .quiet request boundary).on d).2 =
        ((honour .quiet request boundary).on d).2 := by
      unfold FiringPhase.next
      rw [Act.on_bind]
      cases ((honour .quiet request boundary).on d).1 <;> rfl
    rw [hafter]
    by_cases hreq : d.liveRequest? request.user = some request
    · obtain ⟨j, d₁, hlog, he⟩ := honour_of_live (h := .quiet) boundary hreq
      rw [he]
      rcases schedule_cases (Hooks.quiet_losing False) (d := { d with journal := j }) hc
          request.user request.window request.actions with
        ⟨hv, triggers, ids, _, hr⟩ | ⟨_, hsame⟩
      · -- the request is live, and its pair was armed anew
        exact .rearmed _ _ ids triggers hreq hv ⟨j, rfl⟩ hr hlog
      · -- it is live, but its bounds do not occur again
        exact .told ((Logged.delivered ⟨j, rfl⟩).trans (hsame.delivered.trans hlog.delivered))
    · obtain ⟨d₁, he, hlog⟩ := honour_of_stale (h := .quiet) boundary hreq
      rw [he]
      exact .told hlog.delivered
  | honoured dark =>
    exact .told (notify_on (fun _ => rfl) dark request.user .always d).delivered
  | finished => exact .told (.refl d)

/-- A turn of a `Firing` is `Aside` for its user: it changes nothing of anybody else's. -/
theorem Firing.aside {request : ScheduleRequest} (hs : Sane d) (hf : Firing request d d₁) :
    Sane d₁ ∧ Aside request.user d d₁ := by
  cases hf with
  | told delivered => exact ⟨hs.congr delivered.timers delivered.alarms, delivered.aside⟩
  | rearmed d₂ d₃ ids triggers _ valid before rearmed after =>
    have hbefore := before.delivered
    have hafter := after.delivered
    have hs₂ : Sane d₂ := hs.congr hbefore.timers hbefore.alarms
    have hs₃ : Sane d₃ := hs₂.change (.rearmed request.user _ triggers rfl valid rearmed)
    have haside : Aside request.user d₂ d₃ :=
      rearmed.rescheduled.aside fun _ hother => rearmed.plan_of_ne hs₂ hother
    exact ⟨hs₃.congr hafter.timers hafter.alarms,
      before.aside.trans (haside.trans after.aside)⟩

/-- A turn of a `Firing` does not bring back a user who is `Gone`: with no state no request is live.
    -/
theorem Firing.gone {request : ScheduleRequest} (hf : Firing request d d₁)
    (hg : Gone request.user d) : Gone request.user d₁ := by
  cases hf with
  | told delivered => exact ⟨by rw [delivered.states, hg.state], delivered.plan.trans hg.plan⟩
  | rearmed _ _ _ _ live _ _ _ _ =>
    -- a live request is one of a user with a state
    unfold liveRequest? at live
    rw [hg.state] at live
    contradiction

/-! ### Races -/

/-- A switch to `v` is under way, and firings for `u`. -/
def Racing (u v : UserId) (d₀ : Daemon) (tasks : List Task) (d : Daemon) : Prop :=
  ∃ phase rest, tasks = .switching v phase :: rest ∧
    (∀ t ∈ rest, ∃ request boundary p, t = .firing request boundary p ∧ request.user = u) ∧
    Handing u v d₀ phase d ∧ (phase.vacated = true → Gone u d)

/-- Every turn of a task in a race keeps it `Racing`, be it the switch or one of the firings. -/
theorem Racing.next (hu : u ≠ noUser) (hne : u ≠ v) (hf₀ : d₀.settings.faults = {})
    (hr : d₀.manager.receiver ≠ none) {tasks : List Task} (hd : Racing u v d₀ tasks d) {i : Nat}
    {task : Task} (htask : tasks[i]? = some task) :
    Racing u v d₀ (tasks.set i ((task.next .quiet).on d).1) ((task.next .quiet).on d).2 := by
  obtain ⟨phase, rest, rfl, hrest, hh, hgone⟩ := hd
  cases i with
  | zero =>
    -- the turn of the switch
    obtain rfl := Option.some.inj htask
    obtain ⟨hh₁, hturn⟩ := hh.next hu hne hf₀ hr
    exact ⟨_, rest, rfl, hrest, hh₁, hturn.gone hne hgone⟩
  | succ i =>
    -- the turn of a firing
    have hmem : rest[i]? = some task := htask
    obtain ⟨request, boundary, p, rfl, rfl⟩ := hrest task (List.mem_of_getElem? hmem)
    have hfiring := firing_on hh.sane.cancels request boundary p
    obtain ⟨hs, haside⟩ := hfiring.aside hh.sane
    refine ⟨phase, rest.set i _, rfl, fun t ht => ?_, hh.aside hs haside hne,
      fun hv => hfiring.gone (hgone hv)⟩
    rcases List.mem_or_eq_of_mem_set ht with hold | rfl
    · exact hrest t hold
    · exact ⟨request, boundary, _, rfl, rfl⟩

/-- So does every sequence of turns. -/
theorem Racing.interleave (hu : u ≠ noUser) (hne : u ≠ v) (hf₀ : d₀.settings.faults = {})
    (hr : d₀.manager.receiver ≠ none) {tasks : List Task} (hd : Racing u v d₀ tasks d)
    (schedule : List Nat) :
    Racing u v d₀ ((Twilight.interleave .quiet tasks schedule).on d).1
      ((Twilight.interleave .quiet tasks schedule).on d).2 :=
  interleave_induction (fun _ _ _ _ htask hd => hd.next hu hne hf₀ hr htask) schedule hd

/-- A switch that is over has made the new user active, who has `Arrived`. -/
theorem Handing.finished (hh : Handing u v d₀ phase d)
    (hover : (Task.switching v phase).isOver = true) :
    phase.vacated = true ∧ d.manager.active = v ∧ Arrived v d₀ d := by
  cases hh.stage with
  | finished active arrived => exact ⟨rfl, active, arrived⟩
  | begun _ _ => contradiction
  | prepared _ _ => contradiction
  | exchanged _ _ => contradiction
  | retired _ _ => contradiction
  | read _ _ => contradiction
  | taken _ _ _ => contradiction

/-- Where everything is over, the old user is gone and the new one has arrived. -/
theorem Racing.finished {tasks : List Task} (hd : Racing u v d₀ tasks d)
    (hover : ∀ t ∈ tasks, t.isOver = true) :
    Sane d ∧ Gone u d ∧ d.manager.active = v ∧ Arrived v d₀ d := by
  obtain ⟨phase, rest, rfl, _, hh, hgone⟩ := hd
  obtain ⟨hv, hactive, harrived⟩ := hh.finished (hover _ List.mem_cons_self)
  exact ⟨hh.sane, hgone hv, hactive, harrived⟩

/-! ### Races after every run -/

/-- A daemon in a reachable state, without faults, whose active user is about to change. -/
structure Reached (u : UserId) (d : Daemon) : Prop where
  sane : Sane d
  installed : Installed d
  active : d.manager.active = u

/-- Any operations without faults lead to a daemon that is `Reached`. -/
theorem reached_of_run (hd : Fresh d) (hf : d.settings.faults = {}) (hc : d.alarms.Cancels)
    (harms : d.alarms.Arms) (ops : List Operation) :
    Reached ((runAll .quiet ops).on d).2.manager.active ((runAll .quiet ops).on d).2 := by
  have hl : Hooks.quiet.Losing False := Hooks.quiet_losing False
  have hco := runAll_course hl ops hc hd.soundTimers
  have hsane : Sane d := ⟨hc, harms, hd.soundTimers, hd.apart⟩
  exact ⟨hsane.course hco, installed_of_run hl hd hf hc ops, rfl⟩

/-- Before its first turn a switch stands at the start. -/
theorem Reached.handing (hd : Reached u d₀) (v : UserId) : Handing u v d₀ .begun d₀ :=
  ⟨hd.sane, rfl, rfl, rfl, hd.installed.faultless, rfl, .begun hd.active ⟨rfl, rfl⟩⟩

/-- Where a user is active on a daemon that is `Reached`, a receiver is installed. -/
theorem Reached.receiver (hd : Reached u d₀) (hu : u ≠ noUser) : d₀.manager.receiver ≠ none :=
  hd.installed.receiver (hd.active ▸ hu)

/-- A daemon that is `Reached` may begin a race of a switch with any firings for the active user. -/
theorem Reached.racing (hd : Reached u d₀) (v : UserId)
    (firings : List (ScheduleRequest × Boundary)) (hfirings : ∀ f ∈ firings, f.1.user = u) :
    Racing u v d₀ (.switching v .begun :: firings.map fun f => .firing f.1 f.2 .begun) d₀ := by
  refine ⟨.begun, _, rfl, fun t ht => ?_, hd.handing v, nofun⟩
  obtain ⟨f, hf, rfl⟩ := List.mem_map.1 ht
  exact ⟨f.1, f.2, .begun, rfl, hfirings f hf⟩

/-- By `switchUser` alone the new user has `Arrived`, as it is a race without firings. -/
theorem Reached.switched (hd : Reached u d₀) (hu : u ≠ noUser) (hne : u ≠ v) :
    Arrived v d₀ ((switchUser .quiet v).on d₀).2 := by
  have halone := (hd.racing v [] (by simp)).interleave hu hne hd.installed.faultless
    (hd.receiver hu) (List.replicate 6 0)
  rw [List.map_nil, switching_alone (h := .quiet) v d₀] at halone
  obtain ⟨_, _, _, harrived⟩ := halone.finished (by simp [Task.isOver])
  exact harrived

/-- `d₁` is what is left of a race between a switch from `u` to `v` and firings for `u`, and `e`
    what the switch leaves alone. -/
structure HandedOver (u v : UserId) (e d₁ : Daemon) : Prop where
  state : d₁.manager.states.get? u = none
  record : d₁.timers.get? u = none
  alarms : d₁.alarmsOf u = []
  active : d₁.manager.active = v
  sameState : d₁.manager.states.get? v = e.manager.states.get? v
  samePlan : d₁.plan? v = e.plan? v

/-- **A firing that races a switch of users leaves nothing behind.** In a state that any operations
    led to without faults, alarms of the active user fire, any number of them, while another user
    becomes active; their sections take turns in any order. Once all are over, the old user has no
    state, no timers and no pending alarm, and the state, the window and the pending alarms of the
    new user are those that the switch alone leads to. -/
theorem handedOver_of_race (hd : Fresh d) (hf : d.settings.faults = {}) (hc : d.alarms.Cancels)
    (harms : d.alarms.Arms) (ops : List Operation) (hrun : ((runAll .quiet ops).on d).2 = d₀)
    (hactive : d₀.manager.active = u) (hu : 0 ≤ u) (hne : u ≠ v)
    (firings : List (ScheduleRequest × Boundary)) (hfirings : ∀ f ∈ firings, f.1.user = u)
    (schedule : List Nat) {tasks : List Task}
    (hturns : (interleave .quiet
      (.switching v .begun :: firings.map fun f => .firing f.1 f.2 .begun) schedule).on d₀ =
        (tasks, d₁))
    (hover : ∀ t ∈ tasks, t.isOver = true) :
    HandedOver u v ((switchUser .quiet v).on d₀).2 d₁ := by
  have hreached := reached_of_run hd hf hc harms ops
  rw [hrun, hactive] at hreached
  have hsomebody : u ≠ noUser := by
    rintro rfl
    exact absurd hu (by decide)
  have hrace := (hreached.racing v firings hfirings).interleave hsomebody hne
    hreached.installed.faultless (hreached.receiver hsomebody) schedule
  rw [hturns] at hrace
  obtain ⟨hsane, hgone, hactive₁, harrived⟩ := hrace.finished hover
  have harrived' := hreached.switched hsomebody hne
  have hrecord := plan?_eq_none.1 hgone.plan
  exact ⟨hgone.state, hrecord, hsane.sound.alarmsOf_eq_nil hrecord, hactive₁,
    harrived.state.trans harrived'.state.symm, harrived.plan.trans harrived'.plan.symm⟩

/-- User 100 is active with a window from 20:00 to 06:00, and user 101 has stored one from 10:00 to
    18:00. -/
def twoWindows : List Operation :=
  nightUser 100 ++ [.put StateKey.mode.name "2" 101, .put StateKey.start.name "600" 101,
    .put StateKey.finish.name "1080" 101]

/-- Both alarms of user 100 fire while user 101 becomes active. -/
def twoFirings : List Task :=
  [.switching 101 .begun, .firing ⟨100, ⟨1200, 360⟩⟩ .start .begun,
    .firing ⟨100, ⟨1200, 360⟩⟩ .finish .begun]

/-- The first firing is taken for one of the active user before the observers are exchanged, arms
    new alarms before user 100 is forgotten, and is notified after that; the second one comes too
    late. -/
def late : List Nat := [1, 0, 0, 1, 0, 2, 0, 1, 0, 0]

/-- In the schedule `late` user 100 leaves nothing behind, though one firing arms alarms for them on
    the way and tells a status at the end. -/
theorem handedOver_of_late :
    HandedOver 100 101
        ((switchUser .quiet 101).on ((runAll .quiet twoWindows).on default).2).2
        ((interleave .quiet twoFirings late).on ((runAll .quiet twoWindows).on default).2).2 ∧
      ((interleave .quiet twoFirings late).on
        ((runAll .quiet twoWindows).on default).2).2.updates =
          [(false, 101), (true, 100), (true, 100)] := by
  have hfresh : Fresh (default : Daemon) := ⟨rfl, rfl, fun _ => rfl⟩
  refine ⟨handedOver_of_race hfresh rfl (fun _ => rfl) (fun _ => rfl) twoWindows rfl ?_ (by decide)
    (by decide) [(⟨100, ⟨1200, 360⟩⟩, .start), (⟨100, ⟨1200, 360⟩⟩, .finish)] (by simp) late
    (Prod.eta _).symm ?_, ?_⟩
  · decide +kernel
  · exact List.all_eq_true.1 (by decide +kernel)
  · decide +kernel

end Daemon

end Twilight
