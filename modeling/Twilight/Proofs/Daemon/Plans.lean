import Twilight.Proofs.Firings

namespace Twilight

/-!
# What is planned for a user

* `Daemon.plan?` — the window that a user's timers are for and the alarms pending in their slots:
  the user's record but for the numbers of the alarms.
* `Daemon.planned` — the plan that resolving a state leads to; `Daemon.Resolved.plan`, that it does.
* `Daemon.Sane` — no call on the alarm service fails, and no alarm is anybody else's.
* `Daemon.Aside` — nothing that is not a given user's has changed. Resolving a user's state, and
  handing statuses over, changes nothing of anybody else's.
-/

open Time

/-- The window of a user's timers, with the alarms that are pending in their slots. -/
structure Plan where
  window : Window
  alarms : Pair (Option (Alarm AlarmAction))

namespace Daemon

variable {d d₁ d₂ : Daemon} {user : UserId} {state : DarkModeState}

/-- What is planned for a user. -/
def plan? (d : Daemon) (user : UserId) : Option Plan :=
  (d.timers.get? user).map fun r =>
    ⟨r.window, ⟨r.alarms.start.bind d.pending?, r.alarms.finish.bind d.pending?⟩⟩

/-- There is no `plan?` for a user exactly if they have no record. -/
theorem plan?_eq_none : d.plan? user = none ↔ d.timers.get? user = none := by
  unfold plan?
  exact Option.map_eq_none_iff

/-- The `plan?` for a user depends on their record alone, and on what is pending under its numbers.
    -/
theorem plan?_congr (ht : d₁.timers.get? user = d.timers.get? user)
    (hp : ∀ i : Nat, i ∈ d.idsOf user → d₁.pending? i = d.pending? i) :
    d₁.plan? user = d.plan? user := by
  unfold plan?
  rw [ht]
  cases hr : d.timers.get? user with
  | none => rfl
  | some r =>
    have hbind : ∀ id? : Option AlarmId, (∀ i, id? = some i → i ∈ r.ids) →
        id?.bind d₁.pending? = id?.bind d.pending? := by
      intro id? hid
      cases id? with
      | none => rfl
      | some i => exact hp i (mem_idsOf.2 ⟨r, hr, hid i rfl⟩)
    have hstart := hbind r.alarms.start fun i hi => mem_pairIds.2 (.inl hi)
    have hfinish := hbind r.alarms.finish fun i hi => mem_pairIds.2 (.inr hi)
    simp only [Option.map_some, hstart, hfinish]

/-- The plan with an alarm for either bound of a window. -/
def fullPlan (window : Window) (triggers : Pair Moment) (actions : Pair AlarmAction) : Plan :=
  ⟨window, ⟨some (.once triggers.start actions.start), some (.once triggers.finish actions.finish)⟩⟩

/-- What is planned for a user whose state was resolved on `d`. -/
def planned (d : Daemon) (user : UserId) (state : DarkModeState) : Option Plan :=
  if state.mode = .invalid then d.plan? user
  else
    state.window?.bind fun w =>
      match w.occurrences d.zone d.clock with
      | .ok triggers => some (fullPlan w triggers (ScheduleRequest.mk user w).actions)
      | .error _ => d.plan? user

/-- What `planned` says for a user depends on the zone, the clock and their plan only. -/
theorem planned_congr (hz : d₁.zone = d.zone) (hc : d₁.clock = d.clock)
    (hp : d₁.plan? user = d.plan? user) : d₁.planned user state = d.planned user state := by
  unfold planned
  rw [hz, hc, hp]

/-- Where no call to arm fails, a user who was `Rearmed` has the `fullPlan` of the record, with both
    slots filled. -/
theorem Rearmed.plan (harms : d.alarms.Arms) {record : TimerRecord} {triggers : Pair Moment}
    (hr : Rearmed False user record triggers d d₁) :
    d₁.plan? user = some (fullPlan record.window triggers record.actions) := by
  obtain ⟨hstart, hfinish⟩ := hr.full harms
  obtain ⟨i, hi⟩ := Option.isSome_iff_exists.1 hstart
  obtain ⟨j, hj⟩ := Option.isSome_iff_exists.1 hfinish
  have hpi : d₁.pending? i = some (.once triggers.start record.actions.start) := by
    rw [hr.pending.eq i]
    simp [Pending.adding, pairAlarms, hi]
  have hpj : d₁.pending? j = some (.once triggers.finish record.actions.finish) := by
    -- the second number is not the first one
    have hne : record.alarms.start ≠ some j := fun hs => hr.numbers.distinct j hs hj
    rw [hr.pending.eq j]
    simp [Pending.adding, pairAlarms, hne, hj]
  unfold plan? fullPlan
  rw [hr.timers, Table.get?_insert_self]
  simp [hi, hj, hpi, hpj]

/-- Where a user's timers were cleared nothing is planned for them. -/
theorem Cleared.plan (hc : Cleared False user d d₁) : d₁.plan? user = none := by
  rw [plan?_eq_none, hc.timers, Table.get?_erase_self]

/-- Delivering a status leaves every `plan?` as it is. -/
theorem Delivered.plan (hd : Delivered d d₁) : d₁.plan? user = d.plan? user := by
  obtain ⟨_, _, _, _, _, _, rfl⟩ := hd
  rfl

/-- So does logging lines. -/
theorem Logged.plan (hd : Logged d d₁) : d₁.plan? user = d.plan? user := hd.delivered.plan

/-- Where nothing fails, a user whose state was `Resolved` has the plan that is `planned` for this
    state. -/
theorem Resolved.plan (harms : d.alarms.Arms) (hr : Resolved False user state d d₁) :
    d₁.plan? user = d.planned user state := by
  unfold planned
  cases hr with
  | unset mode logged => rw [if_pos mode, logged.plan]
  | cleared mode window cleared => rw [if_neg mode, window, cleared.plan, Option.bind_none]
  | armed w triggers ids window occurrences rearmed =>
    have hmode : state.mode ≠ .invalid := by
      rw [(DarkModeState.window?_eq_some.1 window).1]
      exact nofun
    rw [if_neg hmode, window, rearmed.plan harms, Option.bind_some, occurrences]
  | stuck w f window occurrences logged =>
    have hmode : state.mode ≠ .invalid := by
      rw [(DarkModeState.window?_eq_some.1 window).1]
      exact nofun
    rw [if_neg hmode, window, logged.plan, Option.bind_some, occurrences]

/-! ### Nobody else's alarms -/

/-- No call on the alarm service fails, and every pending alarm is that of one user's record. -/
structure Sane (d : Daemon) : Prop where
  cancels : d.alarms.Cancels
  arms : d.alarms.Arms
  sound : SoundTimers d
  apart : Apart d

/-- A daemon stays `Sane` along every change of timers, because no call on its alarm service fails.
    -/
theorem Sane.change (hs : Sane d) (ht : TimerChange False d d₁) : Sane d₁ :=
  ⟨ht.plans.cancels hs.cancels, ht.plans.arms hs.arms, ht.soundTimers hs.sound,
    hs.apart.change hs.sound ht⟩

/-- Whatever is done about timers keeps the daemon sane. -/
theorem Sane.course (hs : Sane d) (hco : Course False d d₁) : Sane d₁ :=
  hco.preserves (fun _ _ ht hp => hp.change ht) hs

/-- Only the records and the alarms count. -/
theorem Sane.congr (hs : Sane d) (ht : d₁.timers = d.timers) (ha : d₁.alarms = d.alarms) :
    Sane d₁ := hs.change (.unchanged ht ha)

/-- What is pending under the numbers of others stays when a user's pair is exchanged. -/
theorem Rearmed.plan_of_ne (hs : Sane d) {record : TimerRecord} {triggers : Pair Moment}
    (hr : Rearmed False user record triggers d d₁) {other : UserId} (hne : other ≠ user) :
    d₁.plan? other = d.plan? other := by
  refine plan?_congr (by rw [hr.timers, Table.get?_insert_of_ne _ hne]) fun i hi => ?_
  have hold := hr.numbers.pairAlarms_eq_none (hs.sound.le_of_mem_idsOf hi) triggers record.actions
  have hother : i ∉ d.idsOf user := hs.apart other user hne i hi
  rw [hr.pending.eq i]
  simp [Pending.adding, Pending.without, hold, hother]

/-- Clearing one user's timers leaves the plan of everybody else, whose alarms are `Apart` from
    these. -/
theorem Cleared.plan_of_ne (hs : Sane d) (hc : Cleared False user d d₁) {other : UserId}
    (hne : other ≠ user) : d₁.plan? other = d.plan? other := by
  refine plan?_congr (by rw [hc.timers, Table.get?_erase_of_ne _ hne]) fun i hi => ?_
  have hother : i ∉ d.idsOf user := hs.apart other user hne i hi
  rw [hc.pending.eq i]
  simp [Pending.without, hother]

/-! ### Changes that are one user's -/

/-- Nothing that is not the user's has changed, but for what became of statuses. -/
structure Aside (user : UserId) (d d₁ : Daemon) : Prop where
  zone : d₁.zone = d.zone
  clock : d₁.clock = d.clock
  settings : d₁.settings = d.settings
  receiver : d₁.manager.receiver = d.manager.receiver
  active : d₁.manager.active = d.manager.active
  states : ∀ other, other ≠ user →
    d₁.manager.states.get? other = d.manager.states.get? other
  plans : ∀ other, other ≠ user → d₁.plan? other = d.plan? other

namespace Aside

theorem refl (user : UserId) (d : Daemon) : Aside user d d :=
  ⟨rfl, rfl, rfl, rfl, rfl, fun _ _ => rfl, fun _ _ => rfl⟩

/-- `Aside` is passed on, as long as it is about the same user. -/
theorem trans (h₁ : Aside user d d₁) (h₂ : Aside user d₁ d₂) : Aside user d d₂ where
  zone := h₂.zone.trans h₁.zone
  clock := h₂.clock.trans h₁.clock
  settings := h₂.settings.trans h₁.settings
  receiver := h₂.receiver.trans h₁.receiver
  active := h₂.active.trans h₁.active
  states other hne := (h₂.states other hne).trans (h₁.states other hne)
  plans other hne := (h₂.plans other hne).trans (h₁.plans other hne)

end Aside

/-- What becomes of statuses is allowed for by `Aside`. -/
theorem Delivered.aside (hd : Delivered d d₁) : Aside user d d₁ := by
  obtain ⟨_, _, _, _, _, _, rfl⟩ := hd
  exact ⟨rfl, rfl, rfl, rfl, rfl, fun _ _ => rfl, fun _ _ => rfl⟩

/-- So are lines of the journal. -/
theorem Logged.aside (hd : Logged d d₁) : Aside user d d₁ := hd.delivered.aside

/-- Work on timers is `Aside` for a user if the plans of all others stay. -/
theorem Rescheduled.aside (hr : Rescheduled d d₁)
    (hp : ∀ other, other ≠ user → d₁.plan? other = d.plan? other) : Aside user d d₁ :=
  ⟨hr.zone, hr.clock, hr.settings, by rw [hr.manager], by rw [hr.manager],
    fun _ _ => by rw [hr.manager], hp⟩

/-- Giving the user a state is `Aside` for this user. -/
theorem aside_withState (user : UserId) (state : DarkModeState) (d : Daemon) :
    Aside user d (d.withState user state) :=
  ⟨rfl, rfl, rfl, rfl, rfl, fun _ hne => Table.get?_insert_of_ne _ hne _, fun _ _ => rfl⟩

/-- So is forgetting their state. -/
theorem aside_withoutState (user : UserId) (d : Daemon) : Aside user d (d.withoutState user) :=
  ⟨rfl, rfl, rfl, rfl, rfl, fun _ hne => Table.get?_erase_of_ne _ hne, fun _ _ => rfl⟩

/-- A user whose state was `Resolved` is the only one for whom anything changed, as `Aside` says. -/
theorem Resolved.aside (hs : Sane d) (hr : Resolved False user state d d₁) : Aside user d d₁ := by
  cases hr with
  | unset _ logged => exact logged.aside
  | cleared _ _ cleared => exact cleared.rescheduled.aside fun _ hne => cleared.plan_of_ne hs hne
  | armed _ _ _ _ _ rearmed =>
    exact rearmed.rescheduled.aside fun _ hne => rearmed.plan_of_ne hs hne
  | stuck _ _ _ _ logged => exact logged.aside

/-- The same where the state was set just before, and the daemon stays `Sane`. -/
theorem Resolved.aside_of_withState (hs : Sane d)
    (hr : Resolved False user state (d.withState user state) d₁) :
    Sane d₁ ∧ Aside user d d₁ := by
  have hset : Sane (d.withState user state) := hs.congr rfl rfl
  exact ⟨hset.course (Course.resolved hr), (aside_withState user state d).trans (hr.aside hset)⟩

end Daemon

end Twilight
