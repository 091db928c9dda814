import Twilight.Proofs.Daemon.Alarms

namespace Twilight

/-!
# What happens to timers

* `Daemon.Rearmed`, `Daemon.Cleared` — a user's record was exchanged together with its alarms, or
  taken away together with them.
* `Daemon.schedule_cases`, `Daemon.rearm_cases`, `Daemon.clearTimers_cleared`,
  `Daemon.clearAllTimers_on` — all that these operations can do, when no cancelling fails.
* `Daemon.SoundTimers` — every pending alarm belongs to the record of the user it is for. All of
  the above keep that.
-/

open Time

/-- The user that an alarm is armed for; scripts are for nobody. -/
def AlarmAction.user? : AlarmAction → Option UserId
  | .boundary request _ => some request.user
  | .script _ _ _ => none

/-- The alarms that have a request honoured. -/
def ScheduleRequest.actions (request : ScheduleRequest) : Pair AlarmAction :=
  ⟨.boundary request .start, .boundary request .finish⟩

/-- A user's record as the manager asks for it, with numbers given out by now: valid bounds, and
    alarms that have the request honoured. -/
structure TimerRecord.SoundFor (r : TimerRecord) (user : UserId) (last : Nat) : Prop where
  actions : r.actions = (ScheduleRequest.mk user r.window).actions
  valid : r.window.valid = true
  issued : ∀ i : Nat, i ∈ r.ids → i ≤ last

/-- A record that is `SoundFor` a user stays so as further numbers are given out. -/
theorem TimerRecord.SoundFor.mono {r : TimerRecord} {user : UserId} {last last₁ : Nat}
    (hr : r.SoundFor user last) (hle : last ≤ last₁) : r.SoundFor user last₁ :=
  ⟨hr.actions, hr.valid, fun i hi => Nat.le_trans (hr.issued i hi) hle⟩

namespace Daemon

variable {lossy : Prop} {h : Hooks} {d d₁ d₂ : Daemon}

/-- The alarms that a user's record names. -/
def idsOf (d : Daemon) (user : UserId) : List AlarmId :=
  ((d.timers.get? user).map TimerRecord.ids).getD []

/-- The alarms of `idsOf` are those that the user's record names, if there is one. -/
theorem mem_idsOf {user : UserId} {i : AlarmId} :
    i ∈ d.idsOf user ↔ ∃ r, d.timers.get? user = some r ∧ i ∈ r.ids := by
  unfold idsOf
  cases d.timers.get? user <;> simp

/-- `d₁` is `d` with a new record for a user, its alarms in the place of the old ones. -/
structure Rearmed (lossy : Prop) (user : UserId) (record : TimerRecord) (triggers : Pair Moment)
    (d d₁ : Daemon) : Prop where
  rescheduled : Rescheduled d d₁
  timers : d₁.timers = d.timers.insert user record
  plans : d.alarms.SamePlans d₁.alarms
  numbers : NewNumbers record.alarms d.alarms.lastId d₁.alarms.lastId
  full : d.alarms.Arms → record.alarms.start.isSome ∧ record.alarms.finish.isSome
  armed : d.alarms.ArmsOnly record.actions.toList d₁.alarms
  pending : UpToLoss lossy d₁.pending? ((Pending.without d.pending? (d.idsOf user)).adding
    (pairAlarms record.alarms triggers record.actions))

/-- `d₁` is `d` without the record of a user and its alarms. -/
structure Cleared (lossy : Prop) (user : UserId) (d d₁ : Daemon) : Prop where
  rescheduled : Rescheduled d d₁
  timers : d₁.timers = d.timers.erase user
  plans : d.alarms.SamePlans d₁.alarms
  lastId : d₁.alarms.lastId = d.alarms.lastId
  armed : d₁.alarms.armed = d.alarms.armed
  pending : UpToLoss lossy d₁.pending? (Pending.without d.pending? (d.idsOf user))

/-- Lines that are logged after a user was `Rearmed` make no difference. -/
theorem Rearmed.logged {user : UserId} {record : TimerRecord} {triggers : Pair Moment}
    (hr : Rearmed lossy user record triggers d d₁) (hj : Logged d₁ d₂) :
    Rearmed lossy user record triggers d d₂ := by
  obtain ⟨j, rfl⟩ := hj
  exact ⟨hr.rescheduled.trans ⟨_, _, j, rfl⟩, hr.timers, hr.plans, hr.numbers, hr.full,
    hr.armed, hr.pending⟩

/-- Lines that are logged after a user's timers were `Cleared` make no difference. -/
theorem Cleared.logged {user : UserId} (hr : Cleared lossy user d d₁) (hj : Logged d₁ d₂) :
    Cleared lossy user d d₂ := by
  obtain ⟨j, rfl⟩ := hj
  exact ⟨hr.rescheduled.trans ⟨_, _, j, rfl⟩, hr.timers, hr.plans, hr.lastId, hr.armed,
    hr.pending⟩

/-- Lines that are logged before a user is `Rearmed` make no difference. -/
theorem Rearmed.of_logged {user : UserId} {record : TimerRecord} {triggers : Pair Moment}
    (hj : Logged d d₁) (hr : Rearmed lossy user record triggers d₁ d₂) :
    Rearmed lossy user record triggers d d₂ := by
  obtain ⟨j, rfl⟩ := hj
  exact ⟨.trans ⟨_, _, j, rfl⟩ hr.rescheduled, hr.timers, hr.plans, hr.numbers, hr.full,
    hr.armed, hr.pending⟩

/-- Lines that are logged before a user's timers are `Cleared` make no difference. -/
theorem Cleared.of_logged {user : UserId} (hj : Logged d d₁) (hr : Cleared lossy user d₁ d₂) :
    Cleared lossy user d d₂ := by
  obtain ⟨j, rfl⟩ := hj
  exact ⟨.trans ⟨_, _, j, rfl⟩ hr.rescheduled, hr.timers, hr.plans, hr.lastId, hr.armed,
    hr.pending⟩

/-! ### Scheduling -/

/-- Without its record a user has no record that another one could displace. -/
theorem replaceRecord_on (hl : h.Losing lossy) (hc : d.alarms.Cancels) (user : UserId)
    (window : Window) (actions : Pair AlarmAction) (triggers : Pair Moment) :
    ∃ ids, Rearmed lossy user ⟨ids, window, actions⟩ triggers d
      ((replaceRecord h user window actions triggers).on d).2 := by
  obtain ⟨d₁, he₁, hd₁⟩ := discardAll_on hl (d.idsOf user)
    (d := { d with timers := d.timers.erase user }) hc
  have hd₂ := armPair_on hl triggers actions d₁
  -- first the old alarms are cancelled, then the new pair is armed
  unfold replaceRecord discardRecord
  simp only [Act.on_bind, takeRecord, Act.on_modifyGet, Act.on_pure]
  rw [show ((d.timers.get? user).map TimerRecord.ids).getD [] = d.idsOf user from rfl, he₁]
  generalize (armPair h triggers actions).on d₁ = armed at hd₂ ⊢
  obtain ⟨⟨ids, fault⟩, d₂⟩ := armed
  have htimers : d₂.timers = d.timers.erase user := hd₂.timers.trans hd₁.timers
  -- arming puts no record in, so none is displaced
  have hdisplaced : d₂.timers.get? user = none := by rw [htimers, Table.get?_erase_self]
  simp only [putRecord, Act.on_modifyGet, hdisplaced]
  refine ⟨ids, (?_ : Rearmed lossy user _ triggers d
    { d₂ with timers := d₂.timers.insert user ⟨ids, window, actions⟩ })⟩
  have harmed : d.alarms.ArmsOnly actions.toList d₂.alarms :=
    (AlarmService.ArmsOnly.of_eq hd₁.armed []).trans hd₂.armed
  refine ⟨?_, ?_, hd₁.plans.trans hd₂.plans, hd₁.lastId ▸ hd₂.numbers, fun harms => ?_, harmed,
    ?_⟩
  · have hall := (Rescheduled.trans ⟨_, _, _, rfl⟩ hd₁.rescheduled).trans hd₂.rescheduled
    exact hall.trans ⟨_, _, _, rfl⟩
  · apply Table.ext_get
    intro other
    rw [htimers]
    by_cases ho : other = user <;> simp [Table.get?_insert, Table.get?_erase, ho]
  · exact hd₂.full (hd₁.plans.arms harms)
  · exact hd₂.pending.trans (hd₁.pending.adding _)

/-- Where the window has no next occurrences, `armRecord` returns the fault and arms nothing. -/
theorem armRecord_of_error {user : UserId} {window : Window} {actions : Pair AlarmAction}
    {f : Fault} (ho : window.occurrences d.zone d.clock = .error f) :
    (armRecord h user window actions).on d = (.error f, d) := by
  unfold armRecord triggers
  simp only [Act.on_bind, Act.on_get, Act.on_pure, ho]

/-- Where the window has its next occurrences, `armRecord` is `replaceRecord` with them. -/
theorem armRecord_of_ok {user : UserId} {window : Window} {actions : Pair AlarmAction}
    {t : Pair Moment} (ho : window.occurrences d.zone d.clock = .ok t) :
    (armRecord h user window actions).on d = (replaceRecord h user window actions t).on d := by
  unfold armRecord triggers
  simp only [Act.on_bind, Act.on_get, Act.on_pure, ho]

/-- `schedule` refuses bounds out of range with `scheduleOutOfRange`, and changes nothing. -/
theorem schedule_of_not_valid {user : UserId} {window : Window} {actions : Pair AlarmAction}
    (hv : ¬ window.valid = true) :
    (schedule h user window actions).on d = (.error (.scheduleOutOfRange ⟨user, window⟩), d) := by
  unfold schedule
  rw [if_neg hv]
  rfl

/-- `schedule` does with a valid window what `armRecord` does, and only logs besides. -/
theorem schedule_of_valid (user : UserId) {window : Window} (actions : Pair AlarmAction)
    (hv : window.valid = true) :
    Logged ((armRecord h user window actions).on d).2
      ((schedule h user window actions).on d).2 := by
  unfold schedule
  rw [if_pos hv]
  refine Act.logged_bind (fun result => ?_) d
  cases result with
  | ok _ => exact (Act.logs_debug _).bind fun _ => Act.logs_pure _
  | error f => exact (Act.logs_warn _).bind fun _ => Act.logs_pure _

/-- All that scheduling can do: without next occurrences, or for bounds out of range, nothing but
    log lines; otherwise the user gets a new record. -/
theorem schedule_cases (hl : h.Losing lossy) (hc : d.alarms.Cancels) (user : UserId)
    (window : Window) (actions : Pair AlarmAction) :
    (window.valid = true ∧ ∃ triggers ids,
        window.occurrences d.zone d.clock = .ok triggers ∧
        Rearmed lossy user ⟨ids, window, actions⟩ triggers d
          ((schedule h user window actions).on d).2) ∨
      ((window.valid = false ∨ ∃ f, window.occurrences d.zone d.clock = .error f) ∧
        Logged d ((schedule h user window actions).on d).2) := by
  by_cases hv : window.valid = true
  · have hlog := schedule_of_valid (h := h) (d := d) user actions hv
    cases ho : window.occurrences d.zone d.clock with
    | error f =>
      rw [armRecord_of_error ho] at hlog
      exact .inr ⟨.inr ⟨f, rfl⟩, hlog⟩
    | ok t =>
      rw [armRecord_of_ok ho] at hlog
      obtain ⟨ids, hr⟩ := replaceRecord_on hl hc user window actions t
      exact .inl ⟨hv, t, ids, rfl, hr.logged hlog⟩
  · rw [schedule_of_not_valid hv]
    exact .inr ⟨.inl (by simpa using hv), .refl d⟩

/-! ### Clearing -/

/-- Clearing takes a user's record away with its alarms, whether or not there is one. -/
theorem clearTimers_cleared (hl : h.Losing lossy) (hc : d.alarms.Cancels) (user : UserId) :
    ∃ d₁, (clearTimers h user).on d = (.ok (), d₁) ∧ Cleared lossy user d d₁ := by
  unfold clearTimers
  simp only [Act.on_bind, takeRecord, Act.on_modifyGet]
  cases hr : d.timers.get? user with
  | none =>
    -- nobody's alarms are named, so what is pending stays
    refine ⟨_, rfl, ⟨_, _, _, rfl⟩, rfl, .refl _, rfl, rfl, .of_eq fun i => ?_⟩
    simp [Pending.without, idsOf, hr, pending?]
  | some record =>
    obtain ⟨d₁, he, hd⟩ := discardAll_on hl record.ids
      (d := { d with timers := d.timers.erase user }) hc
    have hids : d.idsOf user = record.ids := by simp [idsOf, hr]
    simp only [Act.on_bind, he, Act.on_pure, settle_none]
    refine ⟨_, rfl, Cleared.logged ⟨?_, hd.timers, hd.plans, hd.lastId, hd.armed, ?_⟩
      (Act.logs_debug _ d₁)⟩
    · exact Rescheduled.trans ⟨_, _, _, rfl⟩ hd.rescheduled
    · rw [hids]
      exact hd.pending

/-- As long as cancelling works, `discardRecords` reports no fault and cancels the alarms of all the
    records, and no others. -/
theorem discardRecords_on (hl : h.Losing lossy) (records : List TimerRecord)
    (hc : d.alarms.Cancels) :
    ∃ d₁, (discardRecords h records).on d = (none, d₁) ∧
      Cancelled lossy (records.flatMap TimerRecord.ids) d d₁ := by
  induction records generalizing d with
  | nil => exact ⟨d, rfl, (Logged.refl d).cancelled⟩
  | cons record rest ih =>
    obtain ⟨d₁, he, hd⟩ := discardAll_on hl record.ids hc
    obtain ⟨d₂, he₂, hd₂⟩ := ih (d := d₁) (hd.plans.cancels hc)
    refine ⟨d₂, ?_, hd.append hd₂⟩
    unfold discardRecords
    simp only [Act.on_bind, he, he₂, Act.on_pure]
    rfl

/-- As long as cancelling works, `clearAllTimers` succeeds, and takes all records away with their
    alarms. -/
theorem clearAllTimers_on (hl : h.Losing lossy) (hc : d.alarms.Cancels) :
    ∃ d₁, (clearAllTimers h).on d = (.ok (), d₁) ∧
      Cancelled lossy (d.timers.values.flatMap TimerRecord.ids) { d with timers := {} } d₁ := by
  obtain ⟨d₁, he, hd⟩ := discardRecords_on hl d.timers.values (d := { d with timers := {} }) hc
  refine ⟨d₁, ?_, hd⟩
  unfold clearAllTimers takeRecords
  simp only [Act.on_bind, Act.on_modifyGet, he, Act.on_pure, settle_none]

/-! ### Restarting -/

/-- Where the window has no next occurrences, `rearm` returns the fault and the record stays as it
    is. -/
theorem rearm_of_error {user : UserId} {record : TimerRecord} {f : Fault}
    (ho : record.window.occurrences d.zone d.clock = .error f) :
    (rearm h user record).on d = (.error f, d) := by
  unfold rearm triggers
  simp only [Act.on_bind, Act.on_get, Act.on_pure, ho]

/-- Where the window has its next occurrences, `rearm` is `refreshRecord` with them. -/
theorem rearm_of_ok {user : UserId} {record : TimerRecord} {t : Pair Moment}
    (ho : record.window.occurrences d.zone d.clock = .ok t) :
    (rearm h user record).on d = (refreshRecord h user record t).on d := by
  unfold rearm triggers
  simp only [Act.on_bind, Act.on_get, Act.on_pure, ho]

/-- Restarting a user's timers is arming a new pair for the record that there is. -/
theorem restartUser_of_some {user : UserId} {record : TimerRecord}
    (hr : d.timers.get? user = some record) :
    Logged ((rearm h user record).on d).2 ((restartUser h user).on d).2 := by
  unfold restartUser
  rw [Act.on_get_bind, hr]
  refine Act.logged_bind (fun result => ?_) d
  cases result with
  | ok _ => exact (Act.logs_debug _).bind fun _ => Act.logs_pure _
  | error f => exact Act.logs_pure _

/-- There is nothing to restart for a user without a record, so `restartUser` only logs. -/
theorem restartUser_of_none {user : UserId} (hr : d.timers.get? user = none) :
    Logged d ((restartUser h user).on d).2 := by
  unfold restartUser
  rw [Act.on_get_bind, hr]
  exact Act.logs_debug _ d

/-- Nobody replaces the record meanwhile, so its new pair is swapped in. The old alarms go last,
    which makes no difference because the new numbers are none of theirs. -/
theorem refreshRecord_on (hl : h.Losing lossy) (hc : d.alarms.Cancels) {user : UserId}
    {record : TimerRecord} (hr : d.timers.get? user = some record)
    (hold : ∀ i : Nat, i ∈ record.ids → i ≤ d.alarms.lastId) (triggers : Pair Moment) :
    ∃ ids, Rearmed lossy user { record with alarms := ids } triggers d
      ((refreshRecord h user record triggers).on d).2 := by
  have hd₁ := armPair_on hl triggers record.actions d
  unfold refreshRecord
  simp only [Act.on_bind]
  generalize (armPair h triggers record.actions).on d = armed at hd₁ ⊢
  obtain ⟨⟨ids, fault⟩, d₁⟩ := armed
  -- the record is still the one that was seen, so the new pair is swapped in
  have hlive : d₁.timers.get? user = some record := by rw [hd₁.timers, hr]
  obtain ⟨d₂, he, hd₂⟩ := discardAll_on hl record.ids (h := h)
    (d := { d₁ with timers := d₁.timers.insert user { record with alarms := ids } })
    (hd₁.plans.cancels hc)
  simp only [swapPair, Act.on_modifyGet, hlive, if_true, Option.isNone_some,
    Bool.false_eq_true, if_false, Option.getD_some]
  rw [show pairIds record.alarms = record.ids from rfl]
  simp only [Act.on_bind, he, Act.on_pure]
  have harmed : d.alarms.ArmsOnly record.actions.toList d₂.alarms := by
    intro i action hi
    rw [hd₂.armed] at hi
    exact hd₁.armed i action hi
  refine ⟨ids, ?_, ?_, hd₁.plans.trans hd₂.plans, hd₂.lastId ▸ hd₁.numbers, hd₁.full, harmed, ?_⟩
  · exact (hd₁.rescheduled.trans ⟨_, _, _, rfl⟩).trans hd₂.rescheduled
  · rw [hd₂.timers]
    show d₁.timers.insert user _ = _
    rw [hd₁.timers]
  · refine (hd₂.pending.trans (hd₁.pending.without record.ids)).trans (.of_eq fun i => ?_)
    have hids : d.idsOf user = record.ids := by simp [idsOf, hr]
    by_cases hi : i ∈ record.ids
    · have hnew := hd₁.numbers.pairAlarms_eq_none (hold i hi) triggers record.actions
      simp [Pending.without, Pending.adding, hids, hi, hnew]
    · simp [Pending.without, Pending.adding, hids, hi]

/-- All that restarting a record can do: without next occurrences nothing, otherwise the record
    gets a new pair for its window. -/
theorem rearm_cases (hl : h.Losing lossy) (hc : d.alarms.Cancels) {user : UserId}
    {record : TimerRecord} (hr : d.timers.get? user = some record)
    (hold : ∀ i : Nat, i ∈ record.ids → i ≤ d.alarms.lastId) :
    (∃ triggers ids, record.window.occurrences d.zone d.clock = .ok triggers ∧
        Rearmed lossy user { record with alarms := ids } triggers d
          ((rearm h user record).on d).2) ∨
      ((∃ f, record.window.occurrences d.zone d.clock = .error f) ∧
        ((rearm h user record).on d).2 = d) := by
  cases ho : record.window.occurrences d.zone d.clock with
  | error f => exact .inr ⟨⟨f, rfl⟩, by rw [rearm_of_error ho]⟩
  | ok t =>
    obtain ⟨ids, hd⟩ := refreshRecord_on hl hc hr hold t
    rw [← rearm_of_ok ho] at hd
    exact .inl ⟨t, ids, rfl, hd⟩

/-! ### Sound timers -/

/-- Every pending alarm is one of the record of the user it is for, and every record is sound. -/
structure SoundTimers (d : Daemon) : Prop where
  owned : ∀ i a, d.pending? i = some a →
    ∃ user r, d.timers.get? user = some r ∧ i ∈ r.ids ∧ a.action.user? = some user
  records : ∀ user r, d.timers.get? user = some r → r.SoundFor user d.alarms.lastId

namespace SoundTimers

variable {user : UserId} {record : TimerRecord} {triggers : Pair Moment}

/-- `SoundTimers` is kept where alarms go, or repeat, as long as no new ones come. -/
theorem of_pending (hs : SoundTimers d) (ht : d₁.timers = d.timers)
    (hlast : d₁.alarms.lastId = d.alarms.lastId)
    (hp : ∀ i a, d₁.pending? i = some a → ∃ b, d.pending? i = some b ∧ b.action = a.action) :
    SoundTimers d₁ where
  owned i a ha := by
    obtain ⟨b, hb, hab⟩ := hp i a ha
    obtain ⟨user, r, hr, hi, hu⟩ := hs.owned i b hb
    exact ⟨user, r, by rw [ht, hr], hi, by rw [← hab, hu]⟩
  records user r hr := hlast ▸ hs.records user r (ht ▸ hr)

/-- Only the records and the alarms count. -/
theorem congr (hs : SoundTimers d) (ht : d₁.timers = d.timers) (ha : d₁.alarms = d.alarms) :
    SoundTimers d₁ :=
  hs.of_pending ht (by rw [ha]) fun i a hp => ⟨a, by rwa [pending?, ← ha], rfl⟩

/-- What is pending apart from a user's alarms is owned by another user. -/
theorem owned_without (hs : SoundTimers d) {i : Nat} {a : Alarm AlarmAction}
    (ha : Pending.without d.pending? (d.idsOf user) i = some a) :
    ∃ other r, other ≠ user ∧ d.timers.get? other = some r ∧ i ∈ r.ids ∧
      a.action.user? = some other := by
  obtain ⟨hi, hold⟩ := Pending.without_eq_some.1 ha
  obtain ⟨other, r, hr, hi', hu⟩ := hs.owned i a hold
  refine ⟨other, r, ?_, hr, hi', hu⟩
  rintro rfl
  exact hi (mem_idsOf.2 ⟨r, hr, hi'⟩)

/-- `SoundTimers` is kept when a user is `Rearmed`, as long as the new record is for valid bounds
    and names the alarms that honour them. -/
theorem rearmed (hs : SoundTimers d) (hr : Rearmed lossy user record triggers d d₁)
    (ha : record.actions = (ScheduleRequest.mk user record.window).actions)
    (hv : record.window.valid = true) : SoundTimers d₁ where
  owned i a hp := by
    rw [hr.timers]
    rcases Option.or_eq_some_iff.1 (hr.pending.of_some hp) with hnew | ⟨_, hold⟩
    · -- one of the new pair, which is armed for `user`
      obtain ⟨hi, hact⟩ := pairAlarms_eq_some hnew
      refine ⟨user, record, Table.get?_insert_self _ _ _, hi, ?_⟩
      rcases hact with rfl | rfl <;>
        simp [Alarm.once, ha, ScheduleRequest.actions, AlarmAction.user?]
    · obtain ⟨other, r, hne, hr', hi, hu⟩ := hs.owned_without hold
      exact ⟨other, r, by rw [Table.get?_insert_of_ne _ hne, hr'], hi, hu⟩
  records := by
    rw [hr.timers]
    refine Table.forall_insert (P := fun user (r : TimerRecord) => r.SoundFor user d₁.alarms.lastId)
      ⟨ha, hv, fun i hi => (hr.numbers.fresh i hi).2⟩ fun other r hr' => ?_
    exact (hs.records other r hr').mono hr.numbers.le

/-- `SoundTimers` is kept when a user's timers are `Cleared`: the alarms that go are those of the
    record that goes. -/
theorem cleared (hs : SoundTimers d) (hc : Cleared lossy user d d₁) : SoundTimers d₁ where
  owned i a hp := by
    obtain ⟨other, r, hne, hr, hi, hu⟩ := hs.owned_without (hc.pending.of_some hp)
    exact ⟨other, r, by rw [hc.timers, Table.get?_erase_of_ne _ hne, hr], hi, hu⟩
  records := by
    rw [hc.timers, hc.lastId]
    exact Table.forall_erase
      (P := fun user (r : TimerRecord) => r.SoundFor user d.alarms.lastId) user hs.records

/-- Under `SoundTimers` no alarm is pending any more once those of all records were `Cancelled`. -/
theorem pending?_of_all_cancelled (hs : SoundTimers d)
    (hc : Cancelled lossy (d.timers.values.flatMap TimerRecord.ids) { d with timers := {} } d₁)
    (i : AlarmId) : d₁.pending? i = none := by
  cases hp : d₁.pending? i with
  | none => rfl
  | some a =>
    obtain ⟨hnot, hthen⟩ := Pending.without_eq_some.1 (hc.pending.of_some hp)
    obtain ⟨user, r, hr, hi, -⟩ := hs.owned i a hthen
    have hvalue : r ∈ d.timers.values :=
      List.mem_map.2 ⟨(user, r), d.timers.get?_eq_some_iff.1 hr, rfl⟩
    exact absurd (List.mem_flatMap.2 ⟨r, hvalue, hi⟩) hnot

/-- Alarms that are taken off the queue leave the timers sound. -/
theorem takeDue (hs : SoundTimers d) (z : Zone) (now : Moment) :
    SoundTimers { d with alarms := (d.alarms.takeDue z now).2 } :=
  hs.of_pending rfl rfl fun _ _ ha => AlarmService.action_of_pending?_takeDue ha

/-- `SoundTimers` is kept by alarms that get lost. -/
theorem losing (hs : SoundTimers d) (gone : AlarmId → Bool) :
    SoundTimers { d with alarms := d.alarms.losing gone } := by
  refine hs.of_pending rfl rfl fun i a ha => ?_
  exact ⟨a, AlarmService.pending?_of_losing ha, rfl⟩

/-- Delivering a status concerns neither records nor alarms, so `SoundTimers` is kept. -/
theorem delivered (hs : SoundTimers d) (hd : Delivered d d₁) : SoundTimers d₁ :=
  hs.congr hd.timers hd.alarms

end SoundTimers

/-! ### Restarting all -/

/-- `d₁` is `d` with other alarms for the same windows. -/
structure Restarted (d d₁ : Daemon) : Prop where
  rescheduled : Rescheduled d d₁
  plans : d.alarms.SamePlans d₁.alarms
  windows : ∀ user, (d₁.timers.get? user).map TimerRecord.window =
    (d.timers.get? user).map TimerRecord.window

namespace Restarted

theorem refl (d : Daemon) : Restarted d d := ⟨.refl d, .refl _, fun _ => rfl⟩

theorem trans (h₁ : Restarted d d₁) (h₂ : Restarted d₁ d₂) : Restarted d d₂ :=
  ⟨h₁.rescheduled.trans h₂.rescheduled, h₁.plans.trans h₂.plans,
    fun user => (h₂.windows user).trans (h₁.windows user)⟩

end Restarted

/-- Lines that are `Logged` leave all windows as they were. -/
theorem Logged.restarted (hd : Logged d d₁) : Restarted d d₁ := by
  obtain ⟨j, rfl⟩ := hd
  exact ⟨⟨_, _, j, rfl⟩, .refl _, fun _ => rfl⟩

/-- `rearm` of a user's record leaves the timers `Restarted` and sound, and touches nobody else's
    record. -/
theorem rearm_on (hl : h.Losing lossy) (hc : d.alarms.Cancels) (hs : SoundTimers d) {user : UserId}
    {record : TimerRecord} (hr : d.timers.get? user = some record) :
    Restarted d ((rearm h user record).on d).2 ∧ SoundTimers ((rearm h user record).on d).2 ∧
      ∀ other, other ≠ user →
        ((rearm h user record).on d).2.timers.get? other = d.timers.get? other := by
  have hrec := hs.records user record hr
  rcases rearm_cases hl hc hr hrec.issued with ⟨triggers, ids, _, hd⟩ | ⟨_, hd⟩
  · refine ⟨⟨hd.rescheduled, hd.plans, fun other => ?_⟩, hs.rearmed hd hrec.actions hrec.valid,
      fun other hne => ?_⟩
    · rw [hd.timers, Table.get?_insert]
      by_cases ho : other = user <;> simp [ho, hr]
    · rw [hd.timers, Table.get?_insert_of_ne _ hne]
  · rw [hd]
    exact ⟨.refl d, hs, fun _ _ => rfl⟩

/-- `rearmAll` rearms the first record and goes on with the others, and logs a warning at most
    between them. -/
theorem rearmAll_cons (user : UserId) (record : TimerRecord) (rest : List (UserId × TimerRecord))
    (d : Daemon) :
    ∃ d₁, Logged ((rearm h user record).on d).2 d₁ ∧
      ((rearmAll h ((user, record) :: rest)).on d).2 = ((rearmAll h rest).on d₁).2 := by
  rw [rearmAll]
  simp only [Act.on_bind]
  cases ((rearm h user record).on d).1 with
  | ok _ => exact ⟨_, .refl _, rfl⟩
  | error f => exact ⟨_, Act.logs_warn _ _, rfl⟩

/-- `rearmAll` of records as they stand, each of another user, leaves the timers `Restarted` and
    sound. By induction on the records. -/
theorem rearmAll_on (hl : h.Losing lossy) (records : List (UserId × TimerRecord))
    (hc : d.alarms.Cancels) (hs : SoundTimers d)
    (hr : ∀ p ∈ records, d.timers.get? p.1 = some p.2)
    (hne : records.Pairwise fun p q => p.1 ≠ q.1) :
    Restarted d ((rearmAll h records).on d).2 ∧ SoundTimers ((rearmAll h records).on d).2 := by
  -- the induction is on the records as they were seen before the first of them was restarted
  induction records generalizing d with
  | nil => exact ⟨.refl d, hs⟩
  | cons p rest ih =>
    obtain ⟨user, record⟩ := p
    obtain ⟨hfirst, hrest⟩ := List.pairwise_cons.1 hne
    obtain ⟨hd₁, hs₁, hothers⟩ := rearm_on hl hc hs (hr (user, record) (by simp))
    obtain ⟨d₂, hlog, he⟩ := rearmAll_cons (h := h) user record rest d
    have hd₂ := hd₁.trans hlog.restarted
    have htimers : d₂.timers = ((rearm h user record).on d).2.timers := by
      obtain ⟨_, rfl⟩ := hlog
      rfl
    rw [he]
    have hrest := ih (d := d₂) (hd₂.plans.cancels hc) (hs₁.delivered hlog.delivered)
      (fun q hq => ?_) hrest
    · exact ⟨hd₂.trans hrest.1, hrest.2⟩
    · -- the records further on still stand as they were seen
      rw [htimers, hothers q.1 (Ne.symm (hfirst q hq))]
      exact hr q (List.mem_cons_of_mem _ hq)

/-- What `restartAll` leaves is what `rearmAll` of all records leaves. -/
theorem restartAll_snd (d : Daemon) :
    ((restartAll h).on d).2 = ((rearmAll h d.timers.entries).on d).2 := by
  unfold restartAll
  rw [Act.on_get_bind]
  by_cases he : d.timers.entries.isEmpty = true
  · rw [if_pos he, List.isEmpty_iff.1 he]
    rfl
  · rw [if_neg he]
    simp only [Act.on_bind]
    cases ((rearmAll h d.timers.entries).on d).1 <;> rfl

/-- `restartAll` leaves the timers `Restarted` and sound. -/
theorem restartAll_on (hl : h.Losing lossy) (hc : d.alarms.Cancels) (hs : SoundTimers d) :
    Restarted d ((restartAll h).on d).2 ∧ SoundTimers ((restartAll h).on d).2 := by
  rw [restartAll_snd]
  exact rearmAll_on hl d.timers.entries hc hs (fun p hp => d.timers.get?_eq_some_iff.2 hp)
    (d.timers.sorted.imp Key.ne_of_before)

end Daemon

end Twilight
