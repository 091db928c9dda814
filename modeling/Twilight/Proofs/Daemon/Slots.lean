import Twilight.Proofs.Daemon.TimerRuns

namespace Twilight

/-!
# What is in the slots

A record is for a request: a window, and what the alarms for its bounds do. Operations on timers
leave a user's record as it is, or put one in of which every alarm is new and is what the record's
request has armed.

* `TimerRequest.Produces` — the alarm that a request has armed for a boundary at some moment.
* `Daemon.Onward` — numbers count up, and what is pending stays what it is until it goes.
* `Daemon.Renewed`, `Daemon.Touched` — a user's alarms are new; they are, or the record is as it
  was.
* `Daemon.Calm`, `calm_of_run` — while no cancelling fails, the alarms in the slots are what the
  records' requests have armed, after every run of operations.
-/

open Time

/-! ### Requests -/

/-- What timers are scheduled for. -/
structure TimerRequest where
  window : Window
  actions : Pair AlarmAction

/-- What a record was scheduled for. -/
def TimerRecord.request (r : TimerRecord) : TimerRequest := ⟨r.window, r.actions⟩

/-- The alarm that the request has armed for a boundary at `now`: it fires once, at the next
    occurrence of the bound. -/
def TimerRequest.Produces (q : TimerRequest) (z : Zone) (now : Moment) (boundary : Boundary)
    (a : Alarm AlarmAction) : Prop :=
  ∃ triggers, q.window.occurrences z now = .ok triggers ∧
    a = .once (triggers.get boundary) (q.actions.get boundary)

namespace Daemon

variable {lossy : Prop} {h : Hooks} {d d₁ d₂ : Daemon} {user : UserId}

/-- What a user's record is for. -/
def request? (d : Daemon) (user : UserId) : Option TimerRequest :=
  (d.timers.get? user).map TimerRecord.request

/-- The number at either boundary of a record is one of its numbers. -/
theorem mem_ids_of_get {r : TimerRecord} {boundary : Boundary} {i : AlarmId}
    (hi : r.alarms.get boundary = some i) : i ∈ r.ids := mem_ids_iff.2 ⟨boundary, hi⟩

/-- The alarm of a pair at a boundary, if it got a number of its own. -/
theorem pairAlarms_of_get {ids : Pair (Option AlarmId)} {last last₁ : Nat}
    (hn : NewNumbers ids last last₁) {boundary : Boundary} {i : AlarmId}
    (hi : ids.get boundary = some i) (triggers : Pair Moment) (actions : Pair AlarmAction) :
    pairAlarms ids triggers actions i =
      some (.once (triggers.get boundary) (actions.get boundary)) := by
  unfold pairAlarms
  cases boundary with
  | start => exact if_pos hi
  | finish =>
    have hs : ids.start ≠ some i := fun hs => hn.distinct i hs hi
    rw [if_neg hs]
    exact if_pos hi

/-! ### Going on -/

/-- `d₁` comes after `d` at the same time: numbers count up, and what is pending under an old number
    was so before. -/
structure Onward (d d₁ : Daemon) : Prop where
  zone : d₁.zone = d.zone
  clock : d₁.clock = d.clock
  plans : d.alarms.SamePlans d₁.alarms
  lastId : d.alarms.lastId ≤ d₁.alarms.lastId
  kept : ∀ i a, i ≤ d.alarms.lastId → d₁.pending? i = some a → d.pending? i = some a

namespace Onward

/-- A way `Onward` where nothing happens to the alarms, and no time passes. -/
theorem of_alarms (hz : d₁.zone = d.zone) (hclock : d₁.clock = d.clock)
    (ha : d₁.alarms = d.alarms) : Onward d d₁ := by
  refine ⟨hz, hclock, ?_, ?_, fun i a _ hi => ?_⟩
  · rw [ha]
    exact .refl _
  · exact Nat.le_of_eq (congrArg AlarmService.lastId ha.symm)
  · unfold pending? at hi ⊢
    rw [← ha, hi]

theorem refl (d : Daemon) : Onward d d := of_alarms rfl rfl rfl

theorem trans (h₁ : Onward d d₁) (h₂ : Onward d₁ d₂) : Onward d d₂ where
  zone := h₂.zone.trans h₁.zone
  clock := h₂.clock.trans h₁.clock
  plans := h₁.plans.trans h₂.plans
  lastId := Nat.le_trans h₁.lastId h₂.lastId
  kept i a hi ha := h₁.kept i a hi (h₂.kept i a (Nat.le_trans hi h₁.lastId) ha)

end Onward

/-- Lines that are `Logged` lead `Onward`, with the same alarms. -/
theorem Logged.onward (hj : Logged d d₁) : Onward d d₁ := by
  obtain ⟨j, rfl⟩ := hj
  exact .of_alarms rfl rfl rfl

/-- To have numbers `Cancelled` leads `Onward`, as less is pending under the old numbers then. -/
theorem Cancelled.onward {ids : List AlarmId} (hd : Cancelled lossy ids d d₁) : Onward d d₁ where
  zone := hd.rescheduled.zone
  clock := hd.rescheduled.clock
  plans := hd.plans
  lastId := Nat.le_of_eq hd.lastId.symm
  kept _ _ _ ha := (Pending.without_eq_some.1 (hd.pending.of_some ha)).2

/-! ### New alarms -/

/-- Every alarm of the user's record has a number behind `last`; while it is pending, it is what the
    record's request has armed now, or what one of the requests `also` has. -/
def Renewed (user : UserId) (last : Nat) (also : TimerRequest → Prop) (d : Daemon) : Prop :=
  ∀ r boundary (i : Nat), d.timers.get? user = some r → r.alarms.get boundary = some i →
    last < i ∧ i ≤ d.alarms.lastId ∧
      ∀ a, d.pending? i = some a →
        ∃ q, (q = r.request ∨ also q) ∧ q.Produces d.zone d.clock boundary a

namespace Renewed

variable {last last₁ : Nat} {also : TimerRequest → Prop}

/-- A user without a record is `Renewed`: they have no alarms that could be old. -/
theorem of_none (hr : d.timers.get? user = none) : Renewed user last also d := by
  intro r _ _ hr'
  rw [hr] at hr'
  contradiction

/-- A user who is `Renewed` stays so on a way `Onward`, as long as the record stays. -/
theorem onward (hd : Renewed user last also d) (ho : Onward d d₁)
    (hr : d₁.timers.get? user = d.timers.get? user) : Renewed user last also d₁ := by
  intro r boundary i hr₁ hi
  rw [hr] at hr₁
  obtain ⟨hlast, hle, harmed⟩ := hd r boundary i hr₁ hi
  refine ⟨hlast, Nat.le_trans hle ho.lastId, fun a ha => ?_⟩
  rw [ho.zone, ho.clock]
  exact harmed a (ho.kept i a hle ha)

/-- A user who is `Renewed` since some number is so since every earlier one, and with more requests
    allowed. -/
theorem mono (hd : Renewed user last₁ (fun _ => False) d) (hle : last ≤ last₁) :
    Renewed user last also d := by
  intro r boundary i hr hi
  obtain ⟨hlast, hissued, harmed⟩ := hd r boundary i hr hi
  refine ⟨Nat.lt_of_le_of_lt hle hlast, hissued, fun a ha => ?_⟩
  obtain ⟨q, hq, hproduces⟩ := harmed a ha
  exact ⟨q, .inl (hq.resolve_right id), hproduces⟩

end Renewed

/-- The user's record is as it was, or all of its alarms are new. -/
structure Touched (user : UserId) (d d₁ : Daemon) : Prop where
  onward : Onward d d₁
  record : d₁.timers.get? user = d.timers.get? user ∨
    Renewed user d.alarms.lastId (fun _ => False) d₁

namespace Touched

/-- With the same record there is nothing more to say. -/
theorem of_onward (ho : Onward d d₁) (ht : d₁.timers.get? user = d.timers.get? user) :
    Touched user d d₁ := ⟨ho, .inl ht⟩

theorem refl (d : Daemon) : Touched user d d := of_onward (.refl d) rfl

/-- Touching a record twice leaves it as it was, or with alarms that are new since the one or the
    other. -/
theorem trans (h₁ : Touched user d d₁) (h₂ : Touched user d₁ d₂) : Touched user d d₂ := by
  refine ⟨h₁.onward.trans h₂.onward, ?_⟩
  rcases h₂.record with hsame₂ | hnew₂
  · rcases h₁.record with hsame₁ | hnew₁
    · exact .inl (hsame₂.trans hsame₁)
    · exact .inr (hnew₁.onward h₂.onward hsame₂)
  · exact .inr (hnew₂.mono h₁.onward.lastId)

end Touched

/-- What is new stays so while the record is left alone or replaced. -/
theorem Renewed.touched {last : Nat} {also : TimerRequest → Prop} (hd : Renewed user last also d)
    (ht : Touched user d d₁) (hle : last ≤ d.alarms.lastId) : Renewed user last also d₁ := by
  rcases ht.record with hsame | hnew
  · exact hd.onward ht.onward hsame
  · exact hnew.mono hle

/-- Lines that are `Logged` leave every record untouched. -/
theorem Logged.touched (hj : Logged d d₁) : Touched user d d₁ := by
  refine .of_onward hj.onward ?_
  obtain ⟨j, rfl⟩ := hj
  rfl

/-- A user who was `Rearmed` has a record with new alarms, and nobody else's is `Touched`. -/
theorem Rearmed.touched {record : TimerRecord} {triggers : Pair Moment}
    (hd : Rearmed lossy user record triggers d d₁)
    (ho : record.window.occurrences d.zone d.clock = .ok triggers) (other : UserId) :
    Touched other d d₁ := by
  refine ⟨⟨hd.rescheduled.zone, hd.rescheduled.clock, hd.plans, hd.numbers.le,
    fun i a hi ha => ?_⟩, ?_⟩
  · -- an old number names none of the new alarms
    have hold := hd.pending.of_some ha
    unfold Pending.adding at hold
    rw [hd.numbers.pairAlarms_eq_none hi, Option.none_or] at hold
    exact (Pending.without_eq_some.1 hold).2
  · by_cases hu : other = user
    · -- the record is the new one, and both of its numbers are new
      subst hu
      refine .inr fun r boundary i hr hi => ?_
      rw [hd.timers, Table.get?_insert_self] at hr
      obtain rfl := Option.some.inj hr
      obtain ⟨hlast, hissued⟩ := hd.numbers.fresh i (mem_ids_of_get hi)
      refine ⟨hlast, hissued, fun a ha => ?_⟩
      have hnew := hd.pending.of_some ha
      unfold Pending.adding at hnew
      rw [pairAlarms_of_get hd.numbers hi, Option.some_or] at hnew
      rw [hd.rescheduled.zone, hd.rescheduled.clock]
      exact ⟨record.request, .inl rfl, triggers, ho, (Option.some.inj hnew).symm⟩
    · refine .inl ?_
      rw [hd.timers, Table.get?_insert_of_ne _ hu]

/-- A user whose timers were `Cleared` has no record, and nobody else's is `Touched`. -/
theorem Cleared.touched (hd : Cleared lossy user d d₁) (other : UserId) : Touched other d d₁ := by
  refine ⟨⟨hd.rescheduled.zone, hd.rescheduled.clock, hd.plans, Nat.le_of_eq hd.lastId.symm,
    fun _ _ _ ha => (Pending.without_eq_some.1 (hd.pending.of_some ha)).2⟩, ?_⟩
  by_cases hu : other = user
  · subst hu
    refine .inr (.of_none ?_)
    rw [hd.timers, Table.get?_erase_self]
  · refine .inl ?_
    rw [hd.timers, Table.get?_erase_of_ne _ hu]

/-! ### Operations one after the other -/

/-- Scheduling for one user gives them new alarms and leaves the records of all others, so
    everybody's record is at most `Touched`. -/
theorem schedule_touched (hl : h.Losing lossy) (hc : d.alarms.Cancels) (user : UserId)
    (window : Window) (actions : Pair AlarmAction) (other : UserId) :
    Touched other d ((schedule h user window actions).on d).2 := by
  rcases schedule_cases hl hc user window actions with
    ⟨_, triggers, ids, ho, hd⟩ | ⟨_, hlog⟩
  · exact hd.touched ho other
  · exact hlog.touched

/-- Clearing a user's timers takes their record and leaves those of all others. -/
theorem clearTimers_touched (hl : h.Losing lossy) (hc : d.alarms.Cancels) (user other : UserId) :
    Touched other d ((clearTimers h user).on d).2 := by
  obtain ⟨d₁, he, hd⟩ := clearTimers_cleared hl hc user
  rw [he]
  exact hd.touched other

/-- Cancelling the alarms of records by `discardRecords` leads onward and touches no record itself.
    -/
theorem discardRecords_onward (hl : h.Losing lossy) (records : List TimerRecord)
    (hc : d.alarms.Cancels) :
    Onward d ((discardRecords h records).on d).2 ∧
      ((discardRecords h records).on d).2.timers = d.timers := by
  induction records generalizing d with
  | nil => exact ⟨.refl d, rfl⟩
  | cons record rest ih =>
    obtain ⟨d₁, he, hd⟩ := discardAll_on hl record.ids hc
    unfold discardRecords
    simp only [Act.on_bind, he]
    obtain ⟨honward, htimers⟩ := ih (hd.plans.cancels hc)
    exact ⟨hd.onward.trans honward, htimers.trans hd.timers⟩

/-- `clearAllTimers` leaves no record that could have old alarms. -/
theorem clearAllTimers_touched (hl : h.Losing lossy) (hc : d.alarms.Cancels) (other : UserId) :
    Touched other d ((clearAllTimers h).on d).2 := by
  obtain ⟨honward, htimers⟩ :=
    discardRecords_onward hl d.timers.values (d := { d with timers := {} }) hc
  have htaken : Onward d { d with timers := {} } := .of_alarms rfl rfl rfl
  refine ⟨htaken.trans honward, .inr (.of_none ?_)⟩
  have hempty : ((clearAllTimers h).on d).2.timers = {} := htimers
  rw [hempty]
  rfl

/-- Restarting a record that still stands as it was seen touches nobody else's. -/
theorem rearm_touched (hl : h.Losing lossy) (hc : d.alarms.Cancels) {record : TimerRecord}
    (hr : d.timers.get? user = some record)
    (hold : ∀ i : Nat, i ∈ record.ids → i ≤ d.alarms.lastId) :
    (∀ other, Touched other d ((rearm h user record).on d).2) ∧
      ∀ other, other ≠ user →
        ((rearm h user record).on d).2.timers.get? other = d.timers.get? other := by
  rcases rearm_cases hl hc hr hold with ⟨triggers, ids, ho, hd⟩ | ⟨_, hd⟩
  · refine ⟨hd.touched ho, fun other hne => ?_⟩
    rw [hd.timers, Table.get?_insert_of_ne _ hne]
  · rw [hd]
    exact ⟨fun _ => .refl d, fun _ _ => rfl⟩

/-- Arming records again leaves each of them as it was or with new alarms, by induction over the
    records. -/
theorem rearmAll_touched (hl : h.Losing lossy) (records : List (UserId × TimerRecord))
    (hc : d.alarms.Cancels) (hr : ∀ p ∈ records, d.timers.get? p.1 = some p.2)
    (hold : ∀ p ∈ records, ∀ i : Nat, i ∈ p.2.ids → i ≤ d.alarms.lastId)
    (hne : records.Pairwise fun p q => p.1 ≠ q.1) (other : UserId) :
    Touched other d ((rearmAll h records).on d).2 := by
  -- the induction is on the records as they were seen before the first of them was restarted
  induction records generalizing d with
  | nil => exact .refl d
  | cons p rest ih =>
    obtain ⟨user, record⟩ := p
    obtain ⟨hfirst, hrest⟩ := List.pairwise_cons.1 hne
    obtain ⟨htouched, hothers⟩ := rearm_touched hl hc (hr (user, record) (by simp))
      (hold (user, record) (by simp))
    obtain ⟨d₂, hlog, he⟩ := rearmAll_cons (h := h) user record rest d
    have hd₂ : ∀ v, Touched v d d₂ := fun v => (htouched v).trans hlog.touched
    have htimers : d₂.timers = ((rearm h user record).on d).2.timers := by
      obtain ⟨_, rfl⟩ := hlog
      rfl
    rw [he]
    refine (hd₂ other).trans (ih ((hd₂ other).onward.plans.cancels hc) (fun q hq => ?_)
      (fun q hq i hi => ?_) hrest)
    · -- the records further on still stand as they were seen
      rw [htimers, hothers q.1 (Ne.symm (hfirst q hq))]
      exact hr q (List.mem_cons_of_mem _ hq)
    · exact Nat.le_trans (hold q (List.mem_cons_of_mem _ hq) i hi) (hd₂ other).onward.lastId

/-! ### Runs -/

/-- No call to cancel fails or ever failed. What a record names was given out and, while it is
    pending, is what the record's request had armed at some time. -/
structure Calm (d : Daemon) : Prop where
  cancels : d.alarms.Cancels
  rejected : d.alarms.rejected = []
  slots : ∀ user r boundary (i : Nat), d.timers.get? user = some r →
    r.alarms.get boundary = some i →
    i ≤ d.alarms.lastId ∧
      ∀ a, d.pending? i = some a → ∃ now, r.request.Produces d.zone now boundary a

namespace Calm

/-- The numbers of records in a `Calm` daemon were given out. -/
theorem issued (hd : Calm d) {r : TimerRecord} (hr : d.timers.get? user = some r) {i : Nat}
    (hi : i ∈ r.ids) : i ≤ d.alarms.lastId := by
  obtain ⟨boundary, hget⟩ := mem_ids_iff.1 hi
  exact (hd.slots user r boundary i hr hget).1

/-- A daemon stays `Calm` where all records are at most `Touched` and no call to cancel failed. -/
theorem touched (hd : Calm d) (ht : ∀ user, Touched user d d₁)
    (hrej : d₁.alarms.rejected = d.alarms.rejected) : Calm d₁ := by
  refine ⟨(ht noUser).onward.plans.cancels hd.cancels, hrej.trans hd.rejected,
    fun user r boundary i hr hi => ?_⟩
  rcases (ht user).record with hsame | hnew
  · rw [hsame] at hr
    obtain ⟨hissued, harmed⟩ := hd.slots user r boundary i hr hi
    refine ⟨Nat.le_trans hissued (ht user).onward.lastId, fun a ha => ?_⟩
    rw [(ht user).onward.zone]
    exact harmed a ((ht user).onward.kept i a hissued ha)
  · obtain ⟨_, hissued, harmed⟩ := hnew r boundary i hr hi
    refine ⟨hissued, fun a ha => ?_⟩
    obtain ⟨q, hq, hproduces⟩ := harmed a ha
    obtain rfl := hq.resolve_right id
    exact ⟨d₁.clock, hproduces⟩

/-- Alarms may go and time may pass, and what repeats may move on: it sits in no slot. -/
theorem of_pending (hd : Calm d) (hz : d₁.zone = d.zone) (ht : d₁.timers = d.timers)
    (hplan : d₁.alarms.cancelFails = d.alarms.cancelFails)
    (hrej : d₁.alarms.rejected = d.alarms.rejected)
    (hlast : d₁.alarms.lastId = d.alarms.lastId)
    (hp : ∀ i a, d₁.pending? i = some a →
      d.pending? i = some a ∨ ∃ b, d.pending? i = some b ∧ b.interval ≠ none) : Calm d₁ := by
  refine ⟨fun call => ?_, hrej.trans hd.rejected, fun user r boundary i hr hi => ?_⟩
  · rw [hplan]
    exact hd.cancels call
  · rw [ht] at hr
    obtain ⟨hissued, harmed⟩ := hd.slots user r boundary i hr hi
    refine ⟨hlast ▸ hissued, fun a ha => ?_⟩
    rw [hz]
    rcases hp i a ha with hsame | ⟨b, hb, hrepeats⟩
    · exact harmed a hsame
    · obtain ⟨_, _, _, rfl⟩ := harmed b hb
      exact absurd rfl hrepeats

/-- A daemon stays `Calm` when alarms are taken out because they are due. -/
theorem takeDue (hd : Calm d) (z : Zone) (now : Moment) :
    Calm { d with alarms := (d.alarms.takeDue z now).2 } := by
  refine hd.of_pending rfl rfl rfl rfl rfl fun i a ha => ?_
  have hleft : (d.alarms.takeDue z now).2.pending? i = some a := ha
  rw [AlarmService.pending?_takeDue] at hleft
  obtain ⟨b, hb, hnext⟩ := Option.bind_eq_some_iff.1 hleft
  split at hnext
  · -- only what repeats is pending again
    refine .inr ⟨b, hb, fun hnone => ?_⟩
    rw [Alarm.next?, hnone] at hnext
    contradiction
  · exact .inl (hnext ▸ hb)

/-- It stays so when pending alarms get lost. -/
theorem losing (hd : Calm d) (gone : AlarmId → Bool) :
    Calm { d with alarms := d.alarms.losing gone } :=
  hd.of_pending rfl rfl rfl rfl rfl fun _ _ ha => .inl (AlarmService.pending?_of_losing ha)

/-- `restartAll` of a `Calm` daemon has every record either as it was, or with new alarms for the
    same request. -/
theorem restartAll_touched (hd : Calm d) (hl : h.Losing lossy) (other : UserId) :
    Touched other d ((restartAll h).on d).2 := by
  rw [restartAll_snd]
  refine rearmAll_touched hl d.timers.entries hd.cancels
    (fun p hp => d.timers.get?_eq_some_iff.2 hp)
    (fun p hp i hi => hd.issued (d.timers.get?_eq_some_iff.2 hp) hi)
    (d.timers.sorted.imp Key.ne_of_before) other

/-- Restarting, of one user or of everybody, leaves each record as it was or with new alarms. -/
theorem restart_touched (hd : Calm d) (hl : h.Losing lossy) (other : UserId) :
    Touched other d ((restart h user).on d).2 := by
  unfold restart
  by_cases hu : user = noUser
  · rw [if_pos hu]
    exact hd.restartAll_touched hl other
  · rw [if_neg hu]
    cases hr : d.timers.get? user with
    | none => exact (restartUser_of_none hr).touched
    | some record =>
      have hrearmed := (rearm_touched hl hd.cancels hr fun i hi => hd.issued hr hi).1 other
      exact hrearmed.trans (restartUser_of_some hr).touched

/-- Every operation on the timers keeps the daemon `Calm`. The cases are those of `TimerOperation`.
    -/
theorem perform (hd : Calm d) (op : TimerOperation) : Calm ((op.perform .quiet).on d).2 := by
  have hl := Hooks.quiet_losing False
  have hrej := (op.perform_reports d).rejected_eq hd.cancels
  cases op with
  | schedule user window actions =>
    exact hd.touched (schedule_touched hl hd.cancels user window actions) hrej
  | clear user => exact hd.touched (clearTimers_touched hl hd.cancels user) hrej
  | clearAll => exact hd.touched (clearAllTimers_touched hl hd.cancels) hrej
  | restart user => exact hd.touched (hd.restart_touched hl) hrej
  | restartAll => exact hd.touched (hd.restartAll_touched hl) hrej
  | setClock nanos => exact hd.of_pending rfl rfl rfl rfl rfl fun _ _ ha => .inl ha
  | takeDue => exact hd.takeDue d.zone d.clock
  | lose gone => exact hd.losing gone

end Calm

/-- An `Untimed` daemon is `Calm` where cancelling works, as there is nothing in any slot. -/
theorem Untimed.calm (hd : d.Untimed) (hc : d.alarms.Cancels) : Calm d := by
  refine ⟨hc, hd.rejected, fun user r boundary i hr => ?_⟩
  rw [hd.timers] at hr
  contradiction

/-- From a `Calm` daemon every run of operations on timers leads to one, by induction over the run.
    -/
theorem calm_of_run (hd : Calm d) (ops : List TimerOperation) :
    Calm ((runTimers .quiet ops).on d).2 := by
  induction ops generalizing d with
  | nil => exact hd
  | cons op rest ih => exact ih (hd.perform op)

end Daemon

end Twilight
