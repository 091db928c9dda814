import Twilight.Proofs.Coupling
import Twilight.Proofs.Daemon.Course

namespace Twilight

/-!
# Stale firings have no effect

An alarm carries the request that it was armed for, and may fire when that is long outdated: after
other settings, other users and other alarms.

* `Daemon.Live` — the request is the one that the active user's state asks for now.
* `Daemon.Requested` — every alarm ever armed has a request with a valid window honoured.
* `Daemon.Apart` — no alarm is named by the records of two users.
* `Daemon.Fires`, `Daemon.fires_of_run` — a live request is honoured exactly once, any other one
  not at all.
-/

open Time

namespace Daemon

variable {lossy : Prop} {h : Hooks} {d d₁ : Daemon} {user : UserId}

/-! ### What is armed -/

/-- Every alarm ever armed has a request honoured whose window is valid. -/
def Requested (d : Daemon) : Prop :=
  ∀ id action, d.alarms.armed.get? id = some action →
    ∃ request boundary, action = .boundary request boundary ∧ request.window.valid = true

/-- `Requested` is about the alarms ever armed alone, so it is kept where these are the same. -/
theorem Requested.of_same (hq : Requested d) (ha : d₁.alarms.armed = d.alarms.armed) :
    Requested d₁ := by
  intro id action hid
  rw [ha] at hid
  exact hq id action hid

/-- Every change to the timers keeps `Requested`: only windows that were checked have alarms armed.
    -/
theorem Requested.change (hq : Requested d) (ht : TimerChange lossy d d₁) : Requested d₁ := by
  cases ht with
  | unchanged _ alarms => exact hq.of_same (by rw [alarms])
  | cleared _ cleared => exact hq.of_same cleared.armed
  | taken _ _ _ alarms => exact hq.of_same (by rw [alarms]; rfl)
  | lost _ _ alarms => exact hq.of_same (by rw [alarms]; rfl)
  | rearmed user record triggers actions valid rearmed =>
    intro id action hid
    rcases rearmed.armed id action hid with hnew | hold
    · -- one of the two alarms for the record's window
      rw [actions] at hnew
      have hpair : action = .boundary ⟨user, record.window⟩ .start ∨
          action = .boundary ⟨user, record.window⟩ .finish := by
        simpa [Pair.toList, ScheduleRequest.actions] using hnew
      rcases hpair with rfl | rfl
      · exact ⟨_, .start, rfl, valid⟩
      · exact ⟨_, .finish, rfl, valid⟩
    · exact hq id action hold

/-! ### Whose alarms they are -/

/-- No alarm is named by the records of two users. -/
def Apart (d : Daemon) : Prop :=
  ∀ user other, user ≠ other → ∀ i : Nat, i ∈ d.idsOf user → i ∉ d.idsOf other

/-- Under `SoundTimers`, every number in a record was given out. -/
theorem SoundTimers.le_of_mem_idsOf (hs : SoundTimers d) {i : Nat} (hi : i ∈ d.idsOf user) :
    i ≤ d.alarms.lastId := by
  obtain ⟨r, hr, hmem⟩ := mem_idsOf.1 hi
  exact (hs.records user r hr).issued i hmem

/-- Only the records count. -/
theorem Apart.of_idsOf (ha : Apart d)
    (hids : ∀ user, ∀ i : Nat, i ∈ d₁.idsOf user → i ∈ d.idsOf user) : Apart d₁ :=
  fun user other hne i hi hj => ha user other hne i (hids user i hi) (hids other i hj)

/-- Every change to the timers keeps records `Apart`, since the alarms of a new record have numbers
    that nobody had before. -/
theorem Apart.change (ha : Apart d) (hs : SoundTimers d) (ht : TimerChange lossy d d₁) :
    Apart d₁ := by
  cases ht with
  | unchanged timers _ => exact ha.of_idsOf fun user i hi => by unfold idsOf at *; rwa [← timers]
  | taken _ _ timers _ => exact ha.of_idsOf fun user i hi => by unfold idsOf at *; rwa [← timers]
  | lost _ timers _ => exact ha.of_idsOf fun user i hi => by unfold idsOf at *; rwa [← timers]
  | cleared user cleared =>
    refine ha.of_idsOf fun other i hi => ?_
    obtain ⟨r, hr, hmem⟩ := mem_idsOf.1 hi
    rw [cleared.timers, Table.get?_erase] at hr
    split at hr
    · contradiction
    · exact mem_idsOf.2 ⟨r, hr, hmem⟩
  | rearmed user record triggers actions valid rearmed =>
    -- the numbers of the new record are new, those of the other records are not
    have hids : ∀ other, ∀ i : Nat, i ∈ d₁.idsOf other →
        (other = user ∧ d.alarms.lastId < i) ∨ (other ≠ user ∧ i ∈ d.idsOf other) := by
      intro other i hi
      obtain ⟨r, hr, hmem⟩ := mem_idsOf.1 hi
      rw [rearmed.timers, Table.get?_insert] at hr
      split at hr
      · rename_i heq
        obtain rfl := Option.some.inj hr
        exact .inl ⟨heq, (rearmed.numbers.fresh i hmem).1⟩
      · rename_i hne
        exact .inr ⟨hne, mem_idsOf.2 ⟨r, hr, hmem⟩⟩
    intro first second hne i hi hj
    rcases hids first i hi with ⟨hf, hnew⟩ | ⟨hf, hold⟩
    · rcases hids second i hj with ⟨hs', _⟩ | ⟨_, hold'⟩
      · exact hne (hf.trans hs'.symm)
      · have hle := hs.le_of_mem_idsOf hold'
        omega
    · rcases hids second i hj with ⟨_, hnew'⟩ | ⟨_, hold'⟩
      · have hle := hs.le_of_mem_idsOf hold
        omega
      · exact ha first second hne i hold hold'

/-- Whether an alarm has a given request honoured can be decided, though not what scripts do. -/
instance (action? : Option AlarmAction) (request : ScheduleRequest) (boundary : Boundary) :
    Decidable (action? = some (.boundary request boundary)) :=
  match action? with
  | none => isFalse nofun
  | some (.script _ _ _) => isFalse nofun
  | some (.boundary request' boundary') =>
    decidable_of_iff (request' = request ∧ boundary' = boundary) (by simp)

/-! ### Live requests -/

/-- The active user's state is a window with exactly the bounds of the request. -/
def Live (d : Daemon) (request : ScheduleRequest) : Prop :=
  request.user = d.manager.active ∧
    d.manager.states.get? request.user = some ⟨.customWindow, request.window⟩

instance (d : Daemon) (request : ScheduleRequest) : Decidable (d.Live request) :=
  inferInstanceAs (Decidable (_ ∧ _))

/-- A request that is `Live` is the `liveRequest?` of its user. -/
theorem Live.liveRequest? {request : ScheduleRequest} (hlive : d.Live request) :
    d.liveRequest? request.user = some request := by
  unfold Daemon.liveRequest?
  rw [hlive.2]
  rfl

/-- `d₁` is `d` after a request was honoured: a new pair of alarms for the next occurrences of its
    bounds in the place of the user's old one, and the status of its window handed over once. -/
structure Honoured (request : ScheduleRequest) (d d₁ : Daemon) : Prop where
  pair : ∃ (i j : Nat) (triggers : Pair Moment),
    d.alarms.lastId < i ∧ d.alarms.lastId < j ∧ i ≠ j ∧
    request.window.occurrences d.zone d.clock = .ok triggers ∧
    d₁.timers = d.timers.insert request.user ⟨⟨some i, some j⟩, request.window, request.actions⟩ ∧
    (d₁.alarmsOf request.user).Perm
      [(i, .once triggers.start (.boundary request .start)),
        (j, .once triggers.finish (.boundary request .finish))]
  others : ∀ i a, a.action.user? ≠ some request.user →
    (d₁.pending? i = some a ↔ d.pending? i = some a)
  updates : d₁.updates = (request.window.containsMoment d.clock, request.user) :: d.updates
  lastStatus : d₁.manager.lastStatus =
    d.manager.lastStatus.insert request.user (request.window.containsMoment d.clock)
  states : d₁.manager.states = d.manager.states

/-- `d₁` is `d` after an alarm for a request fired. -/
structure Fires (request : ScheduleRequest) (d d₁ : Daemon) : Prop where
  honoured : d.Live request → Honoured request d d₁
  /-- But for log lines nothing changes. -/
  discarded : ¬ d.Live request → Logged d d₁

/-! ### Firings -/

/-- The alarms of a user whose pair was exchanged are those of the new pair. -/
theorem SoundTimers.alarmsOf_rearmed (hs : SoundTimers d) {request : ScheduleRequest} {i j : Nat}
    (hne : i ≠ j) {triggers : Pair Moment}
    (hr : Rearmed False request.user ⟨⟨some i, some j⟩, request.window, request.actions⟩ triggers
      d d₁) :
    (d₁.alarmsOf request.user).Perm
      [(i, .once triggers.start (.boundary request .start)),
        (j, .once triggers.finish (.boundary request .finish))] := by
  have hsorted := d₁.alarms.queue.pending.sorted.filter fun p =>
    p.2.action.user? = some request.user
  -- alarms are listed by their numbers, so none is listed twice
  have hnodup : (d₁.alarmsOf request.user).Nodup := hsorted.imp fun hbefore heq =>
    Key.ne_of_before hbefore (congrArg Prod.fst heq)
  refine (List.perm_ext_iff_of_nodup hnodup (by simp [hne])).2 ?_
  rintro ⟨k, a⟩
  have hk := hr.pending.eq k
  rw [mem_alarmsOf, hk]
  unfold Pending.adding
  rw [Option.or_eq_some_iff, pairAlarms_full hne]
  simp only [List.mem_cons, Prod.mk.injEq, List.not_mem_nil, or_false]
  constructor
  · rintro ⟨hnew | ⟨_, hold⟩, huser⟩
    · exact hnew
    · -- what stays of the old alarms is for other users
      obtain ⟨other, _, hother, _, _, hfor⟩ := hs.owned_without hold
      exact absurd (Option.some.inj (hfor.symm.trans huser)) hother
  · rintro (⟨rfl, rfl⟩ | ⟨rfl, rfl⟩)
    · exact ⟨.inl (.inl ⟨rfl, rfl⟩), rfl⟩
    · exact ⟨.inl (.inr ⟨rfl, rfl⟩), rfl⟩

/-- The alarms for others stay as they are when a user's pair is exchanged. -/
theorem SoundTimers.others_rearmed (hs : SoundTimers d) (ha : Apart d)
    {request : ScheduleRequest} {ids : Pair (Option AlarmId)} {triggers : Pair Moment}
    (hr : Rearmed False request.user ⟨ids, request.window, request.actions⟩ triggers d d₁)
    {i : Nat} {a : Alarm AlarmAction} (hfor : a.action.user? ≠ some request.user) :
    d₁.pending? i = some a ↔ d.pending? i = some a := by
  rw [hr.pending.eq i]
  unfold Pending.adding
  rw [Option.or_eq_some_iff]
  constructor
  · rintro (hnew | ⟨_, hold⟩)
    · -- the new alarms are for the user of the request
      rcases (pairAlarms_eq_some hnew).2 with rfl | rfl <;> exact absurd rfl hfor
    · exact (Pending.without_eq_some.1 hold).2
  · intro hold
    obtain ⟨other, r, hrec, hi, huser⟩ := hs.owned i a hold
    have hne : other ≠ request.user := by
      rintro rfl
      exact hfor huser
    have hmine : i ∈ d.idsOf other := mem_idsOf.2 ⟨r, hrec, hi⟩
    have hlast : i ≤ d.alarms.lastId := hs.le_of_mem_idsOf hmine
    refine .inr ⟨hr.numbers.pairAlarms_eq_none hlast triggers request.actions, ?_⟩
    exact Pending.without_eq_some.2 ⟨ha other request.user hne i hmine, hold⟩

/-- Under `Coupling`, a request that is `Live` and whose window was `Settled` is `Honoured`: the old
    pair is the one that goes, and the status is reported once. -/
theorem Coupling.honoured (hc : Coupling d) (ha : Apart d) (harms : d.alarms.Arms)
    {request : ScheduleRequest} (hv : request.window.valid = true) (hlive : d.Live request)
    {r : Receiver} (hrec : d.manager.receiver = some r) (hrep : r.reports = true)
    (hset : Settled False request.user ⟨.customWindow, request.window⟩ .always d d₁) :
    Honoured request d d₁ := by
  have hw : (DarkModeState.mk .customWindow request.window).window? = some request.window :=
    DarkModeState.window?_eq_some.2 ⟨rfl, rfl, hv⟩
  obtain ⟨d₀, hr, hn⟩ := hset
  rw [withState_of_get? hlive.2] at hr
  rw [DarkModeState.status?_of_window? hw] at hn
  cases hr with
  | unset mode _ => contradiction
  | cleared _ window _ =>
    rw [hw] at window
    contradiction
  | stuck w f window occurrences _ =>
    -- in this zone the window has next occurrences
    obtain rfl := Option.some.inj (hw.symm.trans window)
    obtain ⟨nanos, hnow⟩ := hc.clock
    obtain ⟨triggers, ho⟩ := hc.answers.occurrences hv nanos
    rw [hnow, ho] at occurrences
    contradiction
  | armed w triggers ids window occurrences rearmed =>
    obtain rfl := Option.some.inj (hw.symm.trans window)
    -- no arming fails, so both alarms have a number
    obtain ⟨hstart, hfinish⟩ := rearmed.full harms
    obtain ⟨i, hi⟩ := Option.isSome_iff_exists.1 hstart
    obtain ⟨j, hj⟩ := Option.isSome_iff_exists.1 hfinish
    obtain rfl : ids = ⟨some i, some j⟩ := by
      rw [← hi, ← hj]
    have hne : i ≠ j := by
      rintro rfl
      exact rearmed.numbers.distinct i rfl rfl
    have hilast := (rearmed.numbers.fresh i (mem_pairIds.2 (.inl rfl))).1
    have hjlast := (rearmed.numbers.fresh j (mem_pairIds.2 (.inr rfl))).1
    -- the status is handed over whatever was sent before
    have hn : Notified (request.window.containsMoment d.clock) request.user .always d₀ d₁ := hn
    cases hn with
    | silent passes _ => exact absurd (.inl rfl) passes
    | told _ told =>
      have hdel := told.delivered
      have hmanager := rearmed.rescheduled.manager
      have halarms : d₁.alarmsOf request.user = d₀.alarmsOf request.user := by
        unfold alarmsOf
        rw [hdel.alarms]
      refine ⟨⟨i, j, triggers, hilast, hjlast, hne, occurrences, ?_, ?_⟩, ?_, ?_, ?_, ?_⟩
      · rw [hdel.timers, rearmed.timers]
      · rw [halarms]
        exact hc.sound.alarmsOf_rearmed hne rearmed
      · intro k a hfor
        unfold pending?
        rw [hdel.alarms]
        exact hc.sound.others_rearmed ha rearmed hfor
      · rw [told.reported r (by rw [hmanager, hrec]) hrep, rearmed.rescheduled.updates]
      · rw [told.lastStatus, hmanager]
      · rw [hdel.states, hmanager]

/-- Under `Coupling`, an alarm `Fires` its request: whether it is honoured or discarded is decided
    by whether it is `Live`. -/
theorem Coupling.fires (hc : Coupling d) (ha : Apart d) (harms : d.alarms.Arms)
    {request : ScheduleRequest} (hv : request.window.valid = true) {r : Receiver}
    (hrec : d.manager.receiver = some r) (hrep : r.reports = true) (boundary : Boundary) :
    Fires request d ((Daemon.fire .quiet (.boundary request boundary)).on d).2 := by
  have hfired := fireBoundary_on (Hooks.quiet_losing False) hc.cancels request boundary
  show Fires request d ((fireBoundary .quiet request boundary).on d).2
  -- a firing is honoured exactly if its request is live
  cases hfired with
  | ignored reason logged =>
    refine ⟨fun hlive => ?_, fun _ => logged⟩
    rcases reason with hactive | hrequest
    · exact absurd hlive.1 hactive
    · exact absurd hlive.liveRequest? hrequest
  | outOfRange _ valid _ =>
    rw [hv] at valid
    contradiction
  | honoured state active live window settled =>
    obtain ⟨hmode, hwindow, _⟩ := DarkModeState.window?_eq_some.1 window
    obtain rfl : state = ⟨.customWindow, request.window⟩ := by
      rw [← hmode, ← hwindow]
    have hlive : d.Live request := ⟨active, live⟩
    exact ⟨fun _ => hc.honoured ha harms hv hlive hrec hrep settled, fun hnot =>
      absurd hlive hnot⟩

/-! ### Runs -/

/-- On a `Fresh` daemon there are no records that could not be `Apart`. -/
theorem Fresh.apart (hd : Fresh d) : Apart d := by
  intro user other _ i hi
  obtain ⟨r, hr, _⟩ := mem_idsOf.1 hi
  rw [hd.timers] at hr
  contradiction

/-- After any operations every alarm that was ever armed has a request for a valid window honoured.
    -/
theorem requested_of_run (hl : h.Losing lossy) (hd : Fresh d) (hnone : d.alarms.armed = {})
    (hc : d.alarms.Cancels) (ops : List Operation) : Requested ((runAll h ops).on d).2 := by
  have hco := runAll_course hl ops hc hd.soundTimers
  refine hco.preserves (fun _ _ ht hq => hq.change ht) fun id action hid => ?_
  rw [hnone] at hid
  contradiction

/-- After any operations the records of two users are `Apart`. -/
theorem apart_of_run (hl : h.Losing lossy) (hd : Fresh d) (hc : d.alarms.Cancels)
    (ops : List Operation) : Apart ((runAll h ops).on d).2 := by
  have hco := runAll_course hl ops hc hd.soundTimers
  have hboth := hco.preserves (P := fun d => SoundTimers d ∧ Apart d)
    (fun _ _ ht hp => ⟨ht.soundTimers hp.1, hp.2.change hp.1 ht⟩) ⟨hd.soundTimers, hd.apart⟩
  exact hboth.2

/-- **A firing is honoured exactly if it is not stale.** Take a zone where every minute occurs
    again, and a daemon in which nothing that is armed or cancelled fails. However long ago an alarm
    was armed, and whatever happened since: if its request is live when it fires, the user's pair is
    exchanged for one at the next occurrences and the status is reported exactly once; otherwise
    nothing changes. -/
theorem fires_of_run (hl : h.Losing True) (hd : Fresh d) (hnone : d.alarms.armed = {})
    (hz : d.zone.Answers) (hclock : ∃ nanos, d.clock = .ofNanos d.zone nanos)
    (harms : d.alarms.Arms) (hc : d.alarms.Cancels) (before later : List Operation)
    {request : ScheduleRequest} {boundary : Boundary}
    (harmed : ∃ i, ((runAll h before).on d).2.alarms.armed.get? i =
      some (.boundary request boundary))
    (hrun : ((runAll h (before ++ later)).on d).2 = d₁) {r : Receiver}
    (hrec : d₁.manager.receiver = some r) (hrep : r.reports = true) :
    Fires request d₁ ((fire .quiet (.boundary request boundary)).on d₁).2 := by
  obtain ⟨i, hi⟩ := harmed
  obtain ⟨_, _, haction, hvalid⟩ := requested_of_run hl hd hnone hc before i _ hi
  obtain ⟨rfl, -⟩ := AlarmAction.boundary.inj haction
  have hcoupling : Coupling ((runAll h (before ++ later)).on d).2 :=
    runAll_induction (fun _ => True) (fun op _ _ hd => hd.perform hl op) _ (fun _ _ => trivial)
      (hd.coupling hz hclock hc)
  have hapart := apart_of_run hl hd hc (before ++ later)
  have hplans := (runAll_course hl (before ++ later) hc hd.soundTimers).plans
  have hstill := hplans.arms harms
  rw [hrun] at hcoupling hapart hstill
  exact hcoupling.fires hapart hstill hvalid hrec hrep boundary

/-- After the window was moved from 20:00 to 21:00, the alarm for 20:00 does nothing; that for 21:00
    is honoured. -/
theorem fires_of_moved :
    Logged ((runAll .quiet (nightUser 100 ++ [.put StateKey.start.name "1260" 100])).on
        (default : Daemon)).2
      ((fire .quiet (.boundary ⟨100, ⟨1200, 360⟩⟩ .start)).on
        ((runAll .quiet (nightUser 100 ++ [.put StateKey.start.name "1260" 100])).on
          (default : Daemon)).2).2 ∧
    Honoured ⟨100, ⟨1260, 360⟩⟩
      ((runAll .quiet (nightUser 100 ++ [.put StateKey.start.name "1260" 100])).on
        (default : Daemon)).2
      ((fire .quiet (.boundary ⟨100, ⟨1260, 360⟩⟩ .start)).on
        ((runAll .quiet (nightUser 100 ++ [.put StateKey.start.name "1260" 100])).on
          (default : Daemon)).2).2 := by
  have hfresh : Fresh (default : Daemon) := ⟨rfl, rfl, fun _ => rfl⟩
  have hanswers : (default : Daemon).zone.Answers :=
    Zone.Constant.answers fun t ht => absurd ht List.not_mem_nil
  constructor
  · refine (fires_of_run (Hooks.quiet_losing True) hfresh rfl hanswers ⟨0, rfl⟩ (fun _ => rfl)
      (fun _ => rfl) (nightUser 100) [.put StateKey.start.name "1260" 100] ⟨1, ?_⟩ rfl
      (r := ⟨false, true⟩) ?_ rfl).discarded ?_
    · decide +kernel
    · decide +kernel
    · decide +kernel
  · refine (fires_of_run (Hooks.quiet_losing True) hfresh rfl hanswers ⟨0, rfl⟩ (fun _ => rfl)
      (fun _ => rfl) (nightUser 100 ++ [.put StateKey.start.name "1260" 100]) [] ⟨3, ?_⟩
      (by rw [List.append_nil]) (r := ⟨false, true⟩) ?_ rfl).honoured ?_
    · decide +kernel
    · decide +kernel
    · decide +kernel

end Daemon

end Twilight
