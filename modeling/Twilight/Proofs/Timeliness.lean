import Twilight.Proofs.Daemon.Operations
import Twilight.Proofs.Time.Constant

namespace Twilight

/-!
# The schedule is on time

A window's alarms are armed for the next occurrences of its bounds. Until one of them is due the
status cannot change, and when one is, both are armed anew and the status is decided by the clock.

* `Tick`, `Daemon.follow` — what time does to a daemon, and a user who becomes active before.
* `Daemon.Timely` — the invariant: a pair of alarms armed at an instant from which on neither bound
  has occurred, and the status of that instant.
* `Daemon.Timely.elapse`, `Daemon.Timely.adjust` — each tick preserves it.
* `Daemon.OnTime`, `Daemon.onTime_of_ticks` — what that means after every run.
-/

open Time

/-- What time does to a daemon: some of it passes, and whatever is due by then fires; or the clock
    is set, and the timers are restarted. -/
inductive Tick where
  | elapse (nanos : Nat)
  | adjust (nanos : Int)

/-- One tick. -/
def Tick.perform (h : Hooks) : Tick → Act Unit
  | .elapse nanos => do
    modify fun d => { d with clock := d.clock.after d.zone nanos }
    let _ ← Daemon.fireDue h
    pure ()
  | .adjust nanos => do
    modify fun d => { d with clock := .ofNanos d.zone nanos }
    let _ ← Daemon.resync h
    pure ()

/-- Ticks in order. -/
def runTicks (h : Hooks) : List Tick → Act Unit
  | [] => pure ()
  | tick :: rest => do
    tick.perform h
    runTicks h rest

namespace Daemon

/-- A receiver is installed, a user becomes active, and time passes. -/
def follow (h : Hooks) (receiver : Receiver) (user : UserId) (ticks : List Tick) : Act Unit := do
  install receiver
  let _ ← switchUser h user
  runTicks h ticks

variable {user : UserId} {w : Window} {d d₁ d₂ : Daemon}

/-! ### The invariant -/

/-- Only one user has timers, nothing fails, and whoever receives statuses reports them. -/
structure Serving (user : UserId) (d : Daemon) : Prop where
  constant : d.zone.Constant
  clock : d.clock = .ofNanos d.zone d.clock.nanos
  arms : d.alarms.Arms
  cancels : d.alarms.Cancels
  sound : SoundTimers d
  reports : ∃ r, d.manager.receiver = some r ∧ r.reports = true
  somebody : user ≠ noUser
  active : d.manager.active = user
  others : ∀ other, other ≠ user → d.timers.get? other = none

/-- The state of that user is a window with valid bounds, and has a record. -/
structure Following (user : UserId) (w : Window) (d : Daemon) : Prop extends Serving user d where
  valid : w.valid = true
  state : d.manager.states.get? user = some ⟨.customWindow, w⟩
  record : ∃ r, d.timers.get? user = some r ∧ r.window = w

/-- The last status known of a user is also the last one reported. -/
structure Knows (user : UserId) (dark : Bool) (d : Daemon) : Prop where
  known : d.manager.lastStatus.get? user = some dark
  reported : d.updates.find? (fun p => p.2 = user) = some (dark, user)

/-- What is pending is the pair of alarms for a user's window that is armed at an instant. -/
def ArmedAt (nanos : Int) (user : UserId) (w : Window) (d : Daemon) : Prop :=
  ∃ i j : Nat, i ≠ j ∧ ∀ k, d.pending? k = pairAlarms ⟨some i, some j⟩
    (w.occurrencesAt d.zone nanos) (ScheduleRequest.mk user w).actions k

/-- The pair was armed at an instant from which on neither bound has occurred, and what is known is
    the status of that instant. -/
structure Timely (user : UserId) (w : Window) (d : Daemon) : Prop extends Following user w d where
  armed : ∃ nanos, nanos ≤ d.clock.nanos ∧ ArmedAt nanos user w d ∧
    d.clock.nanos < (w.occurrencesAt d.zone nanos).start.nanos ∧
    d.clock.nanos < (w.occurrencesAt d.zone nanos).finish.nanos ∧
    Knows user (w.containsMoment (.ofNanos d.zone nanos)) d

/-! ### Arming and notifying -/

/-- While the daemon is `Serving` a user, all pending alarms belong to the record that is exchanged.
    -/
theorem Serving.without_eq_none (ha : Serving user d) (k : Nat) :
    Pending.without d.pending? (d.idsOf user) k = none := by
  cases hk : Pending.without d.pending? (d.idsOf user) k with
  | none => rfl
  | some a =>
    obtain ⟨other, r, hne, hr, _, _⟩ := ha.sound.owned_without hk
    rw [ha.others other hne] at hr
    contradiction

/-- Once a user is `Rearmed` for the occurrences from an instant on, what is pending is the pair
    that is `ArmedAt` this instant. -/
theorem Serving.armedAt (ha : Serving user d) {record : TimerRecord} {nanos : Int}
    (hact : record.actions = (ScheduleRequest.mk user w).actions)
    (hr : Rearmed False user record (w.occurrencesAt d.zone nanos) d d₁) :
    ArmedAt nanos user w d₁ := by
  obtain ⟨hs, hf⟩ := hr.full ha.arms
  obtain ⟨i, hi⟩ := Option.isSome_iff_exists.1 hs
  obtain ⟨j, hj⟩ := Option.isSome_iff_exists.1 hf
  have hne : i ≠ j := by
    rintro rfl
    exact hr.numbers.distinct i hi hj
  -- apart from the new pair nothing is pending
  refine ⟨i, j, hne, fun k => ?_⟩
  have hids : record.alarms = ⟨some i, some j⟩ := by rw [← hi, ← hj]
  have hk := hr.pending.eq k
  unfold Pending.adding at hk
  rw [ha.without_eq_none k, Option.or_none] at hk
  rw [hk, hids, hact, hr.rescheduled.zone]

/-- After a status was `Notified` the user `Knows` it, if they did before in case that the policy
    kept silent about it. -/
theorem Notified.knows {dark : Bool} {policy : NotifyPolicy}
    (hn : Notified dark user policy d d₁)
    (hrep : ∃ r, d.manager.receiver = some r ∧ r.reports = true)
    (hold : ¬ NotifyPolicy.passes policy (d.manager.lastStatus.get? user) dark →
      Knows user dark d) : Knows user dark d₁ := by
  cases hn with
  | told _ told =>
    obtain ⟨r, hr, hreports⟩ := hrep
    refine ⟨?_, ?_⟩
    · rw [told.lastStatus, Table.get?_insert_self]
    · rw [told.reported r hr hreports]
      simp
  | silent passes logged =>
    obtain ⟨j, rfl⟩ := logged
    exact ⟨(hold passes).known, (hold passes).reported⟩

/-- A daemon stays `Serving` a user who was `Rearmed`, with a status delivered after that. -/
theorem Serving.rearmed (ha : Serving user d) {record : TimerRecord} {triggers : Pair Moment}
    (hact : record.actions = (ScheduleRequest.mk user record.window).actions)
    (hv : record.window.valid = true) (hr : Rearmed False user record triggers d d₁)
    (hd : Delivered d₁ d₂) : Serving user d₂ := by
  have hzone : d₂.zone = d.zone := hd.zone.trans hr.rescheduled.zone
  have hclock : d₂.clock = d.clock := hd.clock.trans hr.rescheduled.clock
  -- the new record names the alarms that honour its window
  have hsound : SoundTimers d₁ := ha.sound.rearmed hr hact hv
  refine ⟨?_, ?_, ?_, ?_, hsound.delivered hd, ?_, ha.somebody, ?_, ?_⟩
  · rw [hzone]
    exact ha.constant
  · rw [hzone, hclock]
    exact ha.clock
  · rw [hd.alarms]
    exact hr.plans.arms ha.arms
  · rw [hd.alarms]
    exact hr.plans.cancels ha.cancels
  · rw [hd.receiver, hr.rescheduled.manager]
    exact ha.reports
  · rw [hd.active, hr.rescheduled.manager]
    exact ha.active
  · intro other hne
    rw [hd.timers, hr.timers, Table.get?_insert_of_ne _ hne]
    exact ha.others other hne

/-- A user whose window was armed just now, and whose status was treated as a policy asks. -/
theorem Serving.timely (ha : Serving user d) (hv : w.valid = true)
    (hstate : d.manager.states.get? user = some ⟨.customWindow, w⟩) {record : TimerRecord}
    (hwin : record.window = w) (hact : record.actions = (ScheduleRequest.mk user w).actions)
    (hr : Rearmed False user record (w.occurrencesAt d.zone d.clock.nanos) d d₁)
    {policy : NotifyPolicy} (hn : Notified (w.containsMoment d.clock) user policy d₁ d₂)
    (hold : ¬ NotifyPolicy.passes policy (d.manager.lastStatus.get? user)
      (w.containsMoment d.clock) → Knows user (w.containsMoment d.clock) d) :
    Timely user w d₂ := by
  have hd := hn.delivered
  -- the status was told now, or was known before
  have hknows : Knows user (w.containsMoment d.clock) d₂ := by
    refine hn.knows (by rw [hr.rescheduled.manager]; exact ha.reports) fun hno => ?_
    rw [hr.rescheduled.manager] at hno
    have hk := hold hno
    exact ⟨by rw [hr.rescheduled.manager, hk.known], by rw [hr.rescheduled.updates, hk.reported]⟩
  have hpair : ArmedAt d.clock.nanos user w d₂ := by
    obtain ⟨i, j, hne, hpend⟩ := ha.armedAt hact hr
    refine ⟨i, j, hne, fun k => ?_⟩
    rw [hd.zone, pending?, hd.alarms]
    exact hpend k
  subst hwin
  refine ⟨⟨ha.rearmed hact hv hr hd, hv, ?_, ?_⟩, ?_⟩
  · rw [hd.states, hr.rescheduled.manager]
    exact hstate
  · exact ⟨record, by rw [hd.timers, hr.timers, Table.get?_insert_self], rfl⟩
  · -- both bounds occur after the instant at which they were asked for
    obtain ⟨hs, hf⟩ := record.window.lt_occurrencesAt d.zone d.clock.nanos
    rw [hd.zone, hd.clock, hr.rescheduled.zone, hr.rescheduled.clock]
    refine ⟨d.clock.nanos, Int.le_refl _, hpair, hs, hf, ?_⟩
    rw [← ha.clock]
    exact hknows

/-- A daemon that is `Serving` a user is `Timely` once a window was `Settled` for them, with a
    status that the policy lets through. -/
theorem Serving.timely_of_settled (ha : Serving user d) (hv : w.valid = true)
    {policy : NotifyPolicy} (hs : Settled False user ⟨.customWindow, w⟩ policy d d₁)
    (hpass : NotifyPolicy.passes policy (d.manager.lastStatus.get? user)
      (w.containsMoment d.clock)) : Timely user w d₁ := by
  have hw : (DarkModeState.mk .customWindow w).window? = some w :=
    DarkModeState.window?_eq_some.2 ⟨rfl, rfl, hv⟩
  obtain ⟨d₀, hr, hn⟩ := hs
  rw [DarkModeState.status?_of_window? hw] at hn
  -- in a constant zone both bounds occur again, so the window is neither cleared nor stuck
  have ho : w.occurrences d.zone d.clock = .ok (w.occurrencesAt d.zone d.clock.nanos) := by
    rw [ha.clock]
    exact Window.occurrences_of_constant ha.constant hv d.clock.nanos
  have hset : Serving user (d.withState user ⟨.customWindow, w⟩) :=
    ⟨ha.constant, ha.clock, ha.arms, ha.cancels,
      ha.sound.congr rfl rfl, ha.reports, ha.somebody, ha.active,
      ha.others⟩
  cases hr with
  | unset mode _ => contradiction
  | cleared _ window _ =>
    rw [hw] at window
    contradiction
  | stuck w' f window occurrences _ =>
    obtain rfl : w = w' := Option.some.inj (hw.symm.trans window)
    have hno : Except.ok _ = Except.error f := ho.symm.trans occurrences
    contradiction
  | armed w' triggers ids window occurrences rearmed =>
    obtain rfl : w = w' := Option.some.inj (hw.symm.trans window)
    obtain rfl : w.occurrencesAt d.zone d.clock.nanos = triggers :=
      Except.ok.inj (ho.symm.trans occurrences)
    exact hset.timely hv (Table.get?_insert_self _ _ _) rfl rfl rearmed hn fun hno =>
      absurd hpass hno

/-! ### Firing -/

/-- The state of a user who is followed asks for what the alarms have honoured. -/
theorem Following.liveRequest? (hf : Following user w d) :
    d.liveRequest? user = some ⟨user, w⟩ := by
  unfold Daemon.liveRequest?
  rw [hf.state]
  rfl

/-- An alarm that fires has both armed anew, and the status handed over. -/
theorem Following.fired (hf : Following user w d) (boundary : Boundary) :
    Timely user w ((fireBoundary .quiet ⟨user, w⟩ boundary).on d).2 := by
  have hfired := fireBoundary_on (Hooks.quiet_losing False) hf.cancels ⟨user, w⟩ boundary
  cases hfired with
  | ignored reason _ =>
    -- the user is active, and the live state still asks for this request
    rcases reason with hactive | hlive
    · exact absurd hf.active.symm hactive
    · exact absurd hf.liveRequest? hlive
  | outOfRange _ valid _ =>
    exact absurd (hf.valid.symm.trans valid) (by simp)
  | honoured state _ live _ settled =>
    obtain rfl : state = ⟨.customWindow, w⟩ := Option.some.inj (live.symm.trans hf.state)
    exact hf.timely_of_settled hf.valid settled (.inl rfl)

/-- The action of an alarm for a user's window. -/
def ForWindow (user : UserId) (w : Window) (action : AlarmAction) : Prop :=
  ∃ boundary, action = .boundary ⟨user, w⟩ boundary

/-- Alarms for the window that fire together keep the daemon `Timely`. By induction on the alarms.
    -/
theorem Timely.fireAll (ht : Timely user w d) (actions : List AlarmAction)
    (hall : ∀ a ∈ actions, ForWindow user w a) :
    Timely user w ((Daemon.fireAll .quiet actions).on d).2 := by
  induction actions generalizing d with
  | nil => exact ht
  | cons action rest ih =>
    obtain ⟨boundary, rfl⟩ := hall action (by simp)
    exact ih (ht.toFollowing.fired boundary) fun a ha => hall a (List.mem_cons_of_mem _ ha)

/-! ### Time that passes -/

/-- The daemon at another instant. -/
def atInstant (d : Daemon) (nanos : Int) : Daemon := { d with clock := .ofNanos d.zone nanos }

/-- The daemon once everything due is taken out, and before it fires. -/
def takingDue (d : Daemon) : Daemon :=
  { d with alarms := (d.alarms.takeDue d.zone d.clock).2 }

/-- A daemon goes on `Following` a user whatever its clock says. -/
theorem Following.atInstant (hf : Following user w d) (nanos : Int) :
    Following user w (d.atInstant nanos) :=
  ⟨⟨hf.constant, rfl, hf.arms, hf.cancels, hf.sound.congr rfl rfl,
    hf.reports, hf.somebody, hf.active, hf.others⟩, hf.valid, hf.state, hf.record⟩

/-- Taking out what is due concerns no state and no record. -/
theorem Following.takingDue (hf : Following user w d) : Following user w d.takingDue :=
  ⟨⟨hf.constant, hf.clock, (AlarmService.samePlans_takeDue _ _ _).arms hf.arms,
    (AlarmService.samePlans_takeDue _ _ _).cancels hf.cancels, hf.sound.takeDue _ _, hf.reports,
    hf.somebody, hf.active, hf.others⟩, hf.valid, hf.state, hf.record⟩

/-- Under `ArmedAt` a pending alarm is one of the window's pair. -/
theorem ArmedAt.forWindow {nanos : Int} (ha : ArmedAt nanos user w d) {k : Nat}
    {a : Alarm AlarmAction} (hk : d.pending? k = some a) : ForWindow user w a.action := by
  obtain ⟨i, j, _, hpair⟩ := ha
  rw [hpair k] at hk
  rcases (pairAlarms_eq_some hk).2 with rfl | rfl
  · exact ⟨.start, rfl⟩
  · exact ⟨.finish, rfl⟩

/-- Under `ArmedAt` both alarms of the window's pair are pending, each with its own trigger. -/
theorem ArmedAt.pending {nanos : Int} (ha : ArmedAt nanos user w d) :
    (∃ (k : Nat) (a : Alarm AlarmAction),
        d.pending? k = some a ∧ a.trigger = (w.occurrencesAt d.zone nanos).start) ∧
      ∃ (k : Nat) (a : Alarm AlarmAction),
        d.pending? k = some a ∧ a.trigger = (w.occurrencesAt d.zone nanos).finish := by
  obtain ⟨i, j, hne, hpair⟩ := ha
  have hi := hpair i
  have hj := hpair j
  unfold pairAlarms at hi hj
  rw [if_pos rfl] at hi
  rw [if_neg fun h => hne (Option.some.inj h), if_pos rfl] at hj
  exact ⟨⟨i, _, hi, rfl⟩, j, _, hj, rfl⟩

/-- When something is due, the first of it to fire has both alarms armed anew, and the others find
    them so. -/
theorem Following.fireDue (hf : Following user w d) {armed : Int} (ha : ArmedAt armed user w d)
    (hdue : (d.alarms.takeDue d.zone d.clock).1 ≠ []) :
    Timely user w ((Daemon.fireDue .quiet).on d).2 := by
  have hall : ∀ a ∈ (d.alarms.takeDue d.zone d.clock).1.map fun p => p.2.action,
      ForWindow user w a := by
    intro a hmem
    obtain ⟨⟨k, alarm⟩, hk, rfl⟩ := List.mem_map.1 hmem
    exact ha.forWindow (AlarmService.mem_takeDue.1 hk).1
  rw [fireDue_on]
  cases hactions : (d.alarms.takeDue d.zone d.clock).1.map fun p => p.2.action with
  | nil => exact absurd (List.map_eq_nil_iff.1 hactions) hdue
  | cons action rest =>
    rw [hactions] at hall
    obtain ⟨boundary, rfl⟩ := hall action (by simp)
    exact (hf.takingDue.fired boundary).fireAll rest fun a hmem =>
      hall a (List.mem_cons_of_mem _ hmem)

/-- As long as nothing is due neither bound has occurred, and the status is still that of the
    instant at which the alarms were armed. -/
theorem Following.fireDue_of_nothing (hf : Following user w d) {armed : Int}
    (hle : armed ≤ d.clock.nanos) (ha : ArmedAt armed user w d)
    (hk : Knows user (w.containsMoment (.ofNanos d.zone armed)) d)
    (hdue : (d.alarms.takeDue d.zone d.clock).1 = []) :
    Timely user w ((Daemon.fireDue .quiet).on d).2 := by
  -- nothing is due, so whatever is pending lies ahead
  have hahead : ∀ (k : Nat) (a : Alarm AlarmAction), d.pending? k = some a →
      d.clock.nanos < a.trigger.nanos := by
    intro k a hpend
    have hnot := AlarmService.not_isDue_of_takeDue hdue hpend
    unfold Alarm.isDue at hnot
    rw [decide_eq_true_eq] at hnot
    omega
  obtain ⟨⟨i, a, hi, hs⟩, j, b, hj, hfin⟩ := ha.pending
  have hstart := hahead i a hi
  have hfinish := hahead j b hj
  rw [hs] at hstart
  rw [hfin] at hfinish
  have hpair : ArmedAt armed user w d.takingDue := by
    obtain ⟨i, j, hne, hpair⟩ := ha
    exact ⟨i, j, hne, fun k =>
      (AlarmService.pending?_takeDue_of_nothing hdue k).trans (hpair k)⟩
  rw [fireDue_on, hdue]
  exact ⟨hf.takingDue, armed, hle, hpair, hstart, hfinish, hk.known, hk.reported⟩

/-- A tick of `elapse` keeps the daemon `Timely`: if a bound has occurred, its alarm is due and the
    pair is armed anew. -/
theorem Timely.elapse (ht : Timely user w d) (nanos : Nat) :
    Timely user w (((Tick.elapse nanos).perform .quiet).on d).2 := by
  obtain ⟨armed, hle, hpair, _, _, hknows⟩ := ht.armed
  have hf : Following user w (d.atInstant (d.clock.nanos + nanos)) := ht.toFollowing.atInstant _
  have hlater : armed ≤ (d.atInstant (d.clock.nanos + nanos)).clock.nanos := by
    show armed ≤ d.clock.nanos + nanos
    omega
  show Timely user w ((Daemon.fireDue .quiet).on (d.atInstant (d.clock.nanos + nanos))).2
  -- either nothing is due and the status holds on, or a firing decides it anew
  by_cases hdue : ((d.atInstant (d.clock.nanos + nanos)).alarms.takeDue
      (d.atInstant (d.clock.nanos + nanos)).zone
      (d.atInstant (d.clock.nanos + nanos)).clock).1 = []
  · exact hf.fireDue_of_nothing hlater hpair ⟨hknows.known, hknows.reported⟩ hdue
  · exact hf.fireDue hpair hdue

/-! ### A clock that is set -/

/-- Only one user has timers, so restarting all of them is restarting that user's. -/
theorem Following.restartAll (hf : Following user w d) :
    ∃ record, record.window = w ∧ record.actions = (ScheduleRequest.mk user w).actions ∧
      Rearmed False user record (w.occurrencesAt d.zone d.clock.nanos) d
        ((Daemon.restartAll .quiet).on d).2 := by
  obtain ⟨r, hr, rfl⟩ := hf.record
  have hsound := hf.sound.records user r hr
  have ho : r.window.occurrences d.zone d.clock =
      .ok (r.window.occurrencesAt d.zone d.clock.nanos) := by
    rw [hf.clock]
    exact Window.occurrences_of_constant hf.constant hf.valid d.clock.nanos
  obtain ⟨d₁, hlog, he⟩ := rearmAll_cons (h := .quiet) user r [] d
  rw [restartAll_snd, Table.eq_single hr hf.others, Table.entries_single, he]
  rcases rearm_cases (Hooks.quiet_losing False) hf.cancels hr hsound.issued with
    ⟨triggers, ids, hok, hre⟩ | ⟨⟨f, hno⟩, _⟩
  · obtain rfl := Except.ok.inj (ho.symm.trans hok)
    exact ⟨{ r with alarms := ids }, rfl, hsound.actions, hre.logged hlog⟩
  · have hno : Except.ok _ = Except.error f := ho.symm.trans hno
    contradiction

/-- A daemon that is `Following` a user has the status of their window as that of the active user.
    -/
theorem Following.activeWindowStatus? (hf : Following user w d) :
    d.activeWindowStatus? = some (w.containsMoment d.clock) := by
  unfold Daemon.activeWindowStatus?
  rw [hf.active, if_neg hf.somebody, hf.liveRequest?]
  exact if_pos hf.valid

/-- Restarting arms the pair anew, and notifies the status of the instant unless it is known. -/
theorem Following.resync (hf : Following user w d) {dark : Bool} (hk : Knows user dark d) :
    Timely user w ((Daemon.resync .quiet).on d).2 := by
  obtain ⟨record, hwin, hact, hr⟩ := hf.restartAll
  obtain ⟨d₀, hlog, hn⟩ := resync_restartAll (Hooks.quiet_losing False) d
  have hr₀ := hr.logged hlog
  have hstatus : d₀.activeWindowStatus? = some (w.containsMoment d.clock) := by
    rw [← hf.activeWindowStatus?]
    unfold Daemon.activeWindowStatus? Daemon.liveRequest?
    rw [hr₀.rescheduled.manager, hr₀.rescheduled.clock]
  -- what is not notified is known already, for it is the last status known
  rw [hstatus, hr₀.rescheduled.manager, hf.active] at hn
  refine hf.timely hf.valid hf.state hwin hact hr₀ hn fun hno => ?_
  have hlast : d.manager.lastStatus.get? user = some (w.containsMoment d.clock) := by
    by_contra hlast
    exact hno (.inr ⟨rfl, hlast⟩)
  obtain rfl : dark = w.containsMoment d.clock :=
    Option.some.inj (hk.known.symm.trans hlast)
  exact hk

/-- A tick of `adjust` keeps the daemon `Timely`, as the timers are restarted by the clock that was
    set. -/
theorem Timely.adjust (ht : Timely user w d) (nanos : Int) :
    Timely user w (((Tick.adjust nanos).perform .quiet).on d).2 := by
  obtain ⟨armed, _, _, _, _, hknows⟩ := ht.armed
  exact (ht.toFollowing.atInstant nanos).resync ⟨hknows.known, hknows.reported⟩

/-- Any ticks keep the daemon `Timely`. By induction on the ticks. -/
theorem Timely.runTicks (ht : Timely user w d) (ticks : List Tick) :
    Timely user w ((Twilight.runTicks .quiet ticks).on d).2 := by
  induction ticks generalizing d with
  | nil => exact ht
  | cons tick rest ih =>
    cases tick with
    | elapse nanos => exact ih (ht.elapse nanos)
    | adjust nanos => exact ih (ht.adjust nanos)

/-! ### What it means -/

/-- The last status known of a user, which is also the last one reported, is that of the window now;
    and exactly two alarms for the user are pending, both still to come. -/
structure OnTime (user : UserId) (w : Window) (d : Daemon) : Prop where
  known : d.manager.lastStatus.get? user = some (w.containsMoment d.clock)
  reported : d.updates.find? (fun p => p.2 = user) = some (w.containsMoment d.clock, user)
  alarms : (d.alarmsOf user).length = 2
  ahead : ∀ p ∈ d.alarmsOf user, d.clock.nanos < p.2.trigger.nanos

/-- The alarms for the user are those of the pair, each of them once. -/
theorem ArmedAt.alarmsOf_perm {nanos : Int} (ha : ArmedAt nanos user w d) :
    ∃ i j : Nat, (d.alarmsOf user).Perm
      [(i, .once (w.occurrencesAt d.zone nanos).start (.boundary ⟨user, w⟩ .start)),
        (j, .once (w.occurrencesAt d.zone nanos).finish (.boundary ⟨user, w⟩ .finish))] := by
  obtain ⟨i, j, hne, hpair⟩ := ha
  have hsorted := d.alarms.queue.pending.sorted.filter fun p => p.2.action.user? = some user
  have hnodup : (d.alarmsOf user).Nodup := hsorted.imp fun hbefore heq =>
    Key.ne_of_before hbefore (congrArg Prod.fst heq)
  refine ⟨i, j, (List.perm_ext_iff_of_nodup hnodup (by simp [hne])).2 ?_⟩
  rintro ⟨k, a⟩
  rw [mem_alarmsOf, hpair k, pairAlarms_full hne]
  simp only [List.mem_cons, Prod.mk.injEq, List.not_mem_nil, or_false]
  constructor
  · exact fun h => h.1
  · rintro (⟨rfl, rfl⟩ | ⟨rfl, rfl⟩)
    · exact ⟨.inl ⟨rfl, rfl⟩, rfl⟩
    · exact ⟨.inr ⟨rfl, rfl⟩, rfl⟩

/-- A daemon that is `Timely` is `OnTime`: since no bound has occurred, the window has the status
    that is known. -/
theorem Timely.onTime (ht : Timely user w d) : OnTime user w d := by
  obtain ⟨armed, hle, hpair, hs, hfin, hknows⟩ := ht.armed
  obtain ⟨i, j, hperm⟩ := hpair.alarmsOf_perm
  -- neither bound has occurred since the pair was armed
  have hstatus : w.containsMoment d.clock = w.containsMoment (.ofNanos d.zone armed) := by
    rw [ht.clock]
    exact Window.containsMoment_eq_of_lt ht.constant ht.valid hle hs hfin
  refine ⟨?_, ?_, hperm.length_eq, fun p hp => ?_⟩
  · rw [hstatus]
    exact hknows.known
  · rw [hstatus]
    exact hknows.reported
  · have hp := hperm.mem_iff.1 hp
    rcases List.mem_cons.1 hp with rfl | hp
    · exact hs
    · obtain rfl := List.mem_singleton.1 hp
      exact hfin

/-! ### The start -/

/-- A `Fresh` daemon is `Serving` the first user who becomes active: nobody else has timers. -/
theorem Fresh.serving (hd : Fresh d) (hz : d.zone.Constant)
    (hclock : d.clock = .ofNanos d.zone d.clock.nanos) (harms : d.alarms.Arms)
    (hc : d.alarms.Cancels) (hu : user ≠ noUser) {r : Receiver} (hr : r.reports = true)
    (hobs : Observed (d.withReceiver r) d₁)
    (hactive : d₁.manager.active = user) : Serving user d₁ where
  constant := by rw [hobs.zone]; exact hz
  clock := by rw [hobs.zone, hobs.clock]; exact hclock
  arms := by rw [hobs.alarms]; exact harms
  cancels := by rw [hobs.alarms]; exact hc
  sound := hd.soundTimers.congr hobs.timers hobs.alarms
  reports := ⟨r, hobs.receiver, hr⟩
  somebody := hu
  active := hactive
  others other _ := by
    rw [hobs.timers]
    show d.timers.get? other = none
    rw [hd.timers, Table.get?_emptyCollection]

/-- Once a user is active whose state is a window with valid bounds, that window is on time. -/
theorem Fresh.timely (hd : Fresh d) (hz : d.zone.Constant)
    (hclock : d.clock = .ofNanos d.zone d.clock.nanos) (harms : d.alarms.Arms)
    (hc : d.alarms.Cancels) (hf : d.settings.faults = {}) (hu : user ≠ noUser)
    (hstate : d.settings.decoded user = ⟨.customWindow, w⟩) (hv : w.valid = true) {r : Receiver}
    (hr : r.reports = true) :
    Timely user w ((switchUser .quiet user).on ((install r).on d).2).2 := by
  obtain ⟨j, hj⟩ := install_on r d
  rw [hj]
  obtain ⟨d₀, d₁, d₂, he, hobs, hactive, hf₀, _, _, hret, hset⟩ :=
    switchUser_of_faultless (Hooks.quiet_losing False)
      (d := { d.withReceiver r with journal := j }) hc user hf (by simp [withReceiver])
  have hobs : Observed (d.withReceiver r) d₀ := .trans ⟨_, _, _, _, j, rfl⟩ hobs
  have hserving := hd.serving hz hclock harms hc hu hr hobs hactive
  -- nobody was active before, so nobody is forgotten
  have hnobody : d₁ = d₀ := by
    cases hret with
    | nobody _ same => exact same
    | forgotten somebody _ =>
      exact absurd (show d.manager.active = noUser by rw [hd.manager]) somebody
  have hunknown : d₀.manager.lastStatus.get? user = none := by
    rw [hobs.lastStatus]
    show d.manager.lastStatus.get? user = none
    rw [hd.manager]
    exact Table.get?_emptyCollection _
  have hstored : d₀.settings.decoded user = ⟨.customWindow, w⟩ :=
    (hobs.decoded hf hf₀ user).trans hstate
  rw [hnobody, hstored] at hset
  rw [he]
  exact hserving.timely_of_settled hv hset (.inr ⟨rfl, by simp [hunknown]⟩)

/-- **The schedule is on time.** Take a zone with one offset, a fresh daemon in which nothing fails,
    and a user whose stored state is a window with valid bounds. From when the user becomes active,
    however the time passes and however the clock is set, the status last reported is that of the
    window now, and exactly two alarms for the user are pending, both still to come. -/
theorem onTime_of_ticks (hd : Fresh d) (hz : d.zone.Constant)
    (hclock : ∃ nanos, d.clock = .ofNanos d.zone nanos) (harms : d.alarms.Arms)
    (hc : d.alarms.Cancels) (hf : d.settings.faults = {}) (hu : 0 ≤ user)
    (hstate : d.settings.decoded user = ⟨.customWindow, w⟩) (hv : w.valid = true) {r : Receiver}
    (hr : r.reports = true) (ticks : List Tick) :
    OnTime user w ((follow .quiet r user ticks).on d).2 := by
  have hne : user ≠ noUser := by
    rintro rfl
    exact absurd (show (0 : Int) ≤ noUser from hu) (by decide)
  have hnow : d.clock = .ofNanos d.zone d.clock.nanos := by
    obtain ⟨nanos, hnanos⟩ := hclock
    rw [hnanos, Moment.ofNanos_nanos]
  have hstart := hd.timely hz hnow harms hc hf hne hstate hv hr
  exact (hstart.runTicks ticks).onTime

/-- A window from 20:00 to 06:00 is on time at noon on the first day, after the clock was set back
    from the second day. -/
theorem onTime_of_night :
    OnTime 100 ⟨1200, 360⟩ ((follow .quiet { applies := false, reports := true } 100
      [.elapse 86400000000001, .adjust 43200000000000]).on { (default : Daemon) with
        settings := { values := ((({} : SettingsTable).put StateKey.mode.name "2" 100).put
          StateKey.start.name "1200" 100).put StateKey.finish.name "360" 100 } }).2 := by
  refine onTime_of_ticks ⟨rfl, rfl, fun _ => rfl⟩ ?_ ⟨0, rfl⟩ (fun _ => rfl) (fun _ => rfl) rfl
    (by decide) ?_ (by decide) rfl _
  · exact fun t ht => absurd ht List.not_mem_nil
  · decide +kernel

end Daemon

end Twilight
