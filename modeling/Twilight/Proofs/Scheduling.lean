import Twilight.Proofs.Daemon.Exchanges

namespace Twilight

/-!
# What a request for timers comes to

A request is refused before anything is touched, or the user's pair is exchanged whatever fails: the
old pair is cancelled, then the new one is armed, the record names whatever could be armed, and the
first failure is answered. Nobody else notices.

* `Window.InDay` — both bounds are minutes of the day.
* `Daemon.Exchanged` — a pair was put in the place of the one before.
* `Daemon.Handled` — what became of a request.
* `Daemon.handled_of_schedule` — so it is with every request, whichever calls fail.
-/

open Time

/-- Both bounds lie in `[0, 1440)`. -/
def Window.InDay (w : Window) : Prop :=
  (0 ≤ w.start ∧ w.start < 1440) ∧ (0 ≤ w.finish ∧ w.finish < 1440)

/-- The check `valid` of a window is that it is `InDay`. -/
theorem Window.valid_iff {w : Window} : w.valid = true ↔ w.InDay := by
  unfold Window.valid Window.InDay
  rw [Bool.and_eq_true, isMinuteOfDay_iff, isMinuteOfDay_iff]
  rfl

namespace Daemon

variable {onArm onCancel : AlarmService AlarmAction → List Event} {d d₁ : Daemon} {user : UserId}
variable {window : Window} {actions : Pair AlarmAction} {triggers : Pair Moment}
variable {result : Except Fault Unit}

/-! ### What becomes of a request -/

/-- The user has a pair for the window in the place of the one before, as far as it could be armed;
    `result` is answered, and `d₁` is the daemon afterwards. Before each call on the alarm service
    was noted what it found. -/
structure Exchanged (onArm onCancel : AlarmService AlarmAction → List Event) (user : UserId)
    (window : Window) (actions : Pair AlarmAction) (triggers : Pair Moment) (d : Daemon)
    (result : Except Fault Unit) (d₁ : Daemon) : Prop where
  /-- The record names the new alarms in their slots: a slot is empty if its alarm could not be
      armed. -/
  timers : d₁.timers =
    d.timers.insert user ⟨slotsOf (d.refilled user triggers actions).1, window, actions⟩
  /-- The numbers of the old record are all different. -/
  different : (d.idsOf user).Nodup
  /-- The alarm service is what it is after calls to cancel each of them, and then calls to arm. -/
  alarms : d₁.alarms = (d.refilled user triggers actions).2
  /-- The calls to cancel came first, each finding what the one before had left; the start was armed
      when all of them were made, and the finish after that. -/
  order : d₁.events =
    onArm ((d.emptied user).arm (.once triggers.start actions.start)).2 ++
      (onArm (d.emptied user) ++
        ((d.alarms.cancelFinds (d.idsOf user)).reverse.flatMap onCancel ++ d.events))
  /-- The first failure in the order of the calls is answered, or success if there was none. -/
  answer : result = settle (d.alarms.cancelFaults (d.idsOf user) ++
    armFaults (d.refilled user triggers actions).1).head?
  /-- Nothing else is touched but the journal. -/
  rest : ∃ j, d₁ = { d with
    timers := d₁.timers, alarms := d₁.alarms, events := d₁.events, journal := j }

/-- What became of a request for a user's timers: it was refused, or the pair was exchanged. -/
structure Handled (onArm onCancel : AlarmService AlarmAction → List Event) (user : UserId)
    (window : Window) (actions : Pair AlarmAction) (d : Daemon) (result : Except Fault Unit)
    (d₁ : Daemon) : Prop where
  /-- Bounds out of range are refused. -/
  outOfRange : ¬ window.InDay → result = .error (.scheduleOutOfRange ⟨user, window⟩) ∧ d₁ = d
  /-- So is a window of which a bound does not occur again; that is warned of. -/
  noOccurrence : window.InDay → ∀ f, window.occurrences d.zone d.clock = .error f →
    result = .error f ∧ Logged d d₁
  /-- Otherwise the pair is exchanged. -/
  exchanged : window.InDay → ∀ triggers, window.occurrences d.zone d.clock = .ok triggers →
    Exchanged onArm onCancel user window actions triggers d result d₁
  /-- Everybody else has the same record, and under its numbers the same alarms. -/
  others : ∀ other, other ≠ user → d₁.timers.get? other = d.timers.get? other ∧
    ∀ i ∈ d.idsOf other, d₁.pending? i = d.pending? i

/-! ### Nobody else -/

/-- Exchanging a pair leaves every alarm alone that was given out before, unless it is one of the
    old pair. -/
theorem pending?_refilled {i : Nat} (hi : i ≤ d.alarms.lastId) (hne : i ∉ d.idsOf user)
    (triggers : Pair Moment) (actions : Pair AlarmAction) :
    (d.refilled user triggers actions).2.pending? i = d.pending? i := by
  have hissued : i ≤ (d.emptied user).lastId := by
    unfold emptied
    rw [AlarmService.lastId_cancelEach]
    exact hi
  unfold refilled
  rw [AlarmService.pending?_armBoth _ _ _ hissued]
  exact d.alarms.pending?_cancelEach hne

/-- Exchanging a user's pair concerns no record and no alarm of another user. -/
theorem Exchanged.others (hd : WellFiled d)
    (he : Exchanged onArm onCancel user window actions triggers d result d₁) {other : UserId}
    (hne : other ≠ user) :
    d₁.timers.get? other = d.timers.get? other ∧
      ∀ i ∈ d.idsOf other, d₁.pending? i = d.pending? i := by
  refine ⟨?_, fun i hi => ?_⟩
  · rw [he.timers, Table.get?_insert_of_ne _ hne]
  · unfold pending?
    rw [he.alarms]
    exact pending?_refilled (hd.issued_of_mem hi) (hd.not_mem_idsOf hne hi) triggers actions

/-! ### Every request -/

/-- Where both bounds of a valid window occur again, `schedule` has the user's pair `Exchanged`. -/
theorem exchanged_of_occurrences (hd : WellFiled d) (hv : window.valid = true)
    (ho : window.occurrences d.zone d.clock = .ok triggers)
    (onArm onCancel : AlarmService AlarmAction → List Event) (user : UserId)
    (actions : Pair AlarmAction) :
    Exchanged onArm onCancel user window actions triggers d
      ((schedule (.observing onArm onCancel) user window actions).on d).1
      ((schedule (.observing onArm onCancel) user window actions).on d).2 := by
  obtain ⟨j, he⟩ := replaceRecord_observing onArm onCancel user window actions triggers d
  have hlog := schedule_of_valid (h := .observing onArm onCancel) (d := d) user actions hv
  rw [schedule_answer _ hv]
  rw [armRecord_of_ok ho, he] at hlog ⊢
  -- the line that scheduling logs is all that comes after the exchange
  generalize ((schedule (.observing onArm onCancel) user window actions).on d).2 = d₁ at hlog ⊢
  obtain ⟨j₁, rfl⟩ := hlog
  exact ⟨rfl, hd.nodup_idsOf user, rfl, rfl, rfl, j₁, rfl⟩

/-- **What a request comes to.** Take any daemon whose records are well filed, and let any calls to
    arm and to cancel fail. A request with a bound out of range, or with one that does not occur
    again, is refused and nothing changes. Any other one has the user's old alarms cancelled, each
    once, and then the new pair armed; the record has the window and its actions, and in each slot
    the number of the alarm if it could be armed; the first failure is answered. No record of
    another user changes, nor does any alarm that it names. -/
theorem handled_of_schedule (hd : WellFiled d)
    (onArm onCancel : AlarmService AlarmAction → List Event) (user : UserId) (window : Window)
    (actions : Pair AlarmAction) :
    Handled onArm onCancel user window actions d
      ((schedule (.observing onArm onCancel) user window actions).on d).1
      ((schedule (.observing onArm onCancel) user window actions).on d).2 := by
  by_cases hv : window.valid = true
  · cases ho : window.occurrences d.zone d.clock with
    | error f =>
      have hlog := schedule_of_valid (h := .observing onArm onCancel) (d := d) user actions hv
      have hanswer : ((schedule (.observing onArm onCancel) user window actions).on d).1 = _ :=
        schedule_answer _ hv actions
      rw [armRecord_of_error ho] at hlog hanswer
      refine ⟨fun hno => absurd (Window.valid_iff.1 hv) hno, fun _ g hg => ?_, fun _ t ht => ?_,
        fun other _ => ?_⟩
      · rw [ho] at hg
        obtain rfl := Except.error.inj hg
        exact ⟨hanswer, hlog⟩
      · rw [ho] at ht
        contradiction
      · obtain ⟨j, hj⟩ := hlog
        rw [hj]
        exact ⟨rfl, fun _ _ => rfl⟩
    | ok triggers =>
      have hex := exchanged_of_occurrences hd hv ho onArm onCancel user actions
      refine ⟨fun hno => absurd (Window.valid_iff.1 hv) hno, fun _ f hf => ?_, fun _ t ht => ?_,
        fun other hne => hex.others hd hne⟩
      · rw [ho] at hf
        contradiction
      · rw [ho] at ht
        obtain rfl := Except.ok.inj ht
        exact hex
  · -- out of range, the request is refused at once
    rw [schedule_of_not_valid hv]
    have hno : ¬ window.InDay := fun hin => hv (Window.valid_iff.2 hin)
    exact ⟨fun _ => ⟨rfl, rfl⟩, fun hin => absurd hin hno, fun hin => absurd hin hno,
      fun _ _ => ⟨rfl, fun _ _ => rfl⟩⟩

/-- A daemon of which some calls on the alarm service fail: the second and the fifth to arm, and the
    first to cancel. -/
def faltering : Daemon :=
  { (default : Daemon) with alarms :=
      { armFails := fun call => call == 1 || call == 4, cancelFails := fun call => call == 0 } }

/-- Scripts for both bounds of a window. -/
def scripted (label : String) : Pair AlarmAction :=
  ⟨.script label .start [], .script label .finish []⟩

/-- It was asked for the time from 20:00 to 06:00 on behalf of two users; the first of them has an
    alarm for the start only. -/
def partlyArmed : Daemon :=
  ((runTimers .quiet [.schedule 100 ⟨1200, 360⟩ (scripted "night"),
    .schedule 101 ⟨1200, 360⟩ (scripted "night")]).on faltering).2

/-- Asking for the time from 01:00 to 02:00 on behalf of the first user cannot cancel the old alarm,
    and arms the finish only. The failure to cancel came first. -/
theorem handled_of_partial :
    Handled (fun _ => [.arming]) (fun _ => [.cancelling]) 100 ⟨60, 120⟩ (scripted "nap") partlyArmed
        ((schedule (.observing (fun _ => [.arming]) fun _ => [.cancelling]) 100 ⟨60, 120⟩
          (scripted "nap")).on partlyArmed).1
        ((schedule (.observing (fun _ => [.arming]) fun _ => [.cancelling]) 100 ⟨60, 120⟩
          (scripted "nap")).on partlyArmed).2 ∧
      faultOf? ((schedule .quiet 100 ⟨60, 120⟩ (scripted "nap")).on partlyArmed).1 =
        some (.cancelRejected 1) ∧
      (partlyArmed.timers.get? 100).map TimerRecord.alarms = some ⟨some 1, none⟩ ∧
      (((schedule .quiet 100 ⟨60, 120⟩ (scripted "nap")).on partlyArmed).2.timers.get? 100).map
        TimerRecord.alarms = some ⟨none, some 4⟩ := by
  have hd : faltering.Untimed := ⟨rfl, fun _ => rfl, rfl⟩
  refine ⟨handled_of_schedule (hd.wellFiled_of_run _) _ _ _ _ _, ?_, ?_, ?_⟩
  · decide +kernel
  · decide +kernel
  · decide +kernel

end Daemon

end Twilight
