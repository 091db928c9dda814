import Twilight.Proofs.Daemon.Exchanges
import Twilight.Proofs.Daemon.Slots

namespace Twilight

/-!
# Restarting is scheduling again

Restarting arms the new pair before it cancels the old one, and scheduling does it the other way
round. Since the old numbers were given out before, neither the records nor the alarm service tell
them apart.

* `Daemon.scheduleAll` — schedule records again, one after the other.
* `Daemon.rearm_eq_schedule` — restarting a record is scheduling it again;
  `Daemon.rearmAll_eq_scheduleAll`, restarting records as they were seen is scheduling each of them
  again.
* `Daemon.repeats_of_restart` — so it is for one user and for all, whichever calls to arm fail.
-/

open Time

namespace Daemon

variable {h : Hooks} {d d₁ d₂ : Daemon} {user : UserId} {record : TimerRecord}

/-- Schedule the windows and actions of records again, in order; the first failure. -/
def scheduleAll (h : Hooks) : List (UserId × TimerRecord) → Act (Option Fault)
  | [] => pure none
  | (user, record) :: rest => do
    let result ← schedule h user record.window record.actions
    let later ← scheduleAll h rest
    pure (faultOf? result <|> later)

/-! ### One record -/

/-- The record is the user's, its window is valid, and its numbers were given out. -/
structure Stands (d : Daemon) (user : UserId) (record : TimerRecord) : Prop where
  found : d.timers.get? user = some record
  valid : record.window.valid = true
  issued : ∀ i : Nat, i ∈ record.ids → i ≤ d.alarms.lastId

/-- Each record of a daemon that is `WellFiled` stands for its user. -/
theorem WellFiled.stands (hd : WellFiled d) (hr : d.timers.get? user = some record) :
    Stands d user record :=
  ⟨hr, hd.valid user record hr, fun _ hi => hd.issued_of_mem (mem_idsOf.2 ⟨record, hr, hi⟩)⟩

/-- Whether the old pair is cancelled before or after the new one is armed, the same comes of it. -/
theorem refreshRecord_eq_replaceRecord (hc : d.alarms.Cancels) (hs : Stands d user record)
    (hj : Logged d d₁) (triggers : Pair Moment) :
    ((refreshRecord .quiet user record triggers).on d₁).1 =
        ((replaceRecord .quiet user record.window record.actions triggers).on d).1 ∧
      Logged ((replaceRecord .quiet user record.window record.actions triggers).on d).2
        ((refreshRecord .quiet user record triggers).on d₁).2 := by
  obtain ⟨j₀, rfl⟩ := hj
  obtain ⟨j₁, hreplace⟩ := replaceRecord_quiet user record.window record.actions triggers d
  obtain ⟨j₂, hrefresh⟩ := refreshRecord_quiet (d := { d with journal := j₀ }) hs.found triggers
  have hids : d.idsOf user = record.ids := by simp [idsOf, hs.found]
  -- the old numbers were given out before, so the calls can change places
  have hplaces := d.alarms.armBoth_cancelEach (.once triggers.start record.actions.start)
    (.once triggers.finish record.actions.finish) record.ids hs.issued
  rw [hreplace, hrefresh]
  unfold refilled emptied
  rw [hids, hplaces]
  refine ⟨?_, j₂, rfl⟩
  -- no call to cancel fails on either way
  have hlater : (d.alarms.armBoth (.once triggers.start record.actions.start)
      (.once triggers.finish record.actions.finish)).2.Cancels := fun call => by
    rw [AlarmService.cancelFails_armBoth]
    exact hc call
  rw [AlarmService.cancelFaults_of_cancels _ hc, AlarmService.cancelFaults_of_cancels _ hlater,
    List.append_nil, List.nil_append]

/-- Restarting a record is scheduling it again; lines logged before make no difference. -/
theorem rearm_eq_schedule (hc : d.alarms.Cancels) (hs : Stands d user record) (hj : Logged d d₁) :
    ((rearm .quiet user record).on d₁).1 =
        ((schedule .quiet user record.window record.actions).on d).1 ∧
      Logged ((schedule .quiet user record.window record.actions).on d).2
        ((rearm .quiet user record).on d₁).2 := by
  have hlog := schedule_of_valid (h := .quiet) (d := d) user record.actions hs.valid
  -- the lines that were logged meanwhile do not move the clock
  have hsame : d₁.zone = d.zone ∧ d₁.clock = d.clock := by
    obtain ⟨_, rfl⟩ := hj
    exact ⟨rfl, rfl⟩
  rw [schedule_answer _ hs.valid]
  cases ho : record.window.occurrences d.zone d.clock with
  | error f =>
    have ho₁ : record.window.occurrences d₁.zone d₁.clock = .error f := by
      rw [hsame.1, hsame.2, ho]
    rw [armRecord_of_error ho] at hlog ⊢
    rw [rearm_of_error ho₁]
    exact ⟨rfl, hlog.symm.trans hj⟩
  | ok triggers =>
    have ho₁ : record.window.occurrences d₁.zone d₁.clock = .ok triggers := by
      rw [hsame.1, hsame.2, ho]
    obtain ⟨hanswer, hstate⟩ := refreshRecord_eq_replaceRecord hc hs hj triggers
    rw [armRecord_of_ok ho] at hlog ⊢
    rw [rearm_of_ok ho₁]
    exact ⟨hanswer, hlog.symm.trans hstate⟩

/-! ### Records as they were seen -/

/-- What `Stands` for another user still does after `schedule`. -/
theorem Stands.schedule {other : UserId} {r : TimerRecord} (hs : Stands d other r)
    (hc : d.alarms.Cancels) (hne : other ≠ user) (window : Window) (actions : Pair AlarmAction) :
    Stands ((schedule .quiet user window actions).on d).2 other r := by
  rcases schedule_cases (Hooks.quiet_losing False) hc user window actions with
    ⟨_, triggers, ids, _, hd⟩ | ⟨_, hlog⟩
  · refine ⟨?_, hs.valid, fun i hi => Nat.le_trans (hs.issued i hi) hd.numbers.le⟩
    rw [hd.timers, Table.get?_insert_of_ne _ hne]
    exact hs.found
  · obtain ⟨j, hj⟩ := hlog
    rw [hj]
    exact ⟨hs.found, hs.valid, hs.issued⟩

/-- After a record that could not be restarted a warning is logged, and the rest goes on. -/
theorem rearmAll_cons_on (user : UserId) (record : TimerRecord) (rest : List (UserId × TimerRecord))
    (d : Daemon) :
    ∃ d₁, Logged ((rearm h user record).on d).2 d₁ ∧
      (rearmAll h ((user, record) :: rest)).on d =
        (faultOf? ((rearm h user record).on d).1 <|> ((rearmAll h rest).on d₁).1,
          ((rearmAll h rest).on d₁).2) := by
  rw [rearmAll]
  simp only [Act.on_bind]
  cases ((rearm h user record).on d).1 with
  | ok _ => exact ⟨_, .refl _, rfl⟩
  | error f => exact ⟨_, Act.logs_warn _ _, rfl⟩

/-- `rearmAll` of records that all stand answers what `scheduleAll` does, and leaves the same daemon
    but for the journal. By induction on the records. -/
theorem rearmAll_eq_scheduleAll (records : List (UserId × TimerRecord)) (hc : d.alarms.Cancels)
    (hs : ∀ p ∈ records, Stands d p.1 p.2) (hne : records.Pairwise fun p q => p.1 ≠ q.1)
    (hj : Logged d d₁) :
    ((rearmAll .quiet records).on d₁).1 = ((scheduleAll .quiet records).on d).1 ∧
      Logged ((scheduleAll .quiet records).on d).2 ((rearmAll .quiet records).on d₁).2 := by
  -- the induction is on the records as they were seen; both runs leave those further on standing
  induction records generalizing d d₁ with
  | nil => exact ⟨rfl, hj⟩
  | cons p rest ih =>
    obtain ⟨user, record⟩ := p
    obtain ⟨hfirst, hrest⟩ := List.pairwise_cons.1 hne
    obtain ⟨hanswer, hstate⟩ := rearm_eq_schedule hc (hs (user, record) List.mem_cons_self) hj
    obtain ⟨d₂, hlog, he⟩ := rearmAll_cons_on (h := .quiet) user record rest d₁
    have hcancels := (schedule_reports user record.window record.actions d).cancels hc
    obtain ⟨hanswers, hstates⟩ := ih hcancels
      (fun q hq => (hs q (List.mem_cons_of_mem _ hq)).schedule hc (Ne.symm (hfirst q hq)) _ _)
      hrest (hstate.trans hlog)
    rw [he, hanswer, hanswers]
    exact ⟨rfl, hstates⟩

/-! ### One user, and all of them -/

/-- Restarting is scheduling again, up to the journal. -/
structure Repeats (d : Daemon) : Prop where
  /-- A user's record is scheduled again, and the same failure is answered. -/
  one : ∀ user record, user ≠ noUser → d.timers.get? user = some record →
    ((restart .quiet user).on d).1 =
        ((schedule .quiet user record.window record.actions).on d).1.map (fun _ => true) ∧
      Logged ((schedule .quiet user record.window record.actions).on d).2
        ((restart .quiet user).on d).2
  /-- Without a record of the user nothing happens. -/
  absent : ∀ user, user ≠ noUser → d.timers.get? user = none →
    ((restart .quiet user).on d).1 = .ok false ∧ Logged d ((restart .quiet user).on d).2
  /-- Every record is scheduled again, and the first failure is answered. -/
  all : d.timers.entries ≠ [] →
    ((restartAll .quiet).on d).1 =
        (settle ((scheduleAll .quiet d.timers.entries).on d).1).map (fun _ => true) ∧
      Logged ((scheduleAll .quiet d.timers.entries).on d).2 ((restartAll .quiet).on d).2
  /-- That is done in the order of the users. -/
  ascending : d.timers.entries.Pairwise fun p q => p.1 < q.1
  /-- Without records nothing happens at all. -/
  nobody : d.timers.entries = [] → (restartAll .quiet).on d = (.ok false, d)
  /-- No user stands for all of them. -/
  everybody : restart .quiet noUser = restartAll .quiet

/-- What `restartUser` answers of a user with a record is what `rearm` does. -/
theorem restartUser_answer (hr : d.timers.get? user = some record) :
    ((restartUser h user).on d).1 = ((rearm h user record).on d).1.map (fun _ => true) := by
  unfold restartUser
  rw [Act.on_get_bind, hr]
  simp only [Act.on_bind]
  cases ((rearm h user record).on d).1 with
  | ok _ => rfl
  | error f => rfl

/-- What `restartAll` answers, if there are records, is the first failure of `rearmAll`, or that
    there was something to restart. -/
theorem restartAll_answer (hne : d.timers.entries ≠ []) :
    ((restartAll h).on d).1 =
      (settle ((rearmAll h d.timers.entries).on d).1).map (fun _ => true) := by
  unfold restartAll
  rw [Act.on_get_bind, if_neg (by simpa using hne)]
  simp only [Act.on_bind]
  cases ((rearmAll h d.timers.entries).on d).1 with
  | none => rfl
  | some f => rfl

/-- **Restarting is scheduling again.** Take any daemon whose records are well filed and of which no
    call to cancel fails, whatever the clock says, whatever became of the alarms, and whichever
    calls to arm fail. Restarting a user's timers leaves the daemon as scheduling the record's
    window and actions does, but for the journal, and answers the same failure. Restarting all
    timers is doing so for every record in ascending order. Without a record nothing happens. -/
theorem repeats_of_restart (hd : WellFiled d) (hc : d.alarms.Cancels) : Repeats d where
  one user record hu hr := by
    obtain ⟨hanswer, hstate⟩ := rearm_eq_schedule hc (hd.stands hr) (.refl d)
    unfold restart
    rw [if_neg hu, restartUser_answer hr, hanswer]
    exact ⟨rfl, hstate.trans (restartUser_of_some hr)⟩
  absent user hu hr := by
    unfold restart
    rw [if_neg hu]
    refine ⟨?_, restartUser_of_none hr⟩
    unfold restartUser
    rw [Act.on_get_bind, hr]
    rfl
  all hne := by
    -- every record stands when the first is restarted, and no restart touches another one
    have hstand : ∀ p ∈ d.timers.entries, Stands d p.1 p.2 :=
      fun p hp => hd.stands (d.timers.get?_eq_some_iff.2 hp)
    obtain ⟨hanswer, hstate⟩ := rearmAll_eq_scheduleAll d.timers.entries hc hstand
      (d.timers.sorted.imp Key.ne_of_before) (.refl d)
    rw [restartAll_answer hne, restartAll_snd, hanswer]
    exact ⟨rfl, hstate⟩
  ascending := d.timers.sorted.imp fun hlt => by simpa using hlt
  nobody hno := by
    unfold restartAll
    rw [Act.on_get_bind, hno]
    rfl
  everybody := if_pos rfl

/-- A daemon of which the second and the sixth call to arm fail. -/
def armingSome : Daemon :=
  { (default : Daemon) with alarms := { armFails := fun call => call == 1 || call == 5 } }

/-- The times from 20:00 to 06:00 and from 01:00 to 02:00 were asked for on behalf of two users. The
    first alarm got lost, and some hours later the ones due were taken out. -/
def overnight : Daemon :=
  ((runTimers .quiet
    [.schedule 100 ⟨1200, 360⟩ ⟨.script "night" .start [], .script "night" .finish []⟩,
    .schedule 101 ⟨60, 120⟩ ⟨.script "nap" .start [], .script "nap" .finish []⟩,
    .lose fun id => id == 1, .setClock 5400000000000, .takeDue]).on armingSome).2

/-- Restarting all timers meets a failure to arm for the first user, and arms both alarms for the
    second one all the same. -/
theorem repeats_of_overnight :
    Repeats overnight ∧
      faultOf? ((restartAll .quiet).on overnight).1 = some .armRejected ∧
      ((restartAll .quiet).on overnight).2.timers.entries.map (fun p => p.2.alarms) =
        [⟨some 4, none⟩, ⟨some 5, some 6⟩] := by
  have hd : armingSome.Untimed := ⟨rfl, fun _ => rfl, rfl⟩
  have hcalm : Calm overnight := calm_of_run (hd.calm fun _ => rfl) _
  refine ⟨repeats_of_restart (hd.wellFiled_of_run _) hcalm.cancels, ?_, ?_⟩
  · decide +kernel
  · decide +kernel

end Daemon

end Twilight
