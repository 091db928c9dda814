import Twilight.Proofs.Alarm.Calls
import Twilight.Proofs.Ownership

namespace Twilight

/-!
# Exchanging a user's pair

Putting a new pair of alarms in the place of an old one, described by the calls on the alarm service
that it makes, whichever of them fail.

* `Hooks.observing` — hooks that note what each call finds, and do nothing else.
* `Daemon.replaceRecord_observing` — scheduling cancels the old pair, then arms the new one.
* `Daemon.refreshRecord_quiet` — restarting arms first; nobody can tell from the alarm service.
* `Daemon.WellFiled` — no number is in two slots, all were given out, and all windows are valid: so
  it is after every run of operations on timers (`Daemon.Untimed.wellFiled_of_run`).
-/

open Time

/-! ### Noting what calls find -/

/-- Hooks that note what the calls on the alarm service find, and do nothing else. -/
def Hooks.observing (onArm onCancel : AlarmService AlarmAction → List Event) : Hooks where
  beforeArm := modify fun d => { d with events := onArm d.alarms ++ d.events }
  beforeCancel := modify fun d => { d with events := onCancel d.alarms ++ d.events }
  run _ := pure ()

/-- Who notes nothing is quiet. -/
theorem Hooks.observing_nothing : Hooks.observing (fun _ => []) (fun _ => []) = .quiet := rfl

/-- The numbers of the alarms that could be armed. -/
def slotsOf (answers : Pair (Except Fault AlarmId)) : Pair (Option AlarmId) :=
  ⟨answers.start.toOption, answers.finish.toOption⟩

/-- The failures to arm, in order. -/
def armFaults (answers : Pair (Except Fault AlarmId)) : List Fault :=
  (faultOf? answers.start).toList ++ (faultOf? answers.finish).toList

/-- The first of some faults is the first one, or else the first of the others. -/
theorem head?_toList_append (fault : Option Fault) (rest : List Fault) :
    (fault.toList ++ rest).head? = (fault <|> rest.head?) := by
  cases fault <;> rfl

/-- The first of `armFaults` is that of the first alarm, or else that of the second. -/
theorem head?_armFaults (answers : Pair (Except Fault AlarmId)) :
    (armFaults answers).head? = (faultOf? answers.start <|> faultOf? answers.finish) := by
  unfold armFaults
  rw [head?_toList_append]
  cases faultOf? answers.finish <;> rfl

/-- The first fault among some and others is the first of the former, or else of the latter. -/
theorem head?_append_orElse (faults rest : List Fault) :
    (faults ++ rest).head? = (faults.head? <|> rest.head?) := by
  cases faults <;> rfl

namespace Daemon

variable (onArm onCancel : AlarmService AlarmAction → List Event) {d d₁ : Daemon} {user : UserId}

/-- The service once each alarm of the user's record was offered to be cancelled. -/
def emptied (d : Daemon) (user : UserId) : AlarmService AlarmAction :=
  d.alarms.cancelEach (d.idsOf user)

/-- The answers to arming a pair after that, and the service afterwards. -/
def refilled (d : Daemon) (user : UserId) (triggers : Pair Moment) (actions : Pair AlarmAction) :
    Pair (Except Fault AlarmId) × AlarmService AlarmAction :=
  (d.emptied user).armBoth (.once triggers.start actions.start)
    (.once triggers.finish actions.finish)

/-- With hooks that only note, `discard` makes one call to cancel, and notes first what service it
    finds. -/
theorem discard_observing (id : AlarmId) (d : Daemon) :
    ∃ j, (discard (.observing onArm onCancel) id).on d =
      (faultOf? (d.alarms.cancel id).1, { d with
        alarms := (d.alarms.cancel id).2, events := onCancel d.alarms ++ d.events,
        journal := j }) := by
  unfold discard cancel
  simp only [Act.on_bind, Act.on_modifyGet, Hooks.observing, Act.on_modify]
  -- a failed call to cancel is warned of
  cases (d.alarms.cancel id).1 with
  | ok _ => exact ⟨d.journal, rfl⟩
  | error f => exact ⟨_, rfl⟩

/-- Every number is offered to be cancelled, whichever calls fail; the first failure is answered. -/
theorem discardAll_observing (ids : List AlarmId) (d : Daemon) :
    ∃ j, (discardAll (.observing onArm onCancel) ids).on d =
      ((d.alarms.cancelFaults ids).head?, { d with
        alarms := d.alarms.cancelEach ids
        events := (d.alarms.cancelFinds ids).reverse.flatMap onCancel ++ d.events
        journal := j }) := by
  induction ids generalizing d with
  | nil => exact ⟨d.journal, rfl⟩
  | cons id ids ih =>
    obtain ⟨j, hfirst⟩ := discard_observing onArm onCancel id d
    obtain ⟨j₁, hrest⟩ := ih { d with
      alarms := (d.alarms.cancel id).2, events := onCancel d.alarms ++ d.events, journal := j }
    refine ⟨j₁, ?_⟩
    unfold discardAll
    simp only [Act.on_bind, hfirst, hrest, Act.on_pure]
    refine Prod.ext ?_ ?_
    · exact (head?_toList_append _ _).symm
    · -- what the first call found was noted before the rest
      simp [AlarmService.cancelEach, AlarmService.cancelFinds]

/-- With hooks that only note, `armPair` makes two calls to arm, the second one on the service that
    the first one left. -/
theorem armPair_observing (triggers : Pair Moment) (actions : Pair AlarmAction) (d : Daemon) :
    let first := Alarm.once triggers.start actions.start
    let both := d.alarms.armBoth first (.once triggers.finish actions.finish)
    (armPair (.observing onArm onCancel) triggers actions).on d =
      ((slotsOf both.1, (armFaults both.1).head?), { d with
        alarms := both.2
        events := onArm (d.alarms.arm first).2 ++ (onArm d.alarms ++ d.events) }) := by
  intro first both
  rw [head?_armFaults]
  unfold armPair arm
  simp only [Act.on_bind, Act.on_modifyGet, Act.on_pure, Hooks.observing, Act.on_modify]
  rfl

/-! ### The old pair goes first -/

/-- The old pair is cancelled, each number once, and then the new one is armed. The record has
    whatever could be armed, and the first failure is answered. -/
theorem replaceRecord_observing (user : UserId) (window : Window) (actions : Pair AlarmAction)
    (triggers : Pair Moment) (d : Daemon) :
    let armed := d.refilled user triggers actions
    ∃ j, (replaceRecord (.observing onArm onCancel) user window actions triggers).on d =
      (settle (d.alarms.cancelFaults (d.idsOf user) ++ armFaults armed.1).head?, { d with
        timers := d.timers.insert user ⟨slotsOf armed.1, window, actions⟩
        alarms := armed.2
        events := onArm ((d.emptied user).arm (.once triggers.start actions.start)).2 ++
          (onArm (d.emptied user) ++
            ((d.alarms.cancelFinds (d.idsOf user)).reverse.flatMap onCancel ++ d.events))
        journal := j }) := by
  intro armed
  obtain ⟨j, hold⟩ := discardAll_observing onArm onCancel (d.idsOf user)
    { d with timers := d.timers.erase user }
  refine ⟨j, ?_⟩
  unfold replaceRecord discardRecord
  simp only [Act.on_bind, takeRecord, Act.on_modifyGet, Act.on_pure]
  rw [show ((d.timers.get? user).map TimerRecord.ids).getD [] = d.idsOf user from rfl, hold]
  simp only [armPair_observing, putRecord, Act.on_modifyGet]
  -- without a record of the user there is none that could be displaced
  have hdisplaced : (d.timers.erase user).get? user = none := Table.get?_erase_self _ _
  have hinsert : ∀ r, (d.timers.erase user).insert user r = d.timers.insert user r := by
    intro r
    apply Table.ext_get
    intro other
    by_cases ho : other = user <;> simp [Table.get?_insert, Table.get?_erase, ho]
  rw [hdisplaced, hinsert]
  refine Prod.ext ?_ rfl
  simp only [Option.map_none, Option.getD_none, discardAll, Act.on_pure]
  rw [head?_append_orElse]
  show settle (_ <|> (_ <|> none)) = _
  simp [armed, refilled, emptied]

/-- The events that nobody notes. -/
theorem flatMap_nothing (finds : List (AlarmService AlarmAction)) (events : List Event) :
    (finds.flatMap fun _ => []) ++ events = events := by simp

/-- Replacing a record empties its slots, arms the pair, and files what could be armed: the service
    ends as `refilled` says. -/
theorem replaceRecord_quiet (user : UserId) (window : Window) (actions : Pair AlarmAction)
    (triggers : Pair Moment) (d : Daemon) :
    let armed := d.refilled user triggers actions
    ∃ j, (replaceRecord .quiet user window actions triggers).on d =
      (settle (d.alarms.cancelFaults (d.idsOf user) ++ armFaults armed.1).head?, { d with
        timers := d.timers.insert user ⟨slotsOf armed.1, window, actions⟩
        alarms := armed.2
        journal := j }) := by
  obtain ⟨j, he⟩ := replaceRecord_observing (fun _ => []) (fun _ => []) user window actions
    triggers d
  rw [flatMap_nothing, Hooks.observing_nothing] at he
  exact ⟨j, he⟩

/-- What arming a record came to is answered, after a line about it. -/
theorem schedule_answer (h : Hooks) {window : Window} (hv : window.valid = true)
    (actions : Pair AlarmAction) :
    ((schedule h user window actions).on d).1 = ((armRecord h user window actions).on d).1 := by
  unfold schedule
  rw [if_pos hv]
  simp only [Act.on_bind]
  cases ((armRecord h user window actions).on d).1 with
  | ok _ => rfl
  | error f => rfl

/-! ### The new pair goes first -/

/-- Discarding numbers makes a call to cancel for each in order, and the first fault among these is
    the answer. -/
theorem discardAll_quiet (ids : List AlarmId) (d : Daemon) :
    ∃ j, (discardAll .quiet ids).on d = ((d.alarms.cancelFaults ids).head?, { d with
      alarms := d.alarms.cancelEach ids, journal := j }) := by
  obtain ⟨j, he⟩ := discardAll_observing (fun _ => []) (fun _ => []) ids d
  rw [flatMap_nothing, Hooks.observing_nothing] at he
  exact ⟨j, he⟩

/-- As long as the record is the one that was seen, the new pair is armed, swapped in, and then the
    old one is cancelled. -/
theorem refreshRecord_quiet {record : TimerRecord} (hr : d.timers.get? user = some record)
    (triggers : Pair Moment) :
    let both := d.alarms.armBoth (.once triggers.start record.actions.start)
      (.once triggers.finish record.actions.finish)
    ∃ j, (refreshRecord .quiet user record triggers).on d =
      (settle (armFaults both.1 ++ both.2.cancelFaults record.ids).head?, { d with
        timers := d.timers.insert user { record with alarms := slotsOf both.1 }
        alarms := both.2.cancelEach record.ids
        journal := j }) := by
  intro both
  obtain ⟨j, hold⟩ := discardAll_quiet record.ids { d with
    timers := d.timers.insert user { record with alarms := slotsOf both.1 }
    alarms := both.2 }
  -- the new pair is armed before the old one is discarded
  have harmed : (armPair .quiet triggers record.actions).on d =
      ((slotsOf both.1, (armFaults both.1).head?), { d with alarms := both.2 }) :=
    armPair_observing (fun _ => []) (fun _ => []) triggers record.actions d
  refine ⟨j, ?_⟩
  unfold refreshRecord
  simp only [Act.on_bind, harmed, swapPair, Act.on_modifyGet, hr, if_true, Option.isNone_some,
    Bool.false_eq_true, if_false, Option.getD_some]
  rw [show pairIds record.alarms = record.ids from rfl, head?_append_orElse]
  simp only [hold, Act.on_pure]

/-! ### What is always so -/

/-- No number is in two slots, all of them were given out, and all windows are valid. -/
structure WellFiled (d : Daemon) : Prop where
  nodup : ((filed d.timers).map (·.1)).Nodup
  issued : ∀ p ∈ filed d.timers, p.1 ≤ d.alarms.lastId
  valid : ∀ user r, d.timers.get? user = some r → r.window.valid = true

/-- The numbers in a user's slots are those that `filed` lists with this user. -/
theorem mem_idsOf_iff {i : AlarmId} : i ∈ d.idsOf user ↔ (i, user) ∈ filed d.timers := by
  rw [mem_idsOf, mem_filed]

namespace WellFiled

variable (hd : WellFiled d)
include hd

/-- In a daemon that is well filed, a number in a user's slots was given out. -/
theorem issued_of_mem {i : Nat} (hi : i ∈ d.idsOf user) : i ≤ d.alarms.lastId :=
  hd.issued (i, user) (mem_idsOf_iff.1 hi)

/-- In a daemon that is `WellFiled`, the two numbers of a record are different. -/
theorem nodup_idsOf (user : UserId) : (d.idsOf user).Nodup := by
  have hall := hd.nodup
  rw [((filed_perm_erase d.timers user).map (·.1)).nodup_iff, List.map_append] at hall
  have hown := hall.of_append_left
  show (recordIds (d.timers.get? user)).Nodup
  simpa [heldFor, Function.comp_def] using hown

/-- In a daemon that is `WellFiled`, no number stands in the records of two users. -/
theorem not_mem_idsOf {other : UserId} (hne : other ≠ user) {i : AlarmId}
    (hi : i ∈ d.idsOf other) : i ∉ d.idsOf user := by
  intro hi'
  have hsame := List.inj_on_of_nodup_map hd.nodup (mem_idsOf_iff.1 hi) (mem_idsOf_iff.1 hi') rfl
  exact hne (congrArg Prod.snd hsame)

end WellFiled

/-- All windows of some records are valid. -/
def ValidWindows (t : Table UserId TimerRecord) : Prop :=
  ∀ user r, t.get? user = some r → r.window.valid = true

/-- `ValidWindows` is about the records alone, which logging lines leaves as they are. -/
theorem ValidWindows.logged (hd : ValidWindows d.timers) (hlog : Logged d d₁) :
    ValidWindows d₁.timers := by
  rw [hlog.delivered.timers]
  exact hd

/-- Scheduling a window that is not valid is refused, so all windows of records stay valid. -/
theorem schedule_validWindows (hd : ValidWindows d.timers) (user : UserId) (window : Window)
    (actions : Pair AlarmAction) :
    ValidWindows ((schedule .quiet user window actions).on d).2.timers := by
  by_cases hv : window.valid = true
  · have hlog := schedule_of_valid (h := .quiet) (d := d) user actions hv
    cases ho : window.occurrences d.zone d.clock with
    | error f =>
      rw [armRecord_of_error ho] at hlog
      exact hd.logged hlog
    | ok triggers =>
      rw [armRecord_of_ok ho] at hlog
      obtain ⟨j, he⟩ := replaceRecord_quiet user window actions triggers d
      rw [he] at hlog
      refine ValidWindows.logged ?_ hlog
      exact Table.forall_insert (P := fun _ (r : TimerRecord) => r.window.valid = true) hv hd
  · rw [schedule_of_not_valid hv]
    exact hd

/-- `refreshRecord` keeps `ValidWindows`, whether or not the new pair is swapped in. -/
theorem refreshRecord_validWindows (hd : ValidWindows d.timers) (user : UserId)
    (record : TimerRecord) (triggers : Pair Moment) :
    ValidWindows ((refreshRecord .quiet user record triggers).on d).2.timers := by
  have harmed : ((armPair .quiet triggers record.actions).on d).2.timers = d.timers := rfl
  unfold refreshRecord
  simp only [Act.on_bind]
  generalize (armPair .quiet triggers record.actions).on d = armed at harmed
  obtain ⟨⟨fresh, onArm⟩, d₁⟩ := armed
  simp only [swapPair, Act.on_modifyGet]
  rw [← harmed] at hd
  cases hlive : d₁.timers.get? user with
  | none =>
    simp only [Act.on_bind, Act.on_pure, discardAll_timers, Option.isNone_none, if_true]
    exact hd
  | some live =>
    by_cases hsame : live.alarms = record.alarms
    · -- the pair is swapped into the record that is live, and its window stays
      simp only [if_pos hsame, Act.on_bind, Act.on_pure, discardAll_timers, Option.isNone_some,
        Bool.false_eq_true, if_false]
      exact Table.forall_insert (P := fun _ (r : TimerRecord) => r.window.valid = true)
        (hd user live hlive) hd
    · simp only [if_neg hsame, Act.on_bind, Act.on_pure, discardAll_timers, Option.isNone_none,
        if_true]
      exact hd

/-- `rearm` keeps `ValidWindows`, since the window stays what it is. -/
theorem rearm_validWindows (hd : ValidWindows d.timers) (user : UserId) (record : TimerRecord) :
    ValidWindows ((rearm .quiet user record).on d).2.timers := by
  cases ho : record.window.occurrences d.zone d.clock with
  | error f =>
    rw [rearm_of_error ho]
    exact hd
  | ok triggers =>
    rw [rearm_of_ok ho]
    exact refreshRecord_validWindows hd user record triggers

/-- `rearmAll` keeps `ValidWindows`. By induction on the records. -/
theorem rearmAll_validWindows (records : List (UserId × TimerRecord))
    (hd : ValidWindows d.timers) : ValidWindows ((rearmAll .quiet records).on d).2.timers := by
  induction records generalizing d with
  | nil => exact hd
  | cons p rest ih =>
    obtain ⟨user, record⟩ := p
    obtain ⟨d₁, hlog, he⟩ := rearmAll_cons (h := .quiet) user record rest d
    rw [he]
    exact ih ((rearm_validWindows hd user record).logged hlog)

/-- So does `restartAll`, which arms all of them. -/
theorem restartAll_validWindows (hd : ValidWindows d.timers) :
    ValidWindows ((restartAll .quiet).on d).2.timers := by
  rw [restartAll_snd]
  exact rearmAll_validWindows _ hd

/-- So does `restart`, which arms the record of one user if there is one. -/
theorem restart_validWindows (hd : ValidWindows d.timers) (user : UserId) :
    ValidWindows ((restart .quiet user).on d).2.timers := by
  unfold restart
  by_cases hu : user = noUser
  · rw [if_pos hu]
    exact restartAll_validWindows hd
  · rw [if_neg hu]
    cases hr : d.timers.get? user with
    | none => exact hd.logged (restartUser_of_none hr)
    | some record => exact (rearm_validWindows hd user record).logged (restartUser_of_some hr)

/-- Cancelling the alarms of records by `discardRecords` touches no record itself. -/
theorem discardRecords_timers (records : List TimerRecord) (d : Daemon) :
    ((discardRecords .quiet records).on d).2.timers = d.timers := by
  induction records generalizing d with
  | nil => rfl
  | cons record rest ih => exact (ih _).trans (discardAll_timers record.ids d)

/-- Every operation keeps `ValidWindows`: scheduling refuses other windows, and nothing else brings
    new ones. -/
theorem validWindows_perform (hd : ValidWindows d.timers) (op : TimerOperation) :
    ValidWindows ((op.perform .quiet).on d).2.timers := by
  cases op with
  | schedule user window actions => exact schedule_validWindows hd user window actions
  | clear user =>
    show ValidWindows ((clearTimers .quiet user).on d).2.timers
    rw [clearTimers_timers]
    exact Table.forall_erase (P := fun _ (r : TimerRecord) => r.window.valid = true) user hd
  | clearAll =>
    show ValidWindows ((discardRecords .quiet d.timers.values).on { d with timers := {} }).2.timers
    rw [discardRecords_timers]
    intro user r hr
    contradiction
  | restart user => exact restart_validWindows hd user
  | restartAll => exact restartAll_validWindows hd
  | setClock nanos => exact hd
  | takeDue => exact hd
  | lose gone => exact hd

/-- Whatever is run on an `Untimed` daemon leaves it `WellFiled`. -/
theorem Untimed.wellFiled_of_run (hd : d.Untimed) (ops : List TimerOperation) :
    WellFiled ((runTimers .quiet ops).on d).2 := by
  have hledger := hd.ledger_of_run ops
  refine ⟨by simpa using hledger.nodup, fun p hp => hledger.issued p (by simpa using hp), ?_⟩
  have hstart : ValidWindows d.timers := by
    rw [hd.timers]
    intro user r hr
    contradiction
  clear hledger hd
  induction ops generalizing d with
  | nil => exact hstart
  | cons op rest ih => exact ih (validWindows_perform hstart op)

end Daemon

end Twilight
