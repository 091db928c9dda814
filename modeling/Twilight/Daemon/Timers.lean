import Twilight.Daemon.Basic
import Twilight.Occurrence

namespace Twilight

/-!
# Timers of users

Every user has at most one record: the pair of alarms for the bounds of a window.

* `Daemon.schedule` — arm a user's pair in the place of the one before.
* `Daemon.rearm`, `Daemon.restart`, `Daemon.restartAll` — arm a new pair for the window of a record,
  and swap it in unless the record's pair changed meanwhile.
* `Daemon.clearTimers`, `Daemon.clearAllTimers` — cancel pairs and forget their records.

The alarms are armed and cancelled one after the other; a failure stops none of the others, and the
first one is reported.
-/

open Time

namespace Daemon

/-! ### Single alarms -/

/-- Arm an alarm. -/
def arm (h : Hooks) (a : Alarm AlarmAction) : Act (Except Fault AlarmId) := do
  h.beforeArm
  modifyGet fun d => let (result, alarms) := d.alarms.arm a; (result, { d with alarms := alarms })

/-- Cancel an alarm. -/
def cancel (h : Hooks) (id : AlarmId) : Act (Except Fault Unit) := do
  h.beforeCancel
  modifyGet fun d =>
    let (result, alarms) := d.alarms.cancel id; (result, { d with alarms := alarms })

/-- Cancel an alarm that is no longer wanted, and warn of a failure. -/
def discard (h : Hooks) (id : AlarmId) : Act (Option Fault) := do
  match ← cancel h id with
  | .ok _ => pure none
  | .error f =>
    warn s!"Failed to cancel alarm {alarmName id}: {f.message}"
    pure (some f)

/-- Cancel alarms in order; the first failure. -/
def discardAll (h : Hooks) : List AlarmId → Act (Option Fault)
  | [] => pure none
  | id :: ids => do
    let first ← discard h id
    let later ← discardAll h ids
    pure (first <|> later)

/-- Cancel the alarms of a record, if there is one. -/
def discardRecord (h : Hooks) (record : Option TimerRecord) : Act (Option Fault) :=
  discardAll h ((record.map TimerRecord.ids).getD [])

/-- Arm both alarms of a pair; those that could be armed, and the first failure. -/
def armPair (h : Hooks) (triggers : Pair Moment) (actions : Pair AlarmAction) :
    Act (Pair (Option AlarmId) × Option Fault) := do
  let start ← arm h (.once triggers.start actions.start)
  let finish ← arm h (.once triggers.finish actions.finish)
  pure (⟨start.toOption, finish.toOption⟩, faultOf? start <|> faultOf? finish)

/-! ### Records -/

/-- Take a user's record out. -/
def takeRecord (user : UserId) : Act (Option TimerRecord) :=
  modifyGet fun d => (d.timers.get? user, { d with timers := d.timers.erase user })

/-- Put a record in; the one that it displaces. -/
def putRecord (user : UserId) (record : TimerRecord) : Act (Option TimerRecord) :=
  modifyGet fun d => (d.timers.get? user, { d with timers := d.timers.insert user record })

/-- Swap in the alarms of a new pair, if the user still has the pair `expected`; the alarms that
    are left over. -/
def swapPair (user : UserId) (expected fresh : Pair (Option AlarmId)) :
    Act (Option (Pair (Option AlarmId))) :=
  modifyGet fun d =>
    match d.timers.get? user with
    | some live =>
      if live.alarms = expected then
        (some live.alarms, { d with timers := d.timers.insert user { live with alarms := fresh } })
      else (none, d)
    | none => (none, d)

/-- The next occurrences of a window's bounds. -/
def triggers (window : Window) : Act (Except Fault (Pair Moment)) := do
  let d ← get
  pure (window.occurrences d.zone d.clock)

/-- Cancel the user's old pair, arm a new one, and record it with whatever could be armed. -/
def replaceRecord (h : Hooks) (user : UserId) (window : Window) (actions : Pair AlarmAction)
    (triggers : Pair Moment) : Act (Except Fault Unit) := do
  -- The old pair goes first, so that the user never has more than two alarms pending.
  let old ← takeRecord user
  let onOld ← discardRecord h old
  let (alarms, onArm) ← armPair h triggers actions
  let displaced ← putRecord user ⟨alarms, window, actions⟩
  let onDisplaced ← discardRecord h displaced
  pure (settle (onOld <|> onArm <|> onDisplaced))

/-- Arm a pair for a window whose bounds are minutes of the day. Without next occurrences nothing
    changes. -/
def armRecord (h : Hooks) (user : UserId) (window : Window) (actions : Pair AlarmAction) :
    Act (Except Fault Unit) := do
  match ← triggers window with
  | .error f => pure (.error f)
  | .ok triggers => replaceRecord h user window actions triggers

/-- Arm a user's pair of alarms for a window, in the place of the one before. -/
def schedule (h : Hooks) (user : UserId) (window : Window) (actions : Pair AlarmAction) :
    Act (Except Fault Unit) := do
  if window.valid then
    let result ← armRecord h user window actions
    match result with
    | .ok _ => debug s!"Scheduled window {window.text} for user {user}"
    | .error f => warn s!"Scheduling for user {user} incomplete: {f.message}"
    pure result
  else pure (.error (.scheduleOutOfRange ⟨user, window⟩))

/-! ### Restarting -/

/-- Arm a new pair for a record as it was seen, and swap it in. If the user's pair is another one
    by now, the new pair is dropped again. -/
def refreshRecord (h : Hooks) (user : UserId) (record : TimerRecord) (triggers : Pair Moment) :
    Act (Except Fault Unit) := do
  -- The record stays in while the new pair is armed; whoever replaces it meanwhile wins.
  let (alarms, onArm) ← armPair h triggers record.actions
  let replaced ← swapPair user record.alarms alarms
  if replaced.isNone then
    debug s!"Timers for user {user} changed during restart, dropping new pair"
  let onCancel ← discardAll h (pairIds (replaced.getD alarms))
  pure (settle (onArm <|> onCancel))

/-- Arm a new pair for the window of a record as it was seen. -/
def rearm (h : Hooks) (user : UserId) (record : TimerRecord) : Act (Except Fault Unit) := do
  match ← triggers record.window with
  | .error f => pure (.error f)
  | .ok triggers => refreshRecord h user record triggers

/-- Restart the records of users as they were seen; the first failure. -/
def rearmAll (h : Hooks) : List (UserId × TimerRecord) → Act (Option Fault)
  | [] => pure none
  | (user, record) :: rest => do
    let result ← rearm h user record
    if let .error f := result then
      warn s!"Failed to restart timers for user {user}: {f.message}"
    let later ← rearmAll h rest
    pure (faultOf? result <|> later)

/-- Restart every record; whether there was one. -/
def restartAll (h : Hooks) : Act (Except Fault Bool) := do
  let seen := (← get).timers.entries
  if seen.isEmpty then pure (.ok false)
  else
    match ← rearmAll h seen with
    | some f => pure (.error f)
    | none => pure (.ok true)

/-- Restart the record of a user; whether there was one. -/
def restartUser (h : Hooks) (user : UserId) : Act (Except Fault Bool) := do
  match (← get).timers.get? user with
  | none =>
    debug s!"No timers to restart for user {user}"
    pure (.ok false)
  | some record =>
    match ← rearm h user record with
    | .error f => pure (.error f)
    | .ok _ =>
      debug s!"Restarted timers for user {user}"
      pure (.ok true)

/-- Restart the record of a user, or of all users for `noUser`. -/
def restart (h : Hooks) (user : UserId) : Act (Except Fault Bool) :=
  if user = noUser then restartAll h else restartUser h user

/-! ### Clearing -/

/-- Cancel a user's alarms and forget the record. -/
def clearTimers (h : Hooks) (user : UserId) : Act (Except Fault Unit) := do
  match ← takeRecord user with
  | none => pure (.ok ())
  | some record =>
    let failure ← discardAll h record.ids
    debug s!"Cleared timers for user {user}"
    pure (settle failure)

/-- Take every record out. -/
def takeRecords : Act (List TimerRecord) :=
  modifyGet fun d => (d.timers.values, { d with timers := {} })

/-- Cancel the alarms of records in order; the first failure. -/
def discardRecords (h : Hooks) : List TimerRecord → Act (Option Fault)
  | [] => pure none
  | record :: rest => do
    let first ← discardAll h record.ids
    let later ← discardRecords h rest
    pure (first <|> later)

/-- Cancel every user's alarms and forget the records. -/
def clearAllTimers (h : Hooks) : Act (Except Fault Unit) := do
  let records ← takeRecords
  pure (settle (← discardRecords h records))

/-! ### Views -/

/-- The timers of every user. -/
def timerViews (d : Daemon) : List TimerView :=
  d.timers.entries.map fun (user, record) => ⟨user, record.window, record.alarms⟩

/-- Whether the wall clock is inside a window now. -/
def isInside (window : Window) : Act Bool := do
  pure (window.containsMoment (← get).clock)

end Daemon

end Twilight
