import Twilight.Daemon.Locks
import Twilight.Daemon.Startup

namespace Twilight

/-!
# Performing steps

* `ClockStep.perform`, `TimerStep.perform`, … — one group of steps each.
* `Step.perform` — any step, with what happens inside it given by hooks.
* `Hooks.running` — the hooks of a scenario: scripts set beforehand run before the next call on the
  alarm service.
* `runNested` — run the script of a callback. Callbacks nest at most `nestingLimit` deep; a callback
  beyond that does nothing.
-/

open Daemon Time

/-- The answer of a call that may be refused. -/
def answerWith {α : Type} (answer : α → Answer) : Except Fault α → Answer
  | .ok a => .done (answer a)
  | .error f => .refused f

/-- The answer of a call without a value. -/
def answerUnit (result : Except Fault Unit) : Answer := answerWith (fun _ => .nothing) result

/-- The answer of a call that fails with a chain of messages. -/
def answerChain {ε α : Type} (chain : ε → List String) (answer : α → Answer) :
    Except ε α → Answer
  | .ok a => .done (answer a)
  | .error e => .failed (chain e)

/-! ### Clock -/

namespace ClockStep

/-- Set the clock. -/
def setClock (moment : Moment) : Act Unit := modify fun d => { d with clock := moment }

/-- Where a step puts the clock of a daemon. A reading that the wall clock never shows leaves it
    alone. -/
def target (d : Daemon) : ClockStep → Moment
  | .set nanos => .ofNanos d.zone nanos
  | .advance seconds => d.clock.after d.zone (seconds * nanosPerSecond)
  | .timeOfDay hour minute =>
    let reading := d.clock.day * secondsPerDay + hour * 3600 + minute * 60
    (Moment.ofReading? d.zone reading).getD d.clock
  | .now => d.clock

def perform (step : ClockStep) : Act Answer := do
  let moment := step.target (← get)
  setClock moment
  pure (.moment moment)

end ClockStep

/-! ### Alarms -/

/-- Change the alarm service. -/
def modifyAlarms (f : AlarmService AlarmAction → AlarmService AlarmAction) : Act Unit :=
  modify fun d => { d with alarms := f d.alarms }

def AlarmStep.perform (h : Hooks) : AlarmStep Step → Act Answer
  | .fire => do return .number (← fireDue h)
  | .failAfter n => do
    modifyAlarms fun s => s.failArmsAfter n
    return .nothing
  | .failCancels n => do
    modifyAlarms fun s => s.failCancels n
    return .nothing
  | .drop => do
    modifyAlarms AlarmService.dropAll
    return .nothing
  | .count => do return .number (← get).alarms.pendingCount
  | .replay id => do
    match (← get).alarms.armed.get? id with
    | none => return .flag false
    | some action =>
      Daemon.fire h action
      return .flag true
  | .cancel id => do return answerUnit (← Daemon.cancel h id)
  | .onArm script => do
    modify fun d => { d with onArm := some script }
    return .nothing
  | .onCancel script => do
    modify fun d => { d with onCancel := some script }
    return .nothing

/-! ### Timers -/

def TimerStep.perform (h : Hooks) : TimerStep Step → Act Answer
  | .schedule window user label onStart onFinish => do
    let actions : Pair AlarmAction := ⟨.script label .start onStart, .script label .finish onFinish⟩
    return answerUnit (← Daemon.schedule h user window actions)
  | .valid window => return .flag window.valid
  | .within window => do return .flag (← isInside window)
  | .has user => do return .flag ((← get).timers.contains user)
  | .clear user => do return answerUnit (← clearTimers h user)
  | .clearAll => do return answerUnit (← clearAllTimers h)
  | .restart user => do return answerWith .flag (← Daemon.restart h user)
  | .restartAll => do return answerWith .flag (← Daemon.restartAll h)
  | .setup user => do return .window (((← get).timers.get? user).map fun r => r.window)
  | .snapshot => do return .timers (← get).timerViews
  | .shared => return .flag true

/-! ### Settings -/

/-- Read a value from the settings file as somebody else would. -/
def readAfresh (path key : String) (user : UserId) : Act (Except Fault Int) := do
  match readSettings? (← get).files path with
  | .error f => pure (.error f)
  | .ok reading =>
    warnIgnored reading.ignored
    pure (reading.table.getInt key user)

/-- Everything logged in the current step, which counts as its answer then. -/
def takeLog : Act String :=
  modifyGet fun d => (d.journal.text, { d with journal := d.journal.clear })

def SettingsStep.perform (h : Hooks) : SettingsStep Step → Act Answer
  | .put key value user => do return answerUnit (← putSetting h key value user)
  | .read key user => do return answerWith .number ((← get).settings.getInt key user)
  | .raw key user => do return .optionalText ((← get).settings.values.value? key user)
  | .count => do return .number (← get).settings.observers.size
  | .ready => do return .flag (← get).settings.faults.ready
  | .observe key user label script => do
    let result ← modifyGet fun d =>
      let (result, settings) := d.settings.observe key user (.script label script)
      (result, { d with settings := settings })
    return answerUnit result
  | .unobserve key user => do
    let result ← modifyGet fun d =>
      let (result, settings) := d.settings.unobserve key user
      (result, { d with settings := settings })
    return answerUnit result
  | .faults change => do
    modifySettings fun s => { s with faults := s.faults.changed change }
    return .nothing
  | .reload => do
    let result ← Daemon.reload h ((← get).settings.file.getD "")
    return answerWith (fun n => .number n) result
  | .path => do return .optionalText (← get).settings.file
  | .reopen key user => do
    let path := (← get).settings.file.getD ""
    return answerWith .number (← readAfresh path key user)
  | .watch => do
    let result ← watchSettings ((← get).settings.file.getD "")
    return answerChain WatchProblem.chain (fun _ => .nothing) result
  | .wait => do
    noticeEdits h
    return .nothing
  | .unwatch => do
    let watched := (← get).watch.isSome
    modify fun d => { d with watch := none }
    return .flag watched
  | .awaitLog text => do
    -- Every log holds the empty text, so nothing has to happen first.
    if text ≠ "" then noticeEdits h
    return .logged (← takeLog)

/-! ### The manager -/

def ManagerStep.perform (h : Hooks) : ManagerStep Step → Act Answer
  | .install applies => do
    Daemon.install { applies := applies, reports := true }
    return .done .nothing
  | .onUpdate script => do
    modify fun d => { d with onUpdate := script }
    return .nothing
  | .switch user => do return answerUnit (← switchUser h user)
  | .load user notify => do return answerWith .flag (← Daemon.load h user notify)
  | .change user notify => do return answerWith .flag (← reevaluate h user notify)
  | .observed user dark => do return answerUnit (← reconcile h user dark)
  | .restart => do return answerWith .flag (← resync h)
  | .active => do return .number (← get).manager.active
  | .state user => do return .state ((← get).manager.states.get? user)
  | .request user => do return .request ((← get).liveRequest? user)
  | .dump => do return .snapshot (← Daemon.dump)
  | .updates => do return .updates (← get).updates.reverse
  | .forgetUpdates => do
    modify fun d => { d with updates := [] }
    return .nothing

/-! ### Appearance -/

def AppearanceStep.perform : AppearanceStep → Act Answer
  | .setMode m => do return answerUnit (← Daemon.setMode m)
  | .setScale item value => do return answerUnit (← Daemon.setScale item value)
  | .restore => do return answerUnit (← Daemon.restore)
  | .mode => do return answerWith .mode (← getMode)
  | .scale item => do return answerWith .text (← getScale item)
  | .apply dark user => do
    applyStatus dark user
    return .nothing
  | .grant granted => do
    modifyAppearance fun a => { a with permitted := granted }
    return .nothing
  | .update item value => do return answerUnit (← updateConfiguration item value)
  | .read item => do
    return answerWith .text ((← get).appearance.configuration.get item)
  | .itemName item => return .text item.name
  | .configurationFaults onUpdate onGet => do
    modifyAppearance fun a => { a with configuration := { a.configuration with
      failsUpdate := .const onUpdate, failsGet := .const onGet } }
    return .nothing
  | .parameter key fallback => do
    return answerWith .text ((← get).appearance.parameters.get key fallback)
  | .setParameter key value => do return answerUnit (← Daemon.setParameter key value)
  | .parameterFaults onGet onSet => do
    modifyAppearance fun a => { a with parameters := { a.parameters with
      failsGet := fun _ => onGet, failsSet := fun _ => onSet } }
    return .nothing
  | .parameterPath => do return .optionalText (← get).appearance.parameters.file
  | .reopen path key fallback => do
    let parameters := Parameters.open? (← get).files path
    return answerWith .text (parameters.bind fun p => p.get key fallback)

/-! ### Files and locks -/

/-- Run an operation on the files. -/
def onFiles {α : Type} (f : FileSystem → α × FileSystem) : Act α :=
  modifyGet fun d => let (a, files) := f d.files; (a, { d with files := files })

def FileStep.perform : FileStep → Act Answer
  | .write path text => do
    return .flag (← onFiles fun fs => fs.write path (.text text)).toBool
  | .writeBytes path bytes => do
    return .flag (← onFiles fun fs => fs.write path (.ofBytes bytes)).toBool
  | .remove path => do return .flag (← onFiles fun fs => fs.removeFile path)
  | .removeDirectory path => do return .flag (← onFiles fun fs => fs.removeTree path)
  | .exists path => do return .flag ((← get).files.exists? path)
  | .read path => do return .optionalText ((← get).files.text? path)

def LockStep.perform : LockStep → Act Answer
  | .acquire label path settings => do
    return answerChain LockProblem.chain .text (← keepLock label path settings)
  | .release label => do return .flag (← dropLock label)

/-! ### Any step -/

/-- Perform a step. -/
def Step.perform (h : Hooks) : Step → Act Answer
  | .clock step => step.perform
  | .alarms step => step.perform h
  | .timers step => step.perform h
  | .settings step => step.perform h
  | .manager step => step.perform h
  | .appearance step => step.perform
  | .files step => step.perform
  | .lock step => step.perform
  | .status config => do
    return answerChain StartError.chain .snapshot (← statusOf config)

/-! ### Callbacks -/

/-- Run the script set for the next call to arm. -/
def takeOnArm (run : Script → Act Unit) : Act Unit := do
  if let some script := (← get).onArm then
    modify fun d => { d with onArm := none }
    note .arming
    run script

/-- Run the script set for the next call to cancel. -/
def takeOnCancel (run : Script → Act Unit) : Act Unit := do
  if let some script := (← get).onCancel then
    modify fun d => { d with onCancel := none }
    note .cancelling
    run script

/-- The hooks of a scenario, over what runs the script of a callback. -/
def Hooks.running (run : Script → Act Unit) : Hooks where
  beforeArm := takeOnArm run
  beforeCancel := takeOnCancel run
  run := run

/-- Perform steps in order, and note each with its answer. -/
def performAll (h : Hooks) : Script → Act Unit
  | [] => pure ()
  | (name, step) :: rest => do
    note (.step name (← step.perform h))
    performAll h rest

/-- Run the script of a callback, in which callbacks may nest `depth` levels deep. -/
def runNested : (depth : Nat) → Script → Act Unit
  | 0, _ => pure ()
  | depth + 1, script => performAll (.running (runNested depth)) script

/-- How deep callbacks nest. -/
def nestingLimit : Nat := 3

/-- Perform a step of a scenario. -/
def Step.performOuter (step : Step) : Act Answer :=
  step.perform (.running (runNested nestingLimit))

end Twilight
