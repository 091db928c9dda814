import Twilight.CommandLine.Arguments
import Twilight.CommandLine.Pages
import Twilight.Daemon.Locks
import Twilight.Daemon.LogFile
import Twilight.Daemon.Startup

namespace Twilight.CommandLine

/-!
# Sessions

A session is one run of the program: an action, and the signals that the daemon gets while it runs.

* `startUp`, `serve`, `shutDown` — the life of the daemon.
* `runDaemon` — all of it.
* `perform` — any action; `session` — its exit code and its error output.
-/

open Daemon Log

/-- A signal that the daemon reacts to. -/
inductive Signal where
  | terminate
  | interrupt
  | hangup
  | restart
  deriving DecidableEq, Repr

/-- How a daemon is run. -/
structure RunOptions where
  debug : Bool
  locks : Bool := true
  headers : Bool := true
  deriving DecidableEq, Repr

/-- A daemon that is running: its configuration, and the lock that it holds. -/
structure Running where
  config : Config
  lock : Option LockGuard

/-! ### Starting -/

/-- Load the configuration and say so. -/
def configure : Act (Except StartError Config) := do
  match Config.path? (← get).environment (← get).customDirectory with
  | .error e => pure (.error (.config e))
  | .ok path =>
    match ← loadConfig with
    | .error e => pure (.error (.config e))
    | .ok config =>
      if config.debugEnabled then
        modify fun d => { d with journal := { d.journal with debug := true } }
      logAll (config.logLines (← get).environment path)
      pure (.ok config)

/-- Take the lock of the daemon, if it shall have one. -/
def takeDaemonLock (locks : Bool) : Act (Except StartError (Option LockGuard)) := do
  if locks then
    let d ← get
    match ← takeLock d.environment.lockPath (d.settings.file.getD "") with
    | .error e => pure (.error (.lock e))
    | .ok lock =>
      block s!"Lock acquired: {lock.path}"
      pure (.ok (some lock))
  else pure (.ok none)

/-- Follow the settings file, or say that it is not followed. -/
def startWatching : Act Unit := do
  match ← watchSettings ((← get).settings.file.getD "") with
  | .ok _ => pure ()
  | .error e =>
    logAll [.pipe,
      .warning ("Settings file watching unavailable: " ++ e.chain.headD ""),
      .indented "External edits are picked up after SIGUSR2 or a restart"]

/-- What the monitors of system events say where there is no system bus. -/
def monitorLines : List Line :=
  [.pipe, .warning "Sleep monitor error: Failed to connect to system D-Bus",
    .indented "Restarting sleep monitor (attempt 1/3)", .debug "Watching for wall-clock changes"]

/-- Restore the appearance and activate the configured user. -/
def activateUser (config : Config) : Act (Except StartError Unit) := do
  if let .error f := ← restore then
    warn s!"Persisted appearance only partially restored: {f.message}"
  connect
  if config.watchesSettings then startWatching
  if config.monitorsSystemEvents then logAll monitorLines
  match ← switchUser .quiet config.user with
  | .error f => pure (.error (.notActivated config.user f))
  | .ok _ =>
    block "appearanced is running"
    pure (.ok ())

/-- Give back the lock of the daemon. -/
def returnDaemonLock (lock : Option LockGuard) : Act Unit :=
  match lock with
  | some lock => returnLock lock
  | none => pure ()

/-- Start the daemon over the files that a configuration names. -/
def startWith (o : RunOptions) (config : Config) : Act (Except StartError Running) := do
  match ← assemble config with
  | .error e => pure (.error e)
  | .ok _ =>
    match ← takeDaemonLock o.locks with
    | .error e => pure (.error e)
    | .ok lock =>
      match ← activateUser config with
      | .ok _ => pure (.ok ⟨config, lock⟩)
      | .error e =>
        returnDaemonLock lock
        pure (.error e)

/-- Start the daemon. -/
def startUp (o : RunOptions) : Act (Except StartError Running) := do
  if o.headers then log (.version versionNumber)
  match ← configure with
  | .error e => pure (.error e)
  | .ok config => startWith o config

/-! ### Running -/

/-- Arm all timers anew, as after a signal. -/
def restartTimers : Act Unit := do
  debug "Restarting timers after RestartTimers"
  match ← resync .quiet with
  | .ok restarted => debug s!"Timers re-armed: {restarted}"
  | .error f => warn s!"Failed to restart timers: {f.message}"

/-- What is logged when a signal arrives. -/
def Signal.message (debug : Bool) : Signal → String
  | .terminate => "Received termination request, shutting down..."
  | .interrupt =>
    if debug then "Received SIGINT (Ctrl+C), shutting down..."
    else "Received interrupt signal, shutting down..."
  | .hangup => "Received hangup signal, shutting down..."
  | .restart => "Received timer restart signal"

/-- React to signals, up to the first one that ends the daemon. -/
def serve (debug : Bool) : List Signal → Act Unit
  | [] => pure ()
  | signal :: rest => do
    logAll [.pipe, .info (signal.message debug)]
    if signal = .restart then
      restartTimers
      serve debug rest

/-- End the daemon. -/
def shutDown (running : Running) : Act Unit := do
  block "Shutting down"
  if let .error f := ← clearAllTimers .quiet then warn s!"Failed to clear timers: {f.message}"
  log .finish
  modify fun d => { d with watch := none }
  returnDaemonLock running.lock

/-- Run the daemon until a signal ends it. -/
def runDaemon (o : RunOptions) (signals : List Signal) : Act (Except StartError Unit) := do
  match ← startUp o with
  | .error e => pure (.error e)
  | .ok running =>
    serve (o.debug || running.config.debugEnabled) signals
    shutDown running
    pure (.ok ())

/-! ### Actions -/

/-- Why an action failed. -/
inductive ActionError where
  | start (cause : StartError)
  | logNotOpened (path : String) (cause : LogProblem)
  | invalidTime (boundary : Boundary) (text : String) (cause : Fault)

/-- The messages of an error, the outermost first. -/
def ActionError.chain : ActionError → List String
  | .start cause => cause.chain
  | .logNotOpened path cause => [s!"Failed to start logging to {path}", cause.message]
  | .invalidTime boundary text cause =>
    [s!"Invalid {boundary.word} time '{text}'", cause.message]

/-- Print on the standard output, whatever becomes of the log. -/
def print (text : String) : Act Unit :=
  modify fun d => { d with journal := { d.journal with printed := text :: d.journal.printed } }

/-- Apply the options of a command. Lines in a log file begin with the time of day. -/
def prepare (o : Options) : Act (Except ActionError Unit) := do
  modify fun d => { d with journal := { d.journal with debug := o.debug } }
  match ← setConfigDirectory o.configDirectory with
  | .error e => pure (.error (.start (.config e)))
  | .ok _ =>
    match o.logFile with
    | none => pure (.ok ())
    | some path =>
      match ← openLog path with
      | .error problem => pure (.error (.logNotOpened path problem))
      | .ok _ =>
        modify fun d => { d with journal := { d.journal with stamped := true } }
        pure (.ok ())

/-- Print the state of the configured user. -/
def status (o : Options) : Act (Except StartError Unit) := do
  if o.logFile.isNone then
    modify fun d => { d with journal := { d.journal with enabled := false } }
  match ← loadConfig with
  | .error e => pure (.error (.config e))
  | .ok config =>
    match ← statusOf config with
    | .error e => pure (.error e)
    | .ok snapshot =>
      print (snapshotPage snapshot)
      pure (.ok ())

/-- Tell whether now is inside a window. -/
def reportWindow (window : Window) : Act Unit := do
  let now := (← get).clock
  let inside := if window.containsMoment now then "inside (dark)" else "outside (light)"
  logAll (blockStart ("Window " ++ window.text) ++
    [.indented ("Now: " ++ now.hourMinuteText), .indented ("Status: " ++ inside), .finish])

/-- Read the bounds of a window, and tell whether now is inside. -/
def check (start finish : String) : Act (Except ActionError Unit) := do
  match readMinute start with
  | .error f => pure (.error (.invalidTime .start start f))
  | .ok s =>
    match readMinute finish with
    | .error f => pure (.error (.invalidTime .finish finish f))
    | .ok t =>
      reportWindow ⟨s, t⟩
      pure (.ok ())

/-- Run a command with its options applied; the log file is complete afterwards. -/
def withOptions (o : Options) (command : Act (Except ActionError Unit)) :
    Act (Except ActionError Unit) := do
  match ← prepare o with
  | .error e => pure (.error e)
  | .ok _ =>
    let result ← command
    closeLog
    pure result

/-- A command of the daemon as an action. -/
def started (command : Act (Except StartError Unit)) : Act (Except ActionError Unit) := do
  match ← command with
  | .ok _ => pure (.ok ())
  | .error e => pure (.error (.start e))

/-- The result of a session: an exit code, and lines of error output. -/
structure Result where
  exitCode : Nat := 0
  errors : List String := []

/-- Report how a command ended. -/
def report (result : Except ActionError Unit) : Act Result := do
  match result with
  | .ok _ => pure {}
  | .error e =>
    logAll (failureLines (e.chain.headD ""))
    pure { exitCode := 1, errors := e.chain.tail.map fun cause => "  caused by: " ++ cause }

/-- Perform an action. -/
def perform (signals : List Signal) : Action → Act Result
  | .version => do
    logAll versionPage
    print versionFooter
    pure {}
  | .help => do
    logAll helpPage
    pure {}
  | .usageError e => do
    logAll (.pipe :: failureLines e.message ++ helpPage)
    pure { exitCode := 1 }
  | .run o => do
    report (← withOptions o (started (runDaemon { debug := o.debug } signals)))
  | .status o => do
    report (← withOptions o (started (status o)))
  | .check o start finish => do
    report (← withOptions o (check start finish))

/-- Run the program with arguments. -/
def session (arguments : List String) (signals : List Signal) : Act Result :=
  perform signals (parse arguments)

end Twilight.CommandLine
