import Twilight.Daemon.Status
import Twilight.Settings.Keys

namespace Twilight

/-!
# States of users

* `Daemon.readState` — a user's state as the store serves it.
* `Daemon.load`, `Daemon.reevaluate` — resolve a user's state, read anew or as it is.
* `Daemon.switchUser` — make a user the only one whose settings are observed.
* `Daemon.settingChanged` — take over one changed setting of the active user.
* `Daemon.resync` — restart all timers, and resolve the active user again.
-/

namespace Daemon

/-! ### Reading the store -/

/-- The mode of a stored number; one without a mode is reported. -/
def modeOfStored (value : Int) (user : UserId) : Act Mode := do
  if (Mode.ofNumber? value).isNone then
    fail s!"Dark mode value {value} out of range for user {user}, using invalid"
  pure (Mode.ofStored value)

/-- A user's mode; invalid where none can be read. -/
def readMode (user : UserId) : Act Mode := do
  match (← get).settings.getInt StateKey.mode.name user with
  | .ok value => modeOfStored value user
  | .error f =>
    debug s!"No dark mode stored for user {user}: {f.message}"
    pure .invalid

/-- A bound of a user's window; unset where none can be read. -/
def readBound (key : StateKey) (user : UserId) : Act Int := do
  match (← get).settings.getInt key.name user with
  | .ok value => pure value
  | .error f =>
    debug s!"No value for '{key.name}' (user {user}): {f.message}"
    pure unsetBound

/-- A user's state as the store serves it. -/
def readState (user : UserId) : Act DarkModeState := do
  let mode ← readMode user
  let start ← readBound .start user
  let finish ← readBound .finish user
  pure { mode := mode, window := ⟨start, finish⟩ }

/-! ### Loading -/

/-- Take over a state that was read, and resolve it. -/
def takeState (h : Hooks) (user : UserId) (state : DarkModeState) : Act Resolution := do
  setState user state
  info (s!"Loaded settings for user {user}: {state.mode.name}, window " ++ state.window.text)
  resolve h user state

/-- Read a user's state, resolve it and notify the status. -/
def loadWith (h : Hooks) (user : UserId) (policy : NotifyPolicy) : Act (Except Fault Bool) := do
  let state ← readState user
  let resolution ← takeState h user state
  finish h user resolution policy

/-- Read a user's state and resolve it; the status. -/
def load (h : Hooks) (user : UserId) (notify : Bool) : Act (Except Fault Bool) :=
  loadWith h user (.ofFlag notify)

/-- Resolve a user's state as it is; the status. -/
def reevaluate (h : Hooks) (user : UserId) (notify : Bool) : Act (Except Fault Bool) := do
  let state ← stateOrDefault user
  let resolution ← resolve h user state
  finish h user resolution (.ofFlag notify)

/-! ### Switching users -/

/-- Prepare the observers, and install what receives the statuses. -/
def install (receiver : Receiver) : Act Unit := do
  modifyManager fun m => { m with receiver := some receiver }
  debug "Dark mode manager initialized"

/-- Get the settings store ready. -/
def prepareStore : Act (Except Fault Unit) := do
  if (← get).settings.faults.ready then pure (.ok ())
  else
    let result ← modifyGet fun d =>
      let (result, settings) := d.settings.bringUp; (result, { d with settings := settings })
    match result with
    | .error f =>
      fail s!"Settings store failed to initialize: {f.message}"
      pure (.error (.storeUnavailable f))
    | .ok _ =>
      if (← get).settings.faults.ready then pure (.ok ())
      else
        fail "Settings store is not initialized"
        pure (.error .storeNotReady)

/-- Stop observing settings of a user. -/
def unobserveAll (user : UserId) : List StateKey → Act Unit
  | [] => pure ()
  | key :: rest => do
    let result ← modifyGet fun d =>
      let (result, settings) := d.settings.unobserve key.name user
      (result, { d with settings := settings })
    if let .error f := result then
      warn s!"Failed to unregister '{key.name}' for user {user}: {f.message}"
    unobserveAll user rest

/-- Observe settings of a user; how many could not be. -/
def observeAll (user : UserId) : List StateKey → Act Nat
  | [] => pure 0
  | key :: rest => do
    let result ← modifyGet fun d =>
      let (result, settings) := d.settings.observe key.name user .manager
      (result, { d with settings := settings })
    match result with
    | .ok _ => observeAll user rest
    | .error f =>
      fail s!"Failed to observe '{key.name}' for user {user}: {f.message}"
      pure ((← observeAll user rest) + 1)

/-- Stop observing the active user, if there is one. -/
def unobserveActive (previous : UserId) : Act Unit := do
  if previous ≠ noUser then
    info s!"Clearing timers and observers for user {previous}"
    unobserveAll previous StateKey.all
    modifyManager fun m => { m with allRegistered := false, active := noUser }

/-- Observe a user in the place of the active one: the user that was active, and how many observers
    could not be registered. -/
def exchangeObservers (user : UserId) : Act (UserId × Nat) := do
  let previous := (← get).manager.active
  unobserveActive previous
  let failures ← observeAll user StateKey.all
  modifyManager fun m => { m with active := user, allRegistered := failures = 0 }
  pure (previous, failures)

/-- Forget a user who is no longer active. -/
def retire (h : Hooks) (user : UserId) : Act Unit := do
  if user ≠ noUser then
    modifyManager fun m => { m with states := m.states.erase user }
    dropTimers h user

/-- Load the settings of the user who just became active. -/
def activate (h : Hooks) (user : UserId) : Act Unit := do
  info s!"Active user is now {user}"
  match ← loadWith h user .onChange with
  | .ok dark => debug s!"User {user} resolves to {statusWord dark}"
  | .error f =>
    if f.kind = .operationInvalid then debug s!"User {user} has no dark mode configured"
    else warn s!"Loading settings for user {user} incomplete: {f.message}"

/-- Make a user the only one whose settings are observed. -/
def switchUser (h : Hooks) (user : UserId) : Act (Except Fault Unit) := do
  match ← prepareStore with
  | .error f => pure (.error f)
  | .ok _ =>
    if (← get).manager.receiver.isNone then pure (.error .observersMissing)
    else
      let (previous, failures) ← exchangeObservers user
      -- The user before goes, whether or not the new one can be observed.
      retire h previous
      if failures ≠ 0 then pure (.error (.observersRefused failures user))
      else
        activate h user
        pure (.ok ())

/-! ### Changed settings -/

/-- The new value of a setting, read from the store. -/
def readChange (key : StateKey) (user : UserId) : Act StateChange := do
  match key with
  | .mode => return .mode (← readMode user)
  | .start => return .start (← readBound .start user)
  | .finish => return .finish (← readBound .finish user)

/-- Report a change of a state. -/
def reportChange (user : UserId) (state : DarkModeState) (change : StateChange) : Act Unit :=
  match change with
  | .mode value => info s!"Dark mode for user {user}: {state.mode.name} → {value.name}"
  | .start value =>
    info (s!"Window start for user {user}: " ++
      s!"{minuteText state.window.start} → {minuteText value}")
  | .finish value =>
    info (s!"Window end for user {user}: " ++
      s!"{minuteText state.window.finish} → {minuteText value}")

/-- Take over a change of a user's state, and resolve it. -/
def takeChange (h : Hooks) (user : UserId) (change : StateChange) : Act Resolution := do
  let state ← stateOrDefault user
  reportChange user state change
  setState user (state.changed change)
  resolve h user (state.changed change)

/-- Take over a changed setting, if it is one of the active user. -/
def stateSettingChanged (h : Hooks) (key : StateKey) (user : UserId) : Act Unit := do
  let change ← readChange key user
  if user = (← get).manager.active then
    let resolution ← takeChange h user change
    if let .error f := ← finish h user resolution .always then
      debug s!"Change of '{key.name}' left user {user} unresolved: {f.message}"
  else debug s!"Ignoring '{key.name}' change for background user {user}"

/-- A setting of a user changed. -/
def settingChanged (h : Hooks) (key : String) (user : UserId) : Act Unit :=
  match StateKey.ofName? key with
  | none => debug s!"Ignoring change of unrelated key '{key}'"
  | some key => stateSettingChanged h key user

/-! ### Restarting -/

/-- The status of the active user's window, if their state has one. -/
def activeWindowStatus? (d : Daemon) : Option Bool :=
  if d.manager.active = noUser then none
  else
    (d.liveRequest? d.manager.active).bind fun request =>
      if request.window.valid then some (request.window.containsMoment d.clock) else none

/-- Arm all alarms anew, and notify the active user's status if it is another one by now. -/
def resync (h : Hooks) : Act (Except Fault Bool) := do
  let restarted ← restart h noUser
  if let .error f := restarted then warn s!"Restarting timers incomplete: {f.message}"
  let d ← get
  if let some dark := d.activeWindowStatus? then notify h dark d.manager.active .onChange
  pure restarted

/-! ### Snapshots -/

/-- The manager's state. -/
def snapshot (d : Daemon) : Snapshot where
  activeUser := d.manager.active
  observersRegistered := d.manager.allRegistered
  observerCount := if d.manager.receiver.isSome then StateKey.all.length else 0
  states := d.manager.states
  timers := d.timerViews

/-- An alarm of a pair in debug output. -/
def alarmText : Option AlarmId → String
  | none => "None"
  | some id => s!"Some(AlarmId({id}))"

/-- The lines about a snapshot. -/
def snapshotLines (s : Snapshot) : List Log.Line :=
  .debug (s!"Observers: {s.observerCount}, user {s.activeUser}, " ++
      s!"all registered: {s.observersRegistered}") ::
    s.states.entries.map (fun (user, state) =>
      .debug (s!"User {user}: {state.mode.name}, " ++ state.window.text)) ++
    s.timers.map fun t =>
      .debug (s!"Timers for user {t.user}: start {alarmText t.alarms.start}, " ++
        s!"end {alarmText t.alarms.finish}")

/-- Take a snapshot and log it. -/
def dump : Act Snapshot := do
  let s := (← get).snapshot
  logAll (snapshotLines s)
  pure s

end Daemon

end Twilight
