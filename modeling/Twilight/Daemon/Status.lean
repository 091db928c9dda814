import Twilight.Daemon.Appearance
import Twilight.Daemon.Timers

namespace Twilight

/-!
# Statuses

The manager decides for every user whether their status is fixed or follows a daily window.

* `Daemon.resolve` — the status that a state stands for now. A window gets its alarms armed, and is
  resolved from the clock at once; every other state has none.
* `Daemon.notify` — hand a status to the receiver, as the policy asks.
* `Daemon.honour` — what a firing changes: the alarms, if the live state still asks for exactly the
  request that they were armed for, and otherwise nothing.
* `Daemon.fireBoundary` — a firing from beginning to end.
-/

/-- When a status reaches the receiver. -/
inductive NotifyPolicy where
  | never
  | always
  /-- Only if it differs from the last one known of the user. -/
  | onChange
  deriving DecidableEq, Repr

/-- The policy of a caller that asks to be notified, or not to be. -/
def NotifyPolicy.ofFlag (notify : Bool) : NotifyPolicy := if notify then .always else .never

/-- What came of resolving a state: a status, with the fault of arming its alarms if there was
    one, or no status and the reason. -/
inductive Resolution where
  | status (dark : Bool) (outcome : Except Fault Unit)
  | unresolved (fault : Fault)

namespace Resolution

/-- The status. -/
def dark? : Resolution → Option Bool
  | .status dark _ => some dark
  | .unresolved _ => none

/-- The status, if nothing went wrong. -/
def result : Resolution → Except Fault Bool
  | .status dark (.ok _) => .ok dark
  | .status _ (.error f) => .error f
  | .unresolved f => .error f

end Resolution

namespace Daemon

/-! ### The manager's tables -/

/-- Change the manager. -/
def modifyManager (f : Manager → Manager) : Act Unit :=
  modify fun d => { d with manager := f d.manager }

/-- Set a user's state. -/
def setState (user : UserId) (state : DarkModeState) : Act Unit :=
  modifyManager fun m => { m with states := m.states.insert user state }

/-- Remember a status as the last one known of a user. -/
def rememberStatus (user : UserId) (dark : Bool) : Act Unit :=
  modifyManager fun m => { m with lastStatus := m.lastStatus.insert user dark }

/-- A user's state; a user without one gets the default. -/
def stateOrDefault (user : UserId) : Act DarkModeState :=
  modifyGet fun d =>
    let state := d.manager.states.getD user {}
    (state, { d with manager :=
      { d.manager with states := d.manager.states.insert user state } })

/-- The schedule that a user's live state asks for. -/
def liveRequest? (d : Daemon) (user : UserId) : Option ScheduleRequest :=
  (d.manager.states.get? user).bind fun state => state.request? user

/-! ### Resolving -/

/-- Cancel a user's alarms; a failure is only warned of. -/
def dropTimers (h : Hooks) (user : UserId) : Act Unit := do
  match ← clearTimers h user with
  | .ok _ => pure ()
  | .error f => warn s!"Failed to clear timers for user {user}: {f.message}"

/-- Arm the alarms that a request asks for. -/
def scheduleRequest (h : Hooks) (request : ScheduleRequest) : Act (Except Fault Unit) :=
  schedule h request.user request.window ⟨.boundary request .start, .boundary request .finish⟩

/-- Arm the alarms of a window, and resolve it from the clock. -/
def resolveWindow (h : Hooks) (request : ScheduleRequest) : Act Resolution := do
  let outcome ← scheduleRequest h request
  if let .error f := outcome then
    warn (s!"Scheduling failed for user {request.user}, resolving from clock: " ++ f.message)
  -- The status does not wait for an alarm, so it is known even if none could be armed.
  pure (.status (← isInside request.window) outcome)

/-- The status that a user's state stands for now. -/
def resolve (h : Hooks) (user : UserId) (state : DarkModeState) : Act Resolution := do
  match state.mode with
  | .alwaysLight | .alwaysDark =>
    dropTimers h user
    pure (.status (state.mode = .alwaysDark) (.ok ()))
  | .customWindow =>
    if state.window.valid then resolveWindow h ⟨user, state.window⟩
    else
      -- Alarms of an earlier window could only fire in vain.
      dropTimers h user
      pure (.unresolved (.windowOutOfRange ⟨user, state.window⟩))
  | .invalid =>
    debug s!"No usable dark mode for user {user}"
    pure (.unresolved (.modeUnset user))

/-! ### Notifying -/

/-- What the receiver does with a status. -/
def receive (h : Hooks) (receiver : Receiver) (dark : Bool) (user : UserId) : Act Unit := do
  if receiver.reports then
    note (.update dark user)
    modify fun d => { d with updates := (dark, user) :: d.updates }
  if receiver.applies then applyStatus dark user
  if receiver.reports then h.run (← get).onUpdate

/-- Remember a status and hand it over. -/
def deliver (h : Hooks) (dark : Bool) (user : UserId) : Act Unit := do
  rememberStatus user dark
  match (← get).manager.receiver with
  | none => fail s!"No update callback installed, dropping status for user {user}"
  | some receiver =>
    debug s!"Notifying {statusWord dark} for user {user}"
    receive h receiver dark user

/-- Hand a status over as the policy asks. -/
def notify (h : Hooks) (dark : Bool) (user : UserId) (policy : NotifyPolicy) : Act Unit := do
  match policy with
  | .never => pure ()
  | .always => deliver h dark user
  | .onChange =>
    if (← get).manager.lastStatus.get? user = some dark then
      debug s!"Status for user {user} unchanged, not notifying"
    else deliver h dark user

/-- Notify the status of a resolution; its result. -/
def finish (h : Hooks) (user : UserId) (resolution : Resolution) (policy : NotifyPolicy) :
    Act (Except Fault Bool) := do
  if let some dark := resolution.dark? then notify h dark user policy
  pure resolution.result

/-! ### Firings -/

/-- Whether a firing is one of the active user; others are discarded. -/
def isForActiveUser (request : ScheduleRequest) (boundary : Boundary) : Act Bool := do
  if request.user = (← get).manager.active then pure true
  else
    debug s!"Discarding {boundary.name} firing for background user {request.user}"
    pure false

/-- Re-arm the alarms of a request that the live state still asks for, and resolve its window; a
    stale request changes nothing. -/
def honour (h : Hooks) (request : ScheduleRequest) (boundary : Boundary) :
    Act (Option Bool) := do
  if (← get).liveRequest? request.user = some request then
    info s!"Window {minuteText (request.window.bound boundary)} reached for user {request.user}"
    if let .error f := ← scheduleRequest h request then
      warn s!"Failed to re-arm timers for user {request.user}: {f.message}"
    pure (some (← isInside request.window))
  else
    debug (s!"Discarding stale {boundary.name} firing for user {request.user} " ++
      s!"({request.window.text})")
    pure none

/-- An alarm fired at a boundary of a request. -/
def fireBoundary (h : Hooks) (request : ScheduleRequest) (boundary : Boundary) : Act Unit := do
  if ← isForActiveUser request boundary then
    if let some dark := ← honour h request boundary then
      notify h dark request.user .always

/-- Run what an alarm does. -/
def fire (h : Hooks) : AlarmAction → Act Unit
  | .boundary request boundary => fireBoundary h request boundary
  | .script label boundary steps => do
    note (.fired label boundary)
    h.run steps

/-- Run what alarms do, in order. -/
def fireAll (h : Hooks) : List AlarmAction → Act Unit
  | [] => pure ()
  | action :: rest => do
    fire h action
    fireAll h rest

/-- Take every due alarm out, then run what they do; how many there were. -/
def fireDue (h : Hooks) : Act Nat := do
  let due ← modifyGet fun d =>
    let (due, alarms) := d.alarms.takeDue d.zone d.clock
    (due, { d with alarms := alarms })
  fireAll h (due.map fun p => p.2.action)
  pure due.length

end Daemon

end Twilight
