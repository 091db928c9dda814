import Twilight.Daemon.Basic

namespace Twilight

/-!
# Appearance of the system

Values are pushed to the configuration, taken over by the service, and kept as parameters.

* `Daemon.updateItem` — push a value. A failed update still counts if the configuration already
  reports the value.
* `Daemon.applyMode`, `Daemon.applyScale` — push, take over and keep one item.
* `Daemon.setMode`, `Daemon.setScale`, `Daemon.getMode`, `Daemon.getScale` — the calls that need the
  permission.
* `Daemon.restore` — apply what was kept, every item in turn.
-/

namespace Daemon

/-- Change the appearance service. -/
def modifyAppearance (f : Appearance → Appearance) : Act Unit :=
  modify fun d => { d with appearance := f d.appearance }

/-- The update of one item as the configuration performs it; the local one reports every value
    that is new. -/
def updateConfiguration (item : Item) (value : String) : Act (Except Fault Unit) := do
  let before := (← get).appearance.configuration
  let (result, after) := before.update item value
  modifyAppearance fun a => { a with configuration := after }
  if before.values.get item ≠ after.values.get item then
    log (.decorated s!"{item.name}: {value}")
  pure result

/-- Push a value. -/
def updateItem (item : Item) (value : String) : Act (Except Fault Unit) := do
  info s!"Updating {item.name} to {value}"
  match ← updateConfiguration item value with
  | .ok _ => pure (.ok ())
  | .error refusal =>
    match (← get).appearance.configuration.get item with
    | .error f =>
      fail s!"Reading {item.name} after failed update: {f.message}"
      pure (.error (.updateUnconfirmed item refusal))
    | .ok reported =>
      if reported = value then
        warn s!"Update of {item.name} reported {refusal.message}, but it already is {value}"
        pure (.ok ())
      else
        fail s!"Updating {item.name} failed: {refusal.message}"
        pure (.error refusal)

/-- Keep a parameter. -/
def setParameter (key value : String) : Act (Except Fault Unit) :=
  modifyGet fun d =>
    let (result, parameters, files) := d.appearance.parameters.set d.files key value
    (result,
      { d with appearance := { d.appearance with parameters := parameters }, files := files })

/-- Apply a fixed mode. -/
def applyMode (mode : Mode) : Act (Except Fault Unit) := do
  if mode.isFixed then
    let value := statusWord (mode = .alwaysDark)
    match ← updateItem .colorMode value with
    | .error f => pure (.error f)
    | .ok _ =>
      modifyAppearance fun a => { a with mode := mode }
      setParameter Item.colorMode.parameter value
  else
    fail s!"Cannot apply color mode {mode.name}"
    pure (.error (.notAColorMode mode))

/-- The scales with one of them changed. -/
def withScale (item : Item) (value : String) (a : Appearance) : Appearance :=
  match item with
  | .fontSize => { a with fontSize := value }
  | .fontWeight => { a with fontWeight := value }
  | .colorMode => a

/-- Apply a scale, which must not be empty. -/
def applyScale (item : Item) (value : String) : Act (Except Fault Unit) := do
  if value.isEmpty then
    fail s!"Refusing empty {item.name}"
    pure (.error (.emptyScale item))
  else
    match ← updateItem item value with
    | .error f => pure (.error f)
    | .ok _ =>
      modifyAppearance (withScale item value)
      setParameter item.parameter value

/-! ### Calls that need the permission -/

/-- Run a call if it is permitted. -/
def permitted {α : Type} (call : Act (Except Fault α)) : Act (Except Fault α) := do
  if (← get).appearance.permitted then call
  else
    fail s!"Permission {updatePermission} denied"
    pure (.error .notPermitted)

/-- Set the color mode to another one. -/
def setMode (mode : Mode) : Act (Except Fault Unit) := permitted do
  let current := (← get).appearance.mode
  if mode = current then
    warn s!"Color mode is already {current.name}, nothing to change"
    pure (.error (.alreadyInMode current))
  else applyMode mode

/-- Set a scale. -/
def setScale (item : Item) (value : String) : Act (Except Fault Unit) :=
  permitted (applyScale item value)

def getMode : Act (Except Fault Mode) := permitted do
  pure (.ok (← get).appearance.mode)

def getScale (item : Item) : Act (Except Fault String) := permitted do
  pure (.ok ((← get).appearance.value item))

/-! ### Statuses and restoring -/

/-- Apply a status that the manager resolved. -/
def applyStatus (dark : Bool) (user : UserId) : Act Unit := do
  let mode := Mode.fixed dark
  block s!"Applying {mode.name} for user {user}"
  match ← applyMode mode with
  | .ok _ => pure ()
  | .error f => fail s!"Failed to apply {mode.name}: {f.message}"

/-- What the service does about an item that could not be restored. -/
def reportRestored (item : Item) (result : Except Fault Unit) : Act (Option Fault) := do
  match result with
  | .ok _ => pure none
  | .error f =>
    fail s!"Failed to restore {item.name}: {f.message}"
    pure (some f)

/-- Apply the color mode that was kept. -/
def restoreMode : Act (Option Fault) := do
  let kept := (← get).appearance.parameters.get Item.colorMode.parameter Item.colorMode.fallback
  match kept.bind colorModeOf with
  | .error f => reportRestored .colorMode (.error f)
  | .ok mode => reportRestored .colorMode (← applyMode mode)

/-- Apply a scale that was kept; one that cannot be read counts as the fallback. -/
def restoreScale (item : Item) : Act (Option Fault) := do
  match (← get).appearance.parameters.get item.parameter item.fallback with
  | .ok value => reportRestored item (← applyScale item value)
  | .error f =>
    fail s!"Failed to read persisted {item.name}: {f.message}"
    reportRestored item (← applyScale item item.fallback)

/-- Apply everything that was kept; the first failure. -/
def restore : Act (Except Fault Unit) := do
  let onMode ← restoreMode
  let onSize ← restoreScale .fontSize
  let onWeight ← restoreScale .fontWeight
  pure (settle (onMode <|> onSize <|> onWeight))

end Daemon

end Twilight
