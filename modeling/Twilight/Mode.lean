import Twilight.Window

namespace Twilight

/-!
# Modes

* `Mode` — how a user's status is decided: fixed light, fixed dark, by a daily window, or not at
  all.
* `Mode.ofNumber?`, `Mode.number` — the stored numbers.
* `DarkModeState` — a user's mode and window; `DarkModeState.request?` is the schedule it asks for.
-/

/-- How a user's light or dark status is decided. -/
inductive Mode where
  | invalid
  | alwaysLight
  | alwaysDark
  | customWindow
  deriving DecidableEq, Repr, Inhabited

namespace Mode

/-- The mode stored as a number. -/
def ofNumber? (value : Int) : Option Mode :=
  if value = -1 then some .invalid
  else if value = 0 then some .alwaysLight
  else if value = 1 then some .alwaysDark
  else if value = 2 then some .customWindow
  else none

/-- The number that a mode is stored as. -/
def number : Mode → Int
  | .invalid => -1
  | .alwaysLight => 0
  | .alwaysDark => 1
  | .customWindow => 2

/-- Reading the number of a mode by `ofNumber?` gets the mode back. -/
@[simp] theorem ofNumber?_number (m : Mode) : ofNumber? m.number = some m := by
  cases m <;> rfl

/-- The mode of a stored number; a number without a mode counts as invalid. -/
def ofStored (value : Int) : Mode := (ofNumber? value).getD .invalid

/-- The fixed mode of a status. -/
def fixed (dark : Bool) : Mode := if dark then .alwaysDark else .alwaysLight

/-- Whether the mode alone decides the status. -/
def isFixed : Mode → Bool
  | .alwaysLight | .alwaysDark => true
  | .invalid | .customWindow => false

@[simp] theorem isFixed_fixed (dark : Bool) : (fixed dark).isFixed = true := by
  cases dark <;> rfl

/-- The mode's name in messages. -/
def name : Mode → String
  | .invalid => "invalid"
  | .alwaysLight => "always light"
  | .alwaysDark => "always dark"
  | .customWindow => "custom window"

/-- The mode's word in reports. -/
def word : Mode → String
  | .invalid => "invalid"
  | .alwaysLight => "always_light"
  | .alwaysDark => "always_dark"
  | .customWindow => "custom_window"

end Mode

/-- `dark` or `light`. -/
def statusWord (dark : Bool) : String := if dark then "dark" else "light"

/-- The bound of a window that was never stored. -/
def unsetBound : Int := -1

/-- A user's mode and window. -/
structure DarkModeState where
  mode : Mode := .invalid
  window : Window := ⟨unsetBound, unsetBound⟩
  deriving DecidableEq, Repr, Inhabited

/-- The schedule that a state asks for. -/
def DarkModeState.request? (s : DarkModeState) (user : UserId) : Option ScheduleRequest :=
  if s.mode = .customWindow then some ⟨user, s.window⟩ else none

end Twilight
