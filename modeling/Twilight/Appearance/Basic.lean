import Twilight.Appearance.Parameters
import Twilight.Mode

namespace Twilight

/-!
# The appearance service

* `PerItem α` — a value for each item of the configuration.
* `Configuration` — the values that applications render with, as far as they were set.
* `Appearance` — the service: the permission, the configuration, the parameters, and the mode and
  the scales in effect.
-/

/-- A value for each item. -/
structure PerItem (α : Type) where
  colorMode : α
  fontSize : α
  fontWeight : α
  deriving DecidableEq, Repr

namespace PerItem

variable {α : Type}

/-- The same value for all items. -/
def const (a : α) : PerItem α := ⟨a, a, a⟩

def get (p : PerItem α) : Item → α
  | .colorMode => p.colorMode
  | .fontSize => p.fontSize
  | .fontWeight => p.fontWeight

def set (p : PerItem α) (item : Item) (a : α) : PerItem α :=
  match item with
  | .colorMode => { p with colorMode := a }
  | .fontSize => { p with fontSize := a }
  | .fontWeight => { p with fontWeight := a }

/-- The values of all items. -/
def toList (p : PerItem α) : List α := [p.colorMode, p.fontSize, p.fontWeight]

@[simp] theorem get_const (a : α) (item : Item) : (const a).get item = a := by
  cases item <;> rfl

/-- Reading an item right after `set` gave it a value gets that value. -/
@[simp] theorem get_set_self (p : PerItem α) (item : Item) (a : α) :
    (p.set item a).get item = a := by
  cases item <;> rfl

/-- Giving one item a value by `set` leaves what `get` reads of every other item as it was. -/
theorem get_set_of_ne (p : PerItem α) {item other : Item} (h : other ≠ item) (a : α) :
    (p.set item a).get other = p.get other := by
  cases item <;> cases other <;> simp_all [get, set]

end PerItem

/-- The configuration that applications render with, and the items whose update or reading fails. -/
structure Configuration where
  values : PerItem (Option String) := .const none
  failsUpdate : PerItem Bool := .const false
  failsGet : PerItem Bool := .const false
  deriving Inhabited

namespace Configuration

/-- Set an item. -/
def update (c : Configuration) (item : Item) (value : String) :
    Except Fault Unit × Configuration :=
  if c.failsUpdate.get item then (.error .updateRefused, c)
  else (.ok (), { c with values := c.values.set item (some value) })

/-- The value of an item that was set. -/
def get (c : Configuration) (item : Item) : Except Fault String :=
  if c.failsGet.get item then .error .itemUnreadable
  else
    match c.values.get item with
    | some value => .ok value
    | none => .error (.itemUnset item)

end Configuration

/-- The appearance service. -/
structure Appearance where
  permitted : Bool := true
  configuration : Configuration := {}
  parameters : Parameters := {}
  mode : Mode := .alwaysLight
  fontSize : String := Item.fontSize.fallback
  fontWeight : String := Item.fontWeight.fallback
  deriving Inhabited

/-- The value in effect for an item. -/
def Appearance.value (a : Appearance) : Item → String
  | .colorMode => statusWord (a.mode = .alwaysDark)
  | .fontSize => a.fontSize
  | .fontWeight => a.fontWeight

/-- The color mode that a parameter stands for. -/
def colorModeOf (value : String) : Except Fault Mode :=
  if value = statusWord false then .ok .alwaysLight
  else if value = statusWord true then .ok .alwaysDark
  else .error (.unknownColorMode value)

end Twilight
