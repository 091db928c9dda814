namespace Twilight

/-!
# Configuration items

* `Item` — the three things the appearance service controls, each with the parameter that keeps it.
-/

/-- An item of the configuration that applications render with. -/
inductive Item where
  | colorMode
  | fontSize
  | fontWeight
  deriving DecidableEq, Repr

namespace Item

/-- The item's name in messages. -/
def name : Item → String
  | .colorMode => "color mode"
  | .fontSize => "font size scale"
  | .fontWeight => "font weight scale"

/-- The parameter that keeps the item over a restart. -/
def parameter : Item → String
  | .colorMode => "persist.ace.darkmode"
  | .fontSize => "persist.sys.font_scale_for_user0"
  | .fontWeight => "persist.sys.font_wght_scale_for_user0"

/-- The value that counts as kept when nothing was. -/
def fallback : Item → String
  | .colorMode => "light"
  | .fontSize | .fontWeight => "1"

/-- Two items that are persisted under the same parameter are the same item, so no item overwrites
    another one's `parameter`. -/
theorem parameter_injective {a b : Item} (h : a.parameter = b.parameter) : a = b := by
  revert h
  cases a <;> cases b <;> decide

end Item

end Twilight
