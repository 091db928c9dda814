import Twilight.Settings.Keys
import Twilight.Settings.Store

namespace Twilight

/-!
# What a state stands for

* `DarkModeState.window?`, `DarkModeState.status?` — the window that a state needs alarms for, and
  the status that it stands for at a moment.
* `DarkModeState.part` — a state taken apart by the settings that it is read from.
* `SettingsStore.decoded` — a user's state as the store serves it.
-/

open Time

namespace DarkModeState

/-- The window that a state needs alarms for. -/
def window? (s : DarkModeState) : Option Window :=
  if s.mode = .customWindow ∧ s.window.valid = true then some s.window else none

/-- The status that a state stands for at a moment, if it stands for one. -/
def status? (s : DarkModeState) (now : Moment) : Option Bool :=
  match s.mode with
  | .invalid => none
  | .alwaysLight => some false
  | .alwaysDark => some true
  | .customWindow => if s.window.valid then some (s.window.containsMoment now) else none

/-- The `window?` of a state is its window, if the mode asks for that and the bounds are valid. -/
theorem window?_eq_some {s : DarkModeState} {w : Window} :
    s.window? = some w ↔ s.mode = .customWindow ∧ s.window = w ∧ w.valid = true := by
  unfold window?
  constructor
  · intro h
    by_cases hs : s.mode = .customWindow ∧ s.window.valid = true
    · rw [if_pos hs] at h
      obtain rfl := Option.some.inj h
      exact ⟨hs.1, rfl, hs.2⟩
    · rw [if_neg hs] at h
      contradiction
  · rintro ⟨hm, rfl, hv⟩
    rw [if_pos ⟨hm, hv⟩]

/-- A state that needs alarms stands for the status of its window. -/
theorem status?_of_window? {s : DarkModeState} {w : Window} (h : s.window? = some w)
    (now : Moment) : s.status? now = some (w.containsMoment now) := by
  obtain ⟨hm, rfl, hv⟩ := window?_eq_some.1 h
  simp [status?, hm, hv]

/-- The `request?` of a state is for its window, valid or not, if the mode asks for that. -/
theorem request?_eq_some {s : DarkModeState} {user : UserId} {request : ScheduleRequest} :
    s.request? user = some request ↔ s.mode = .customWindow ∧ request = ⟨user, s.window⟩ := by
  unfold request?
  by_cases hm : s.mode = .customWindow <;> simp [hm, eq_comm]

/-! ### Parts -/

/-- The part of a state that is read from a setting. -/
def part (s : DarkModeState) : StateKey → StateChange
  | .mode => .mode s.mode
  | .start => .start s.window.start
  | .finish => .finish s.window.finish

/-- A part that was `changed` is the part that it was changed to. -/
@[simp] theorem part_changed_self (s t : DarkModeState) (key : StateKey) :
    (s.changed (t.part key)).part key = t.part key := by
  cases key <;> rfl

/-- Changing a part of a state leaves the other two as they are. -/
theorem part_changed_of_ne (s t : DarkModeState) {key other : StateKey} (h : other ≠ key) :
    (s.changed (t.part key)).part other = s.part other := by
  cases key <;> cases other <;> first | rfl | contradiction

/-- States with the same `part` for every key are the same. -/
theorem ext_part {s t : DarkModeState} (h : ∀ key, s.part key = t.part key) : s = t := by
  obtain ⟨m, a, b⟩ := s
  obtain ⟨m', a', b'⟩ := t
  obtain rfl : m = m' := StateChange.mode.inj (h .mode)
  obtain rfl : a = a' := StateChange.start.inj (h .start)
  obtain rfl : b = b' := StateChange.finish.inj (h .finish)
  rfl

end DarkModeState

/-! ### States as the store serves them -/

namespace SettingsStore

/-- A user's mode as the store serves it; invalid where none can be read. -/
def modeOf (s : SettingsStore) (user : UserId) : Mode :=
  match s.getInt StateKey.mode.name user with
  | .ok value => Mode.ofStored value
  | .error _ => .invalid

/-- A bound of a user's window as the store serves it; unset where none can be read. -/
def boundOf (s : SettingsStore) (key : StateKey) (user : UserId) : Int :=
  match s.getInt key.name user with
  | .ok value => value
  | .error _ => unsetBound

/-- A user's state as the store serves it. -/
def decoded (s : SettingsStore) (user : UserId) : DarkModeState where
  mode := s.modeOf user
  window := ⟨s.boundOf .start user, s.boundOf .finish user⟩

/-- What a store without faults serves depends on the one stored text only. -/
theorem decoded_part_congr {s t : SettingsStore} (hs : s.faults = {}) (ht : t.faults = {})
    {key : StateKey} {user : UserId}
    (h : s.values.value? key.name user = t.values.value? key.name user) :
    (s.decoded user).part key = (t.decoded user).part key := by
  -- both read the same text, and neither refuses to
  have hget : s.getInt key.name user = t.getInt key.name user := by
    unfold getInt SettingsTable.getInt
    rw [hs, ht, h]
  cases key
  · simp [decoded, DarkModeState.part, modeOf, hget]
  · simp [decoded, DarkModeState.part, boundOf, hget]
  · simp [decoded, DarkModeState.part, boundOf, hget]

end SettingsStore

end Twilight
