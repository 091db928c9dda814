import Twilight.Table
import Twilight.Window

namespace Twilight

/-!
# Settings of all users

* `SettingsTable` — for every user, texts by key.
* `SettingsTable.value?`, `SettingsTable.put` — one value.
* `SettingsTable.changes` — the pairs of key and user at which two tables differ.
-/

/-- Texts by key. -/
abbrev UserSettings := Table String String

/-- The settings of every user. -/
abbrev SettingsTable := Table UserId UserSettings

namespace SettingsTable

/-- The value that a user has stored under a key. -/
def value? (t : SettingsTable) (key : String) (user : UserId) : Option String :=
  (t.get? user).bind fun settings => settings.get? key

/-- Store a value. -/
def put (t : SettingsTable) (key value : String) (user : UserId) : SettingsTable :=
  t.insert user ((t.getD user {}).insert key value)

/-- The pairs that have a value in `t` and another one, or none, in `old`. -/
def updates (old t : SettingsTable) : List (String × UserId) :=
  t.entries.flatMap fun (user, settings) =>
    settings.entries.filterMap fun (key, value) =>
      if old.value? key user = some value then none else some (key, user)

/-- The pairs that have a value in `old` and none in `t`. -/
def removals (old t : SettingsTable) : List (String × UserId) :=
  old.entries.flatMap fun (user, settings) =>
    settings.keys.filterMap fun key =>
      if (t.value? key user).isSome then none else some (key, user)

/-- The pairs whose value differs: first those that got a new value, then those that lost theirs,
    each by user and key. -/
def changes (old t : SettingsTable) : List (String × UserId) := updates old t ++ removals old t

/-- Looking up by `value?` what was just `put` gets the new value, whether the pair had one before
    or not. -/
@[simp] theorem value?_put_self (t : SettingsTable) (key value : String) (user : UserId) :
    (t.put key value user).value? key user = some value := by
  simp [value?, put]

/-- A value that is `put` under one key leaves the user's values under all other keys as they were.
    -/
theorem value?_put_of_key_ne (t : SettingsTable) {key other : String} (h : other ≠ key)
    (value : String) (user : UserId) :
    (t.put key value user).value? other user = t.value? other user := by
  cases hu : t.get? user <;> simp [value?, put, Table.getD, hu, Table.get?_insert_of_ne _ h]

/-- A value that is `put` for one user leaves the values of all other users as they were. -/
theorem value?_put_of_user_ne (t : SettingsTable) {user other : UserId} (h : other ≠ user)
    (key value key' : String) :
    (t.put key value user).value? key' other = t.value? key' other := by
  simp [value?, put, Table.get?_insert_of_ne _ h]

end SettingsTable

end Twilight
