import Twilight.Settings.Table
import Twilight.Text.Blank
import Twilight.Text.Numeral
import Twilight.Toml.Written

namespace Twilight

/-!
# Settings as TOML

* `SettingsTable.write` — one `[users.<id>]` table per user, in the order of the written ids.
* `SettingsTable.read?` — the settings of a document, with the user names that denote no id.
* `textsOf?` — the entries of a table that holds nothing but texts.
-/

open Toml

/-- The entries of a table all of whose values are texts. -/
def textsOf? : Entries → Option (List (String × String))
  | [] => some []
  | (key, .text value) :: rest => (textsOf? rest).map ((key, value) :: ·)
  | _ => none

/-- The name under which a table is taken for a date. -/
def dateKey : String := "$__toml_private_datetime"

/-- The settings that one value holds. A date counts as a table that holds itself. -/
def userSettings? : Value → Option UserSettings
  | .table _ entries => (textsOf? entries).map Table.ofList
  | .dateTime written => some (Table.ofList [(dateKey, written)])
  | _ => none

/-- The settings of every name in a table. -/
def namedSettings? : Entries → Option (List (String × UserSettings))
  | [] => some []
  | (name, value) :: rest =>
    match userSettings? value, namedSettings? rest with
    | some settings, some others => some ((name, settings) :: others)
    | _, _ => none

namespace SettingsTable

/-- The users in the order of their written ids. -/
def named (t : SettingsTable) : List (String × UserSettings) :=
  (Table.ofList (t.entries.map fun (user, settings) => (toString user, settings))).entries

/-- The table of one user. -/
def writeUser (name : String) (settings : UserSettings) : List Char :=
  writeHeader "users" name ++ writeEntries settings.entries

/-- The tables of users, parted by empty lines. -/
def writeUsers : List (String × UserSettings) → List Char
  | [] => []
  | [(name, settings)] => writeUser name settings
  | (name, settings) :: rest => writeUser name settings ++ '\n' :: writeUsers rest

/-- The written form of all settings. -/
def write (t : SettingsTable) : String :=
  if t.isEmpty then "[users]\n" else String.ofList (writeUsers t.named)

/-- What a document holds. -/
structure Reading where
  table : SettingsTable := {}
  /-- The names that denote no user. -/
  ignored : List String := []

/-- Take in one name: of two that denote the same user, the later one stays. -/
def Reading.take (r : Reading) (name : String) (settings : UserSettings) : Reading :=
  match Text.Numeral.readInt32 (Text.trim name.toList) with
  | .ok user => { r with table := r.table.insert user settings }
  | .error _ => { r with ignored := r.ignored ++ [name] }

/-- The settings under the names of users, taken in the order of the names. -/
def ofNamed (named : List (String × UserSettings)) : Reading :=
  (Table.ofList named).entries.foldl (fun r p => r.take p.1 p.2) {}

/-- The settings that a text describes. -/
def read? (text : String) : Option Reading :=
  match document? text with
  | none => none
  | some root =>
    match root.get? "users" with
    | none => some {}
    | some (.table _ users) => (namedSettings? users).map ofNamed
    | some _ => none

end SettingsTable

end Twilight
