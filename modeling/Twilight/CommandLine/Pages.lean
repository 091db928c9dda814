import Twilight.Daemon.Snapshot
import Twilight.Log.Line

namespace Twilight.CommandLine

/-!
# Pages

* `helpPage`, `versionPage` — what is printed on request.
* `snapshotPage` — a snapshot as JSON, in lines.
-/

open Log

/-- The version of the program. -/
def versionNumber : String := "0.4.0"

/-- What the program is. -/
def description : String := "Per-user appearance daemon with scheduled light/dark switching"

/-- The help page. -/
def helpPage : List Line :=
  .version versionNumber ::
    blockStart description ++
    blockStart "Usage:" ++
    [.indented "appearanced [OPTIONS] [COMMAND]"] ++
    blockStart "Options:" ++
    [.indented "-c, --config <dir>     Use custom configuration directory",
      .indented "-d, --debug            Enable detailed debug output",
      .indented "-h, --help             Print help information",
      .indented "-l, --log <file>       Write output to a file instead of stdout",
      .indented "-V, --version          Print version information"] ++
    blockStart "Commands:" ++
    [.indented "run                    Run the scheduling daemon (default)",
      .indented "status                 Print the configured user's state as JSON",
      .indented "check <start> <end>    Tell whether now is inside an HH:MM window",
      .finish]

/-- The lines in front of the description, which is printed whether logging is on or not. -/
def versionPage : List Line := [.version versionNumber, .pipe]

/-- The last line of the version page. -/
def versionFooter : String := "┗ " ++ description ++ "\n"

/-! ### Snapshots as JSON -/

/-- Members of an object or items of a list over several lines, one level further in. -/
def nested (opening closing : String) (indent : String) (parts : List (String → String)) :
    String :=
  if parts.isEmpty then opening ++ closing
  else
    let inner := indent ++ "  "
    opening ++ "\n" ++ ",\n".intercalate (parts.map fun part => inner ++ part inner) ++
      "\n" ++ indent ++ closing

/-- A member of an object. -/
def member (name : String) (value : String → String) : String → String := fun indent =>
  "\"" ++ name ++ "\": " ++ value indent

/-- A value that takes one line. -/
def plain (text : String) : String → String := fun _ => text

/-- An object. -/
def object (members : List (String → String)) : String → String := fun indent =>
  nested "\x7b" "\x7d" indent members

/-- A list. -/
def list (items : List (String → String)) : String → String := fun indent =>
  nested "[" "]" indent items

def booleanText (b : Bool) : String := if b then "true" else "false"

def alarmJson : Option AlarmId → String
  | none => "null"
  | some id => toString id

def stateJson (s : DarkModeState) : String → String :=
  object [member "mode" (plain ("\"" ++ s.mode.word ++ "\"")),
    member "start" (plain (toString s.window.start)),
    member "end" (plain (toString s.window.finish))]

def timerJson (t : TimerView) : String → String :=
  object [member "user_id" (plain (toString t.user)),
    member "start" (plain (toString t.window.start)),
    member "end" (plain (toString t.window.finish)),
    member "start_alarm" (plain (alarmJson t.alarms.start)),
    member "end_alarm" (plain (alarmJson t.alarms.finish))]

def snapshotJson (s : Snapshot) : String → String :=
  object [member "active_user" (plain (toString s.activeUser)),
    member "observers_registered" (plain (booleanText s.observersRegistered)),
    member "observer_count" (plain (toString s.observerCount)),
    member "states" (object (s.states.entries.map fun (user, state) =>
      member (toString user) (stateJson state))),
    member "timers" (list (s.timers.map timerJson))]

/-- A snapshot as it is printed. -/
def snapshotPage (s : Snapshot) : String := snapshotJson s "" ++ "\n"

end Twilight.CommandLine
