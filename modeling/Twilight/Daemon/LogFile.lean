import Twilight.Daemon.Basic

namespace Twilight

/-!
# Log files

* `Daemon.openLog` — send the log to a file; that can be done once.
* `Daemon.closeLog` — complete the file.
-/

namespace Daemon

open Log

/-- Why the log was not sent to a file. -/
inductive LogProblem where
  | alreadyOpened
  deriving DecidableEq, Repr

/-- The message for a problem. -/
def LogProblem.message : LogProblem → String
  | .alreadyOpened => "Logger channel already initialized"

/-- Send the log to a file from now on. What the file held is gone; a file that cannot be opened
    takes nothing. -/
def openLog (path : String) : Act (Except LogProblem Unit) :=
  modifyGet fun d =>
    match d.journal.sink with
    | .console =>
      let (id, files) := match d.files.openFile path with
        | (.ok id, files) => (some id, files.setContents id (.text ""))
        | (.error _, files) => (none, files)
      (.ok (), { d with files := files, journal := { d.journal with sink := .file id [] } })
    | _ => (.error .alreadyOpened, d)

/-- Complete the log file; what is logged later is lost. -/
def closeLog : Act Unit :=
  modify fun d =>
    match d.journal.sink with
    | .file (some id) written =>
      { d with
        files := d.files.setContents id (.text (String.join written.reverse))
        journal := { d.journal with sink := .closed } }
    | .file none _ => { d with journal := { d.journal with sink := .closed } }
    | _ => d

end Daemon

end Twilight
