import Twilight.Log.Line
import Twilight.Time.Stamp

namespace Twilight.Log

/-!
# The journal

* `Journal` — the switches of the log and where it goes.
* `Journal.put` — one piece of output; `Journal.emit` — one line, if the switches let it through.
-/

/-- Where output goes. A log file is open under its number, or could not be opened and takes
    nothing; a closed one loses what comes later. -/
inductive Sink where
  | console
  | file (id : Option Nat) (written : List String)
  | closed

/-- The log of a process. -/
structure Journal where
  enabled : Bool := true
  debug : Bool := false
  /-- Whether lines begin with the time of day. -/
  stamped : Bool := false
  sink : Sink := .console
  /-- What was printed, the latest piece first. -/
  printed : List String := []

instance : Inhabited Journal := ⟨{}⟩

namespace Journal

/-- Output a text as it is; a file takes it without color codes. -/
def put (j : Journal) (text : String) : Journal :=
  match j.sink with
  | .console => { j with printed := text :: j.printed }
  | .file id written =>
    { j with sink := .file id (String.ofList (stripColors text.toList) :: written) }
  | .closed => j

/-- What stands in front of every line. -/
def stamp (j : Journal) (now : Time.Moment) : String :=
  if j.stamped then "[" ++ now.clockText ++ "] " else ""

/-- Log a line. -/
def emit (j : Journal) (now : Time.Moment) (line : Line) : Journal :=
  if j.enabled && (j.debug || !line.isDebug) then j.put (j.stamp now ++ line.render) else j

/-- Log lines in order. -/
def emitAll (j : Journal) (now : Time.Moment) (lines : List Line) : Journal :=
  lines.foldl (fun j line => j.emit now line) j

/-- Everything printed so far. -/
def text (j : Journal) : String := String.join j.printed.reverse

/-- Forget what was printed. -/
def clear (j : Journal) : Journal := { j with printed := [] }

/-- Putting a text out by `put` does not change whether the journal is enabled. -/
@[simp] theorem put_enabled (j : Journal) (text : String) : (j.put text).enabled = j.enabled := by
  unfold put
  split <;> rfl

/-- Neither does logging a line by `emit`, whatever becomes of the line. -/
@[simp] theorem emit_enabled (j : Journal) (now : Time.Moment) (line : Line) :
    (j.emit now line).enabled = j.enabled := by
  unfold emit
  split <;> simp

end Journal

end Twilight.Log
