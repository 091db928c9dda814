import Twilight.Fault
import Twilight.Settings.Written

namespace Twilight

/-!
# Persisted parameters

* `Parameters` — texts by key, kept in memory or in a file that is written anew on every change.
* `Parameters.open?` — the parameters of a file; one that is missing holds none.
* `Parameters.get`, `Parameters.set` — one parameter.
* `Parameters.setBy` — the same for any way to write the file. A value that cannot be written is
  taken back.
-/

/-- Texts by key. -/
abbrev ParameterTable := Table String String

/-- The written form: one line per parameter. -/
def ParameterTable.write (t : ParameterTable) : String :=
  String.ofList (Toml.writeEntries t.entries)

/-- The parameters that a text describes: its entries, all of which must be texts. -/
def ParameterTable.read? (text : String) : Option ParameterTable :=
  (Toml.document? text).bind fun root => (textsOf? root).map Table.ofList

/-- A store of parameters, with the keys whose reading or writing fails. -/
structure Parameters where
  values : ParameterTable := {}
  file : Option String := none
  failsGet : String → Bool := fun _ => false
  failsSet : String → Bool := fun _ => false

instance : Inhabited Parameters := ⟨{}⟩

namespace Parameters

/-- The parameters of a file. -/
def open? (fs : FileSystem) (path : String) : Except Fault Parameters :=
  if fs.exists? path then
    match fs.readText path with
    | .error problem => .error (.unreadable path problem)
    | .ok text =>
      match ParameterTable.read? text with
      | some values => .ok { values := values, file := some path }
      | none => .error (.unparsable path)
  else .ok { file := some path }

/-- A stored value, or the fallback. -/
def get (p : Parameters) (key fallback : String) : Except Fault String :=
  if p.failsGet key then .error .parametersUnreadable else .ok (p.values.getD key fallback)

/-- Take a value over, have all values written to the file, if there is one, and put back what was
    there before if they cannot be written. -/
def setBy (p : Parameters) (replace : String → String → Except FileProblem Unit × FileSystem)
    (fs : FileSystem) (key value : String) : Except Fault Unit × Parameters × FileSystem :=
  let previous := p.values.get? key
  let values := p.values.insert key value
  match p.file with
  | none => (.ok (), { p with values := values }, fs)
  | some path =>
    match replace path (ParameterTable.write values) with
    | (.error problem, fs) =>
      (.error (.unwritable path problem), { p with values := values.putBack key previous }, fs)
    | (.ok _, fs) => (.ok (), { p with values := values }, fs)

/-- Store a value. -/
def set (p : Parameters) (fs : FileSystem) (key value : String) :
    Except Fault Unit × Parameters × FileSystem :=
  if p.failsSet key then (.error .parametersReadOnly, p, fs) else p.setBy fs.replace fs key value

end Parameters

end Twilight
