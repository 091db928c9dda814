namespace Twilight.Toml

/-!
# TOML values

* `Value` — what a document holds. Numbers with a point are kept as they are written, dates and
  times in their canonical form.
* `insertAt` — put a value under a dotted key.
* `openTable`, `openElement` — begin a `[table]` or one more element of a `[[list of tables]]`.

A table can be written by a header, be implied by a longer header, grow by dotted keys, or stand
inline. `TableForm` remembers which, since each may be extended in its own way only: a header may
complete an implied table once, dotted keys may extend a dotted or implied one, and an inline table
is complete as it stands.
-/

/-- How a table came about. -/
inductive TableForm where
  | header
  | implied
  | dotted
  | inlined
  deriving DecidableEq, Repr

/-- A TOML value. A list of tables holds its last element apart: it is the one that grows. -/
inductive Value where
  | text (value : String)
  | integer (value : Int)
  | float (written : String)
  | boolean (value : Bool)
  | dateTime (written : String)
  | array (items : List Value)
  | table (form : TableForm) (entries : List (String × Value))
  | tables (earlier : List (List (String × Value))) (latest : List (String × Value))

/-- The entries of a table in the order in which they were written. -/
abbrev Entries := List (String × Value)

/-- The value under a key. -/
def Entries.get? (es : Entries) (key : String) : Option Value :=
  match es with
  | [] => none
  | (k, v) :: rest => if k = key then some v else Entries.get? rest key

/-- Put a value in the place of the one under a key, or at the end. -/
def Entries.set (es : Entries) (key : String) (v : Value) : Entries :=
  match es with
  | [] => [(key, v)]
  | (k, w) :: rest => if k = key then (k, v) :: rest else (k, w) :: Entries.set rest key v

/-- Change the table at the end of a path. Missing tables on the way get the form `fresh`; a table
    that a header wrote is closed to dotted keys, and an inline one to everything. -/
def updateAt (fresh : TableForm) (change : TableForm → Entries → Option Entries) :
    List String → TableForm → Entries → Option Entries
  | [], form, es => change form es
  | key :: path, _, es =>
    match es.get? key with
    | none =>
      (updateAt fresh change path fresh []).map fun sub => es.set key (.table fresh sub)
    | some (.table form sub) =>
      if form = .inlined || (fresh = .dotted && form = .header) then none
      else (updateAt fresh change path form sub).map fun sub => es.set key (.table form sub)
    | some (.tables earlier latest) =>
      (updateAt fresh change path .header latest).map fun sub =>
        es.set key (.tables earlier sub)
    | some _ => none

/-- Put a value under a dotted key of a table. The table that takes the value must have been begun
    the same way: by dotted keys for a key of several parts, otherwise for a single one. -/
def insertAt (path : List String) (key : String) (v : Value) (form : TableForm) (es : Entries) :
    Option Entries :=
  updateAt .dotted (fun form es =>
    if decide (form = .dotted) = path.isEmpty then none
    else match es.get? key with
      | some _ => none
      | none => some (es.set key v)) path form es

/-- Begin the table of a header below the root. -/
def openTable (path : List String) (key : String) (root : Entries) : Option Entries :=
  updateAt .implied (fun _ es =>
    match es.get? key with
    | none => some (es.set key (.table .header []))
    | some (.table .implied sub) => some (es.set key (.table .header sub))
    | some _ => none) path .header root

/-- Begin one more element of the list of tables of a header below the root. -/
def openElement (path : List String) (key : String) (root : Entries) : Option Entries :=
  updateAt .implied (fun _ es =>
    match es.get? key with
    | none => some (es.set key (.tables [] []))
    | some (.tables earlier latest) => some (es.set key (.tables (earlier ++ [latest]) []))
    | some _ => none) path .header root

/-- Change the table that a header opened, without regard to its form. -/
def changeOpened (change : TableForm → Entries → Option Entries) :
    List String → TableForm → Entries → Option Entries
  | [], form, es => change form es
  | key :: path, _, es =>
    match es.get? key with
    | some (.table form sub) =>
      (changeOpened change path form sub).map fun sub => es.set key (.table form sub)
    | some (.tables earlier latest) =>
      (changeOpened change path .header latest).map fun sub => es.set key (.tables earlier sub)
    | _ => none

end Twilight.Toml
