import Twilight.Files.Path
import Twilight.Table

namespace Twilight

/-!
# Files and directories

* `FileSystem` — directories and files by their place below the root, and a working directory.
* `FileSystem.place?` — where a path leads: every component but the last must be a directory.
* `FileSystem.readText`, `write`, `replace`, `createDirectories`, `removeFile`, `removeTree` — what
  the stores, the lock and the log do with paths. Each file has a number of its own, so that a file
  replaced under its path can be told from the one before.
* `FileSystem.changed` — where something happened, for those who watch a directory.
-/

/-- What a file holds: text, or bytes that are no text. -/
inductive Contents where
  | text (value : String)
  | binary (bytes : List UInt8)
  deriving DecidableEq

/-- The contents that bytes are. -/
def Contents.ofBytes (bytes : List UInt8) : Contents :=
  match String.fromUTF8? ⟨bytes.toArray⟩ with
  | some s => .text s
  | none => .binary bytes

/-- The text, where the contents are text. -/
def Contents.text? : Contents → Option String
  | .text s => some s
  | .binary _ => none

/-- A directory, or a file with its number. -/
inductive Node where
  | directory
  | file (id : Nat) (contents : Contents)
  deriving DecidableEq

/-- The names that lead from the root to a node. A directory that was removed while somebody works
    in it has no name any more: it is kept below its parent under the empty name, to which no path
    leads. -/
abbrev Place := List String

/-- Whether a place is that of a directory without a name. -/
def Place.isNameless (place : Place) : Bool := place.getLast? = some ""

/-- Why a file operation failed. -/
inductive FileProblem where
  | notFound
  | occupied
  | isDirectory
  | nameTooLong
  | zeroCharacter
  | notText
  deriving DecidableEq, Repr

/-- The words for a problem. -/
def FileProblem.message : FileProblem → String
  | .notFound => "No such file or directory (os error 2)"
  | .occupied => "File exists (os error 17)"
  | .isDirectory => "Is a directory (os error 21)"
  | .nameTooLong => "File name too long (os error 36)"
  | .zeroCharacter => "file name contained an unexpected NUL byte"
  | .notText => "stream did not contain valid UTF-8"

/-- All nodes below the root, and the directory that relative paths start from. -/
structure FileSystem where
  nodes : Table Place Node := {}
  here : Place := []
  nextId : Nat := 0
  /-- The numbers of the files that somebody holds locked. -/
  locked : List Nat := []
  /-- The places where something was made, written or removed, the latest first. -/
  changed : List Place := []

namespace FileSystem

/-! ### Paths -/

/-- The node at a place; the root is a directory. -/
def node? (fs : FileSystem) (place : Place) : Option Node :=
  if place = [] then some .directory else fs.nodes.get? place

def isDirectory (fs : FileSystem) (place : Place) : Bool :=
  match fs.node? place with
  | some .directory => true
  | _ => false

/-- The place one piece further on. -/
def step (place : Place) (piece : String) : Place :=
  if piece = "" || piece = "." then place
  else if piece = ".." then place.dropLast
  else place ++ [piece]

/-- Follow pieces through directories. -/
def follow (fs : FileSystem) : Place → List String → Option Place
  | place, [] => some place
  | place, piece :: rest =>
    if fs.isDirectory place && Path.isName piece then fs.follow (step place piece) rest else none

/-- Where paths of this kind start. -/
def origin (fs : FileSystem) (path : String) : Place :=
  if Path.isAbsolute path then [] else fs.here

/-- Where a path leads, whether or not something is there. -/
def place? (fs : FileSystem) (path : String) : Option Place :=
  if path ≠ "" ∧ Path.isPossible path then fs.follow (fs.origin path) (Path.pieces path) else none

/-- Why the system refuses a path before it looks at any directory. -/
def refusal? (path : String) : Option FileProblem :=
  if Path.isPossible path then none
  else if path.toList.contains '\x00' then some .zeroCharacter
  else some .nameTooLong

/-- Why the system refuses a path when it is given from the root on. One that starts from a removed
    directory cannot be given so. -/
def refusalFromRoot? (fs : FileSystem) (path : String) : Option FileProblem :=
  if Path.isAbsolute path then refusal? path
  else if fs.here.isNameless then some .notFound
  else refusal? (Path.join ("/" ++ "/".intercalate fs.here) path)

/-- Why a path leads nowhere. -/
def problemOf (path : String) : FileProblem :=
  match refusal? path with
  | some problem => problem
  | none => if (Path.pieces path).all Path.isName then .notFound else .nameTooLong

/-- The node that a path names. -/
def lookup? (fs : FileSystem) (path : String) : Option Node := (fs.place? path).bind fs.node?

def exists? (fs : FileSystem) (path : String) : Bool := (fs.lookup? path).isSome

/-- The text of a file. -/
def readText (fs : FileSystem) (path : String) : Except FileProblem String :=
  match fs.lookup? path with
  | none => .error (problemOf path)
  | some .directory => .error .isDirectory
  | some (.file _ (.text s)) => .ok s
  | some (.file _ (.binary _)) => .error .notText

/-- The text of a file, if there is one. -/
def text? (fs : FileSystem) (path : String) : Option String := (fs.readText path).toOption

/-! ### Writing -/

/-- Put a node at a place. -/
def putNode (fs : FileSystem) (place : Place) (node : Node) : FileSystem :=
  { fs with nodes := fs.nodes.insert place node, changed := place :: fs.changed }

/-- Put a new file at a place. -/
def putFile (fs : FileSystem) (place : Place) (contents : Contents) : FileSystem :=
  { fs.putNode place (.file fs.nextId contents) with nextId := fs.nextId + 1 }

/-- Open the file at a path, creating an empty one where nothing is; its number. Nothing can be
    created in a directory without a name. -/
def openFile (fs : FileSystem) (path : String) : Except FileProblem Nat × FileSystem :=
  match fs.place? path with
  | none => (.error (problemOf path), fs)
  | some place =>
    match fs.node? place with
    | some .directory => (.error .isDirectory, fs)
    | some (.file id _) => (.ok id, fs)
    | none =>
      if Place.isNameless place.dropLast then (.error .notFound, fs)
      else (.ok fs.nextId, fs.putFile place (.text ""))

/-- Whether a node is the file with a number. -/
def isFile (id : Nat) : Node → Bool
  | .directory => false
  | .file i _ => i = id

/-- Set the contents of the file with a number, wherever it is. -/
def setContents (fs : FileSystem) (id : Nat) (contents : Contents) : FileSystem :=
  { fs with
    nodes := fs.nodes.map fun node => if isFile id node then .file id contents else node
    changed := (fs.nodes.filter fun _ node => isFile id node).keys ++ fs.changed }

/-- Write a file in place: it keeps its number. -/
def write (fs : FileSystem) (path : String) (contents : Contents) :
    Except FileProblem Unit × FileSystem :=
  match fs.openFile path with
  | (.error e, fs) => (.error e, fs)
  | (.ok id, fs) => (.ok (), fs.setContents id contents)

/-- Create the directories that pieces lead through. -/
def createFrom (fs : FileSystem) : Place → List String → Except FileProblem Unit × FileSystem
  | _, [] => (.ok (), fs)
  | place, piece :: rest =>
    let next := step place piece
    if Path.isName piece then
      match fs.node? next with
      | some .directory => fs.createFrom next rest
      | some (.file _ _) => (.error .occupied, fs)
      | none =>
        if place.isNameless then (.error .notFound, fs)
        else (fs.putNode next .directory).createFrom next rest
    else (.error .nameTooLong, fs)

/-- Create a directory and all that are missing above it. -/
def createDirectories (fs : FileSystem) (path : String) : Except FileProblem Unit × FileSystem :=
  match refusal? path with
  | some problem => (.error problem, fs)
  | none => if path = "" then (.ok (), fs) else fs.createFrom (fs.origin path) (Path.pieces path)

/-- The name under which new contents are gathered before they take the place of a file. -/
def temporaryName : String := ".tmpXXXXXX"

/-- Let a new file with `contents` take the place of what a path names. The directory is created
    where it is missing, and must have a path from the root for the file in which the contents are
    gathered; a path that names a directory is refused. -/
def replace (fs : FileSystem) (path : String) (contents : String) :
    Except FileProblem Unit × FileSystem :=
  match fs.createDirectories (Path.directory path) with
  | (.error e, fs) => (.error e, fs)
  | (.ok _, fs) =>
    match fs.refusalFromRoot? (Path.join (Path.directory path) temporaryName) with
    | some problem => (.error problem, fs)
    | none =>
      match fs.place? path with
      | none => (.error (problemOf path), fs)
      | some place =>
        if fs.isDirectory place then (.error .isDirectory, fs)
        else (.ok (), fs.putFile place (.text contents))

/-! ### Locks -/

/-- Lock the file with a number for oneself, unless somebody holds it. -/
def tryLock (fs : FileSystem) (id : Nat) : Option FileSystem :=
  if id ∈ fs.locked then none else some { fs with locked := id :: fs.locked }

/-- Give up the lock on a file. -/
def unlock (fs : FileSystem) (id : Nat) : FileSystem :=
  { fs with locked := fs.locked.filter (· ≠ id) }

/-! ### Removing and listing -/

/-- Remove a file; whether there was one. -/
def removeFile (fs : FileSystem) (path : String) : Bool × FileSystem :=
  match fs.place? path with
  | none => (false, fs)
  | some place =>
    match fs.node? place with
    | some (.file _ _) =>
      (true, { fs with nodes := fs.nodes.erase place, changed := place :: fs.changed })
    | _ => (false, fs)

/-- Let the working directory lose its name. -/
def loseHere (fs : FileSystem) : FileSystem :=
  let nameless := fs.here.dropLast ++ [""]
  { fs with nodes := fs.nodes.insert nameless .directory, here := nameless }

/-- Remove everything that has a name and is at a place for which `gone` holds. The working
    directory stays, but without a name. -/
def removeWhere (fs : FileSystem) (gone : Place → Bool) : FileSystem :=
  let gone (place : Place) : Bool := gone place && !place.isNameless
  let rest := { fs with
    nodes := fs.nodes.filter fun place _ => !gone place
    changed := fs.nodes.keys.filter gone ++ fs.changed }
  if gone fs.here then rest.loseHere else rest

/-- Remove a directory and all below it; whether it is gone. What is below goes first. If that cuts
    the path off from the directory, then it counts as gone; a path that ends in dots removes no
    directory. -/
def removeTree (fs : FileSystem) (path : String) : Bool × FileSystem :=
  match fs.place? path with
  | none => (false, fs)
  | some place =>
    if place = [] ∨ !fs.isDirectory place then (false, fs)
    else
      let emptied := fs.removeWhere fun p => place.isPrefixOf p && p ≠ place
      if (emptied.place? path).isNone then (true, emptied)
      else if Path.endsInDots path then (false, emptied)
      else (true, emptied.removeWhere (· = place))

/-- The names in a directory, in order. -/
def names (fs : FileSystem) (path : String) : List String :=
  match fs.place? path with
  | none => []
  | some place =>
    if fs.isDirectory place then
      (fs.nodes.keys.filter fun p => p.dropLast = place && !p.isNameless).filterMap (·.getLast?)
    else []

end FileSystem

end Twilight
