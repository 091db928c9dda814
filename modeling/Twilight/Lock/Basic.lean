import Twilight.Files.FileSystem
import Twilight.Text.Blank
import Twilight.Text.Lines
import Twilight.Text.Numeral

namespace Twilight

/-!
# The lock of the daemon

Only one daemon may own a settings file at a time. It holds a lock on a file that names it.

* `LockOwner` — who owns a lock: `LockOwner.write` and `LockOwner.read` are the contents of its
  file.
* `FileSystem.tryAcquire` — open the file, lock it, and put the owner into it.
* `FileSystem.acquire` — try, and where another one holds the lock, clear what it left and try
  once more; an owner that is alive is not cleared.
* `FileSystem.release` — give the lock back and remove whatever is at its path.
-/

/-- The owner of a lock. -/
structure LockOwner where
  pid : Nat
  settings : String
  deriving DecidableEq, Repr

/-- Why the contents of a lock file name no owner. -/
inductive OwnerProblem where
  | empty
  | noPid (problem : Text.Numeral.Problem)
  | noSettings
  | tooLong
  deriving DecidableEq, Repr

/-- The messages for a problem, the outermost first. -/
def OwnerProblem.chain : OwnerProblem → List String
  | .empty => ["Lock file is empty"]
  | .noPid problem => ["Invalid PID format in lock file", problem.message]
  | .noSettings => ["Lock file is missing the settings path"]
  | .tooLong => ["Invalid lock file format (expected 2 lines)"]

/-- The contents of the file: the process on one line, the settings path on the next. -/
def LockOwner.write (o : LockOwner) : String := s!"{o.pid}\n{o.settings}\n"

/-- The owner that contents name. -/
def LockOwner.read (contents : String) : Except OwnerProblem LockOwner :=
  match Text.lines (Text.trim contents.toList) with
  | [] => .error .empty
  | first :: rest =>
    match Text.Numeral.readUnsigned Text.Numeral.nat32Max (Text.trim first) with
    | .error problem => .error (.noPid problem)
    | .ok pid =>
      match rest with
      | [] => .error .noSettings
      | [settings] => .ok ⟨pid, String.ofList settings⟩
      | _ => .error .tooLong

/-! ### Processes -/

/-- The processes that exist: the one that asks, and others. Number 0 stands for its own group. -/
structure Processes where
  own : Nat
  others : List Nat := [1]
  deriving Inhabited

/-- Whether a process exists. Numbers above the range of process numbers never do. -/
def Processes.isRunning (p : Processes) (pid : Nat) : Bool :=
  pid ≤ Text.Numeral.int32Max && (pid == 0 || pid == p.own || p.others.contains pid)

/-! ### Acquiring and releasing -/

/-- A lock that is held: the number of the locked file, and the path it was opened under. -/
structure LockGuard where
  file : Nat
  path : String
  deriving DecidableEq, Repr

/-- Why a lock was not acquired. -/
inductive LockProblem where
  | notOpened (path : String) (problem : FileProblem)
  | alreadyRunning (owner : LockOwner)
  | stillHeld (path : String)
  deriving DecidableEq, Repr

/-- The messages for a problem, the outermost first. -/
def LockProblem.chain : LockProblem → List String
  | .notOpened path problem => [s!"Failed to open lock file {path}", problem.message]
  | .alreadyRunning owner =>
    [s!"appearanced is already running (PID: {owner.pid}, settings: {owner.settings})"]
  | .stillHeld path => [s!"Failed to acquire lock {path} after cleanup attempt"]

/-- Why a lock file was removed. -/
inductive Cleanup where
  | unreadable (problem : OwnerProblem)
  | ownerGone (pid : Nat)
  deriving DecidableEq, Repr

/-- The warning about a removed lock file. -/
def Cleanup.message : Cleanup → String
  | .unreadable problem => "Lock file unreadable (" ++ problem.chain.headD "" ++ "), removing"
  | .ownerGone pid => s!"Removing stale lock file (process {pid} no longer running)"

namespace FileSystem

/-- Try to lock the file at `path` and write the owner into it. `none` if somebody holds it. -/
def tryAcquire (fs : FileSystem) (path : String) (owner : LockOwner) :
    Except LockProblem (Option LockGuard) × FileSystem :=
  match fs.openFile path with
  | (.error problem, fs) => (.error (.notOpened path problem), fs)
  | (.ok id, fs) =>
    match fs.tryLock id with
    | none => (.ok none, fs)
    | some fs => (.ok (some ⟨id, path⟩), fs.setContents id (.text owner.write))

/-- Remove the file of a lock that somebody holds, unless its owner is alive. A file that cannot be
    read is taken to be gone. -/
def clearConflict (fs : FileSystem) (processes : Processes) (path : String) :
    Except LockProblem (Option Cleanup) × FileSystem :=
  match fs.text? path with
  | none => (.ok none, fs)
  | some contents =>
    match LockOwner.read contents with
    | .error problem => (.ok (some (.unreadable problem)), (fs.removeFile path).2)
    | .ok owner =>
      if processes.isRunning owner.pid then (.error (.alreadyRunning owner), fs)
      else (.ok (some (.ownerGone owner.pid)), (fs.removeFile path).2)

/-- What came of an acquisition. -/
structure Acquisition where
  result : Except LockProblem LockGuard
  cleanup : Option Cleanup := none
  files : FileSystem

/-- Acquire the lock at `path` for the settings at `settings`. -/
def acquire (fs : FileSystem) (processes : Processes) (path settings : String) : Acquisition :=
  let owner : LockOwner := ⟨processes.own, settings⟩
  match fs.tryAcquire path owner with
  | (.error e, fs) => { result := .error e, files := fs }
  | (.ok (some lock), fs) => { result := .ok lock, files := fs }
  | (.ok none, fs) =>
    match fs.clearConflict processes path with
    | (.error e, fs) => { result := .error e, files := fs }
    | (.ok cleanup, fs) =>
      match fs.tryAcquire path owner with
      | (.error e, fs) => { result := .error e, cleanup := cleanup, files := fs }
      | (.ok none, fs) => { result := .error (.stillHeld path), cleanup := cleanup, files := fs }
      | (.ok (some lock), fs) => { result := .ok lock, cleanup := cleanup, files := fs }

/-- Give a lock back. -/
def release (fs : FileSystem) (lock : LockGuard) : FileSystem :=
  ((fs.unlock lock.file).removeFile lock.path).2

end FileSystem

end Twilight
