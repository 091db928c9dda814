import Twilight.Daemon.Basic

namespace Twilight

/-!
# Taking the lock

* `Daemon.takeLock` — acquire a lock for a settings file, and warn of what was cleared for it.
* `Daemon.returnLock` — give it back.
* `Daemon.keepLock`, `Daemon.dropLock` — the same for locks kept under labels.
-/

namespace Daemon

/-- Acquire the lock at `path` for the settings at `settings`. -/
def takeLock (path settings : String) : Act (Except LockProblem LockGuard) := do
  let d ← get
  let acquisition := d.files.acquire d.processes path settings
  set { d with files := acquisition.files }
  if let some cleanup := acquisition.cleanup then warn cleanup.message
  pure acquisition.result

/-- Give a lock back. -/
def returnLock (lock : LockGuard) : Act Unit :=
  modify fun d => { d with files := d.files.release lock }

/-- Give back the lock kept under a label, if there is one. -/
def dropLock (label : String) : Act Bool := do
  match (← get).locks.get? label with
  | none => pure false
  | some lock =>
    modify fun d => { d with locks := d.locks.erase label }
    returnLock lock
    pure true

/-- Acquire a lock and keep it under a label. One that was kept there is given back afterwards. -/
def keepLock (label path settings : String) : Act (Except LockProblem String) := do
  match ← takeLock path settings with
  | .error e => pure (.error e)
  | .ok lock =>
    let _ ← dropLock label
    modify fun d => { d with locks := d.locks.insert label lock }
    pure (.ok lock.path)

end Daemon

end Twilight
