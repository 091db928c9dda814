import Twilight.Daemon.Users

namespace Twilight

/-!
# Changes of the settings

* `Daemon.announce` — tell the observer of a value that it changed.
* `Daemon.storeSettingBy`, `Daemon.putSettingBy` — store a value, in the file before it is taken,
  and announce it, for any way to write the file.
* `Daemon.storeSetting`, `Daemon.putSetting` — the same with the file replaced as a whole.
* `Daemon.reload` — take over what somebody else wrote into the file, and announce what changed.
  `Daemon.reloadIn` does so in any order.
* `Daemon.reconcile` — bring a fixed stored mode in line with a status observed elsewhere.
* `Daemon.watchSettings`, `Daemon.noticeEdits` — follow the file.
* `Watch.look` — whether something happened to a watched file. What is watched is a directory: once
  it is removed nothing more is seen, even if another one takes its place.
-/

/-! ### Watching -/

/-- A watch, from now on, on the directory of a path for what has the given name. -/
def FileSystem.watch (fs : FileSystem) (path name : String) : Watch :=
  ⟨path, fs.place? (Path.directory path), name, fs.changed.length⟩

/-- The places where something happened after the first `seen` changes, in order. -/
def FileSystem.changedSince (fs : FileSystem) (seen : Nat) : List Place :=
  (fs.changed.take (fs.changed.length - seen)).reverse

/-- Whether a change at `place` is one of the watched directory or in it, under the name that is
    watched for. -/
def Watch.concerns (watch : Watch) (directory place : Place) : Bool :=
  (place = directory || place.dropLast = directory) && place.getLast? = some watch.name

/-- What happened since the last look: whether it concerns the file, and the watch afterwards. A
    change at the place of the watched directory is its removal. -/
def Watch.look (watch : Watch) (fs : FileSystem) : Bool × Watch :=
  let changes := fs.changedSince watch.seen
  let watch := { watch with seen := fs.changed.length }
  match watch.directory with
  | none => (false, watch)
  | some directory =>
    let concerned := changes.takeWhile (· ≠ directory) |>.any (watch.concerns directory)
    if changes.contains directory then
      (concerned || watch.concerns directory directory, { watch with directory := none })
    else (concerned, watch)

namespace Daemon

/-- Change the settings store. -/
def modifySettings (f : SettingsStore → SettingsStore) : Act Unit :=
  modify fun d => { d with settings := f d.settings }

/-- What an observer does about a change of one of a user's settings. -/
def tell (h : Hooks) (observer : Observer) (user : UserId) : Act Unit :=
  match observer.action with
  | .manager => settingChanged h observer.told user
  | .script label steps => do
    note (.changed label observer.told user)
    h.run steps

/-- Tell the observer of a value, if there is one, that it changed. -/
def announce (h : Hooks) (key : String) (user : UserId) : Act Unit := do
  if let some observer := (← get).settings.observers.get? (key, user) then tell h observer user

/-- Store a value: in the file first, if there is one, which `replace` writes anew. A value that
    cannot be written is not taken. -/
def storeSettingBy
    (replace : FileSystem → String → String → Except FileProblem Unit × FileSystem)
    (key value : String) (user : UserId) : Act (Except Fault Unit) :=
  modifyGet fun d =>
    let table := d.settings.values.put key value user
    let taken := { d with settings := { d.settings with values := table } }
    match d.settings.file with
    | none => (.ok (), taken)
    | some path =>
      match replace d.files path (SettingsTable.write table) with
      | (.error problem, files) => (.error (.unwritable path problem), { d with files := files })
      | (.ok _, files) => (.ok (), { taken with files := files })

/-- Store a value, with its file replaced as `FileSystem.replace` does. -/
def storeSetting (key value : String) (user : UserId) : Act (Except Fault Unit) :=
  storeSettingBy FileSystem.replace key value user

/-- Store a value and announce it, where `replace` writes the file. -/
def putSettingBy (h : Hooks)
    (replace : FileSystem → String → String → Except FileProblem Unit × FileSystem)
    (key value : String) (user : UserId) : Act (Except Fault Unit) := do
  if (← get).settings.faults.failsSet key then pure (.error .storeOffline)
  else
    match ← storeSettingBy replace key value user with
    | .error f => pure (.error f)
    | .ok _ =>
      announce h key user
      pure (.ok ())

/-- Store a value and announce it. -/
def putSetting (h : Hooks) (key value : String) (user : UserId) : Act (Except Fault Unit) :=
  putSettingBy h FileSystem.replace key value user

/-! ### Reloading -/

/-- Warn of the names in a settings file that denote no user. -/
def warnIgnored : List String → Act Unit
  | [] => pure ()
  | name :: rest => do
    warn s!"Ignoring settings for non-numeric user '{name}'"
    warnIgnored rest

/-- Take over the file at `path`; what changed. -/
def takeFile (path : String) : Act (Except Fault (List (String × UserId))) := do
  match readSettings? (← get).files path with
  | .error f => pure (.error f)
  | .ok reading =>
    warnIgnored reading.ignored
    modifyGet fun d =>
      let (changes, settings) := d.settings.replaceAll reading.table
      (.ok changes, { d with settings := settings })

/-- Announce changes that were found in the file. -/
def announceAll (h : Hooks) : List (String × UserId) → Act Unit
  | [] => pure ()
  | (key, user) :: rest => do
    debug s!"Settings file changed '{key}' for user {user}"
    announce h key user
    announceAll h rest

/-- Read the settings file again, and announce what changed in the order that `order` brings it in;
    how many values changed. -/
def reloadIn (order : List (String × UserId) → List (String × UserId)) (h : Hooks) (path : String) :
    Act (Except Fault Nat) := do
  match ← takeFile path with
  | .error f => pure (.error f)
  | .ok changes =>
    announceAll h (order changes)
    pure (.ok changes.length)

/-- Read the settings file again, and announce the changes as they are found. -/
def reload (h : Hooks) (path : String) : Act (Except Fault Nat) := reloadIn id h path

/-! ### Observed statuses -/

/-- Bring the stored mode of a user in line with an observed status: a fixed mode that contradicts
    it is replaced by the opposite one, any other mode is left alone. -/
def reconcile (h : Hooks) (user : UserId) (dark : Bool) : Act (Except Fault Unit) := do
  let stored := (((← get).manager.states.get? user).getD {}).mode
  let corrected := Mode.fixed dark
  if !stored.isFixed || stored = corrected then
    debug s!"Stored mode {stored.name} already consistent for user {user}"
    rememberStatus user dark
    pure (.ok ())
  else
    info s!"Correcting stored mode for user {user} to {corrected.name}"
    match ← putSetting h StateKey.mode.name (toString corrected.number) user with
    | .error f => pure (.error f)
    | .ok _ =>
      rememberStatus user dark
      pure (.ok ())

/-! ### Following the file -/

/-- Why a settings file cannot be followed. -/
inductive WatchProblem where
  | noParent
  | noFileName
  | directoryNotCreated (directory : String) (problem : FileProblem)
  | directoryNotWatched (directory : String) (problem : FileProblem)
  deriving DecidableEq, Repr

/-- The messages for a problem, the outermost first. -/
def WatchProblem.chain : WatchProblem → List String
  | .noParent => ["Settings path has no parent directory"]
  | .noFileName => ["Settings path has no file name"]
  | .directoryNotCreated directory problem =>
    [s!"Failed to create settings directory {directory}", problem.message]
  | .directoryNotWatched directory problem => [s!"Failed to watch {directory}", problem.message]

/-- Follow the file at `path` from now on. The directory of the file is created, and watched under
    its path from the root. -/
def watchSettings (path : String) : Act (Except WatchProblem Unit) := do
  match Path.parent? path with
  | none => pure (.error .noParent)
  | some directory =>
    let made ← modifyGet fun d =>
      let (result, files) := d.files.createDirectories directory
      (result, { d with files := files })
    match made with
    | .error problem => pure (.error (.directoryNotCreated directory problem))
    | .ok _ =>
      match Path.fileName? path with
      | none => pure (.error .noFileName)
      | some name =>
        match (← get).files.refusalFromRoot? directory with
        | some problem => pure (.error (.directoryNotWatched directory problem))
        | none =>
          modify fun d => { d with watch := some (d.files.watch path name) }
          pure (.ok ())

/-- Reload the file of a watch and report what came of it. -/
def reloadWatched (h : Hooks) (path : String) : Act Unit := do
  match ← reload h path with
  | .ok 0 => pure ()
  | .ok count => debug s!"Reloaded settings file ({count} changes)"
  | .error f =>
    log .pipe
    warn s!"Failed to reload settings file: {f.message}"

/-- Reload the watched file if something happened to it. -/
def noticeEdits (h : Hooks) : Act Unit := do
  let d ← get
  if let some watch := d.watch then
    let (concerned, watch) := watch.look d.files
    set { d with watch := some watch }
    if concerned then reloadWatched h watch.path

end Daemon

end Twilight
