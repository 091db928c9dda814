import Std.Time.Zoned
import Twilight.CommandLine.Session

namespace Twilight.Program

/-!
# The program

The outer layer: what the machine holds is put in front of a session, and what the session did is
carried out on the machine.

* `surroundings` — clock, time zone, environment, and the files that a session can touch.
* `carryOut` — write, remove and print what a session left.
* `keepRunning` — the life of the daemon, one turn each second.
-/

open CommandLine Time

/-! ### Clock and environment -/

/-- The offset of a kind of local time, in seconds. -/
def offsetOf (t : Std.Time.TimeZone.LocalTimeType) : Int := t.gmtOffset.second.val

/-- The zone of this machine; UTC where none is set up. -/
def localZone : IO Zone := do
  try
    let rules ← Std.Time.Database.defaultGetLocalZoneRules
    return {
      base := offsetOf rules.initialLocalTimeType
      transitions := rules.transitions.toList.map fun t => ⟨t.time.val, offsetOf t.localTimeType⟩ }
  catch _ => return {}

/-- The time now. -/
def now (z : Zone) : IO Moment := do
  return Moment.ofNanos z (← Std.Time.Timestamp.now).toNanosecondsSinceUnixEpoch.val

/-- The variables that count. -/
def variableNames : List String :=
  ["HOME", "XDG_CONFIG_HOME", "XDG_STATE_HOME", "XDG_DATA_HOME", "XDG_RUNTIME_DIR"]

/-- The home directory in an account's entry, if the entry is that of user number `user`. -/
def homeOfUser? (user entry : String) : Option String :=
  match entry.splitOn ":" with
  | [_, _, number, _, _, home, _] => if number = user then some home else none
  | _ => none

/-- The home directory on record for the account of this process. -/
def readAccountHome : IO (Option String) := do
  try
    let status ← IO.FS.readFile "/proc/self/status"
    let some user := (status.splitOn "\nUid:\t")[1]? | return none
    let user := (user.splitOn "\t").headD ""
    return ((← IO.FS.readFile "/etc/passwd").splitOn "\n").findSome? (homeOfUser? user)
  catch _ => return none

def readEnvironment : IO Environment := do
  let entries ← variableNames.filterMapM fun name => do
    return (← IO.getEnv name).map fun value => (name, value)
  return { entries := Table.ofList entries, accountHome := ← readAccountHome }

/-! ### Processes -/

/-- The number of this process: the first word of its entry in the process table. -/
def ownNumber : IO Nat := do
  try return (((← IO.FS.readFile "/proc/self/stat").splitOn " ").headD "").toNat?.getD 0
  catch _ => return 0

/-- Whether the process table has an entry for a number. -/
def hasProcess (pid : Nat) : IO Bool := do
  try
    let _ ← IO.FS.readFile s!"/proc/{pid}/stat"
    return true
  catch _ => return false

/-- This process, and the owner of a lock if it is alive. -/
def processes (lock : Option String) : IO Processes := do
  let own ← ownNumber
  match lock.map LockOwner.read with
  | some (.ok owner) =>
    let others := if ← hasProcess owner.pid then [owner.pid] else []
    return { own := own, others := others }
  | _ => return { own := own, others := [] }

/-! ### Files -/

/-- What is at a path of the machine. -/
inductive Found where
  | missing
  | directory
  | file (contents : Contents)

/-- Look at a path. A directory opens, but cannot be read. -/
def look (path : String) : IO Found := do
  try
    let handle ← IO.FS.Handle.mk path .read
    (return .file (.ofBytes (← handle.readBinToEnd).toList)) <|> return .directory
  catch _ => return .missing

/-- The paths that lead to a place, the shortest first. -/
def pathsTo (place : Place) : List String :=
  (List.range place.length).map fun n => "/" ++ "/".intercalate (place.take (n + 1))

/-- Whether a file holds just these contents. -/
def holds (fs : FileSystem) (path : String) (contents : Contents) : Bool :=
  match fs.lookup? path with
  | some (.file _ old) => old = contents
  | _ => false

/-- Put what is at a path of the machine into a file system. A file that is known is left alone, so
    that nobody takes it for changed. -/
def takeInPath (fs : FileSystem) (path : String) : IO FileSystem := do
  match ← look path with
  | .missing => return (fs.removeFile path).2
  | .directory => return (fs.createDirectories path).2
  | .file contents =>
    return if holds fs path contents then fs else (fs.write path contents).2

/-- Put a path into a file system, with the directories above it. -/
def takeIn (fs : FileSystem) (path : String) : IO FileSystem :=
  (pathsTo ((Path.pieces path).foldl FileSystem.step (fs.origin path))).foldlM takeInPath fs

/-- The paths that a session with these options can touch. -/
def touched (d : Daemon) (o : Options) (config : Config) : List String :=
  [(Config.path? d.environment o.configDirectory).toOption,
    (config.settingsPath? d.environment).toOption,
    (config.parametersPath? d.environment).toOption,
    some d.environment.lockPath, o.logFile].filterMap id

/-- The options of an action. -/
def optionsOf : Action → Options
  | .run o | .status o | .check o _ _ => o
  | .help | .version | .usageError _ => {}

/-- Whether another process holds the lock file. -/
def isHeld (path : String) : IO Bool := do
  try
    let handle ← IO.FS.Handle.mk path .readWrite
    return !(← handle.tryLock)
  catch _ => return false

/-- Mark the lock file as held, if another process holds it. -/
def markHeld (fs : FileSystem) (path : String) : IO FileSystem := do
  if ← isHeld path then
    match fs.lookup? path with
    | some (.file id _) => return { fs with locked := id :: fs.locked }
    | _ => return fs
  else return fs

/-- A daemon in front of what the machine holds, and the paths that it can touch. -/
def surroundings (action : Action) : IO (Daemon × List String) := do
  let zone ← localZone
  let here := ((Path.pieces (← IO.currentDir).toString).filter fun name => name ≠ "")
  let fs ← takeIn { here := here } "."
  let d : Daemon :=
    { zone := zone, clock := ← now zone, environment := ← readEnvironment, files := fs
      processes := default }
  let o := optionsOf action
  let fs ← match Config.path? d.environment o.configDirectory with
    | .ok path => takeIn fs path
    | .error _ => pure fs
  let config := (Config.load fs d.environment o.configDirectory).result.toOption.getD {}
  let paths := touched d o config
  let fs ← markHeld (← paths.foldlM takeIn fs) d.environment.lockPath
  let processes ← processes (fs.text? d.environment.lockPath)
  return ({ d with files := fs, processes := processes }, paths)

/-! ### Effects -/

/-- Make one path of the machine hold what it holds after a session. -/
def carryOutPath (before after : FileSystem) (path : String) : IO Unit := do
  match before.text? path, after.text? path with
  | old, some text =>
    if old ≠ some text then
      IO.FS.createDirAll (Path.directory path)
      IO.FS.writeFile path text
  | some _, none => IO.FS.removeFile path
  | none, none => pure ()

/-- Carry out what a session did to the files, and print what it logged. -/
def carryOut (paths : List String) (before : FileSystem) (d : Daemon) : IO Daemon := do
  let complete := (Daemon.closeLog.run d).2
  paths.forM (carryOutPath before complete.files)
  IO.print d.journal.text
  (← IO.getStdout).flush
  return { d with journal := d.journal.clear }

/-! ### The daemon -/

/-- One turn of a running daemon: notice edits of the settings file, and fire what is due. -/
def turn (paths : List String) (d : Daemon) : IO Daemon := do
  let files ← match d.watch with
    | some watch => takeIn d.files watch.path
    | none => pure d.files
  let d := { d with clock := ← now d.zone, files := files }
  let (_, d) := (Daemon.noticeEdits .quiet).run d
  let (_, after) := (Daemon.fireDue .quiet).run d
  carryOut paths files after

/-- Turn after turn, until the system ends the process. -/
partial def keepRunning (paths : List String) (d : Daemon) : IO Unit := do
  IO.sleep 1000
  keepRunning paths (← turn paths d)

/-- Hold the lock of the machine on the lock file while an action runs. -/
def holding (path : String) (action : IO Unit) : IO Unit := do
  let handle ← IO.FS.Handle.mk path .readWrite
  let _ ← handle.tryLock
  action
  handle.unlock

/-- Run the daemon with these options. -/
def runDaemon (o : Options) (paths : List String) (d : Daemon) : IO UInt32 := do
  let command : Act (Except ActionError Running) := do
    match ← prepare o with
    | .error e => pure (.error e)
    | .ok _ =>
      match ← startUp { debug := o.debug } with
      | .error e => pure (.error (.start e))
      | .ok running => pure (.ok running)
  match command.run d with
  | (.ok _, started) =>
    let started ← carryOut paths d.files started
    holding d.environment.lockPath (keepRunning paths started)
    return 0
  | (.error e, failed) =>
    let (result, failed) := (report (.error e)).run (Daemon.closeLog.run failed).2
    let _ ← carryOut paths d.files failed
    result.errors.forM fun line => IO.eprintln line
    return result.exitCode.toUInt32

/-- Perform any other action. -/
def performOnce (action : Action) (paths : List String) (d : Daemon) : IO UInt32 := do
  let (result, after) := (perform [] action).run d
  let _ ← carryOut paths d.files after
  result.errors.forM fun line => IO.eprintln line
  return result.exitCode.toUInt32

end Twilight.Program

open Twilight Twilight.Program in
/-- Run the program with the arguments of the command line. -/
def main (arguments : List String) : IO UInt32 := do
  let action := CommandLine.parse arguments
  let (d, paths) ← surroundings action
  match action with
  | .run o => runDaemon o paths d
  | action => performOnce action paths d
