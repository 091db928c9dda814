import Twilight.Files.Path
import Twilight.Table

namespace Twilight

/-!
# The environment

* `Environment` — the variables of the process, and the home directory of its account.
* `homeDirectory?`, `configDirectory?`, `stateDirectory?` — the user's directories. A variable that
  names one of them counts only if it holds an absolute path.
* `runtimeDirectory` — where the lock lives; here any value counts.
-/

/-- Variables by name, and the home directory on record for the account, if there is one. -/
structure Environment where
  entries : Table String String := {}
  accountHome : Option String := none

namespace Environment

def get? (env : Environment) (name : String) : Option String := env.entries.get? name

/-- A directory given by a variable. -/
def directory? (env : Environment) (name : String) : Option String :=
  (env.get? name).filter Path.isAbsolute

/-- The directory that the variable names, even a relative one; where the variable is missing or
    empty, the one on record. -/
def homeDirectory? (env : Environment) : Option String :=
  match (env.get? "HOME").filter fun home => !home.isEmpty with
  | some home => some home
  | none => env.accountHome

/-- The directory of `name`, else one below the home directory. -/
def directoryOr? (env : Environment) (name below : String) : Option String :=
  match env.directory? name with
  | some dir => some dir
  | none => env.homeDirectory?.map fun home => Path.join home below

def configDirectory? (env : Environment) : Option String :=
  env.directoryOr? "XDG_CONFIG_HOME" ".config"

/-- The directory for state, or else the one for local data. -/
def stateDirectory? (env : Environment) : Option String :=
  match env.directoryOr? "XDG_STATE_HOME" ".local/state" with
  | some dir => some dir
  | none => env.directoryOr? "XDG_DATA_HOME" ".local/share"

def runtimeDirectory (env : Environment) : String := (env.get? "XDG_RUNTIME_DIR").getD "/tmp"

/-- Where the lock of the daemon lives. -/
def lockPath (env : Environment) : String := Path.join env.runtimeDirectory "appearanced.lock"

end Environment

end Twilight
