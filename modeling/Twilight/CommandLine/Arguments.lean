namespace Twilight.CommandLine

/-!
# Arguments of the command line

Arguments are words and options. An option may stand anywhere; `-c` and `-l` take the argument
behind them, whatever it is.

* `Action` — what the arguments ask for.
* `parse` — the action of a list of arguments. A request for the version or for help wins over
  everything else, even in the place of an option's value.
* `split` — options and words apart; `dispatch` — the action of the words.
-/

/-- The options of every command. -/
structure Options where
  debug : Bool := false
  configDirectory : Option String := none
  logFile : Option String := none
  deriving DecidableEq, Repr, Inhabited

/-- Why arguments make no sense. -/
inductive UsageError where
  | missingDirectory (option : String)
  | missingFile (option : String)
  | unknownOption (option : String)
  | checkArguments
  | surplusArguments (command : String)
  | unknownCommand (command : String)
  deriving DecidableEq, Repr

/-- The message for a usage error. -/
def UsageError.message : UsageError → String
  | .missingDirectory option => s!"{option} requires a directory"
  | .missingFile option => s!"{option} requires a file path"
  | .unknownOption option => s!"Unknown option: {option}"
  | .checkArguments => "check expects <start> <end> as HH:MM"
  | .surplusArguments command => s!"{command} takes no arguments"
  | .unknownCommand command => s!"Unknown command: {command}"

/-- What the arguments ask for. -/
inductive Action where
  | run (options : Options)
  | status (options : Options)
  | check (options : Options) (start finish : String)
  | help
  | version
  | usageError (error : UsageError)
  deriving DecidableEq, Repr

def asksVersion (argument : String) : Bool :=
  argument = "--version" || argument = "-V" || argument = "-v"

def asksHelp (argument : String) : Bool := argument = "--help" || argument = "-h"

/-- Whether an argument has the form of an option; a dash alone is a word. -/
def isOption (argument : String) : Bool :=
  match argument.toList with
  | '-' :: _ :: _ => true
  | _ => false

/-- What an argument is by itself. -/
inductive Kind where
  | debug
  | directory
  | logFile
  | unknown
  | word
  deriving DecidableEq, Repr

def kindOf (argument : String) : Kind :=
  if argument = "--debug" || argument = "-d" then .debug
  else if argument = "--config" || argument = "-c" then .directory
  else if argument = "--log" || argument = "-l" then .logFile
  else if isOption argument then .unknown
  else .word

/-- Options and words, read from the left; the last value of an option counts. -/
def splitFrom (options : Options) (words : List String) :
    List String → Except UsageError (Options × List String)
  | [] => .ok (options, words)
  | argument :: rest =>
    match kindOf argument with
    | .debug => splitFrom { options with debug := true } words rest
    | .directory =>
      match rest with
      | [] => .error (.missingDirectory argument)
      | value :: rest => splitFrom { options with configDirectory := some value } words rest
    | .logFile =>
      match rest with
      | [] => .error (.missingFile argument)
      | value :: rest => splitFrom { options with logFile := some value } words rest
    | .unknown => .error (.unknownOption argument)
    | .word => splitFrom options (words ++ [argument]) rest

/-- Options and words of arguments. -/
def split (arguments : List String) : Except UsageError (Options × List String) :=
  splitFrom {} [] arguments

/-- The action that words ask for. -/
def dispatch (options : Options) : List String → Action
  | [] => .run options
  | command :: rest =>
    if command = "run" then
      if rest = [] then .run options else .usageError (.surplusArguments command)
    else if command = "status" then
      if rest = [] then .status options else .usageError (.surplusArguments command)
    else if command = "check" then
      match rest with
      | [start, finish] => .check options start finish
      | _ => .usageError .checkArguments
    else .usageError (.unknownCommand command)

/-- The action that arguments ask for. -/
def parse (arguments : List String) : Action :=
  if arguments.any asksVersion then .version
  else if arguments.any asksHelp then .help
  else
    match split arguments with
    | .ok (options, words) => dispatch options words
    | .error e => .usageError e

end Twilight.CommandLine
