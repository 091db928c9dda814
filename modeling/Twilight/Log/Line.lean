
namespace Twilight.Log

/-!
# Log lines

The daemon logs as one stream of decorated lines, so that related lines read as a block.

* `Line` — the kinds of lines; `Line.decoration` and `Line.text` make up what is printed.
* `blockStart`, `failureLines` — the kinds that take two lines.
* `stripColors` — a text without its color codes, for log files.
-/

/-- A line of the log. -/
inductive Line where
  | version (number : String)
  | finish
  | pipe
  | decorated (message : String)
  | indented (message : String)
  | info (message : String)
  | warning (message : String)
  | error (message : String)
  | critical (message : String)
  | debug (message : String)
  | failure (message : String)
  deriving DecidableEq, Repr

/-- A word in the color with a number. -/
def colored (color word : String) : String := "\x1b[" ++ color ++ "m" ++ word ++ "\x1b[0m"

namespace Line

/-- What stands in front of the message. -/
def decoration : Line → String
  | .version _ => "┏ "
  | .finish => "╹"
  | .pipe => "┃"
  | .decorated _ => "┣ "
  | .indented _ => "┃   "
  | .info _ => "┣[" ++ colored "32" "INFO" ++ "] "
  | .warning _ => "┣[" ++ colored "33" "WARNING" ++ "] "
  | .error _ => "┣[" ++ colored "31" "ERROR" ++ "] "
  | .critical _ => "┣[" ++ colored "31" "CRITICAL" ++ "] "
  | .debug _ => "┣[" ++ colored "32" "DEBUG" ++ "] "
  | .failure _ => "┗[" ++ colored "31" "ERROR" ++ "] "

/-- The message. -/
def message : Line → String
  | .version number => "appearanced v" ++ number ++ " ━━╸"
  | .finish | .pipe => ""
  | .decorated m | .indented m | .info m | .warning m | .error m | .critical m | .debug m
  | .failure m => m

/-- The line as it is printed. -/
def render (l : Line) : String := l.decoration ++ l.message ++ "\n"

/-- Whether the line is printed only while debug output is on. -/
def isDebug : Line → Bool
  | .debug _ => true
  | _ => false

end Line

/-- A line that opens a new block. -/
def blockStart (message : String) : List Line := [.pipe, .decorated message]

/-- An error that ends what was going on. -/
def failureLines (message : String) : List Line := [.pipe, .failure message]

/-! ### Color codes -/

/-- Drop color codes: an escape character and a bracket, up to the next `m`. While `inside` one,
    everything is dropped. An escape character without a bracket stays. -/
def dropCodes : (inside : Bool) → List Char → List Char
  | _, [] => []
  | true, c :: cs => dropCodes (c ≠ 'm') cs
  | false, c :: cs =>
    match c, cs with
    | '\x1b', '[' :: rest => dropCodes true rest
    | c, cs => c :: dropCodes false cs

/-- A text without color codes. -/
def stripColors (cs : List Char) : List Char := dropCodes false cs

example : stripColors "\x1b[31mred\x1b[0m, \x1bm".toList = "red, \x1bm".toList := by decide

end Twilight.Log
