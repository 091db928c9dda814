import Twilight.Text.Blank
import Twilight.Text.Numeral
import Twilight.Window

namespace Twilight.ClockText

/-!
# Minutes of the day as `HH:MM`

* `write` — two digits, a colon, two digits; a number that is no minute of the day stands between
  angle brackets.
* `read` — one or two digits, a colon, one or two digits, with white space allowed before either
  number. The first problem from the left is reported.
-/

open Text Text.Numeral

/-- Why a text is no time of day. -/
inductive Problem where
  | endsEarly
  | invalidCharacter
  | outOfRange
  | trailing
  deriving DecidableEq, Repr

/-- The words for a problem. -/
def Problem.message : Problem → String
  | .endsEarly => "premature end of input"
  | .invalidCharacter => "input contains invalid characters"
  | .outOfRange => "input is out of range"
  | .trailing => "trailing input"

/-- The characters of a minute of the day. -/
def write (minute : Int) : List Char :=
  if isMinuteOfDay minute then
    twoDigits (minute / 60).toNat ++ ':' :: twoDigits (minute % 60).toNat
  else '<' :: (toString minute).toList ++ ['>']

/-- One or two digits from the front. -/
def readDigits : List Char → Except Problem (Nat × List Char)
  | [] => .error .endsEarly
  | c :: cs =>
    match digit? c with
    | none => .error .invalidCharacter
    | some tens =>
      match cs with
      | [] => .ok (tens, [])
      | c' :: cs' =>
        match digit? c' with
        | none => .ok (tens, c' :: cs')
        | some ones => .ok (tens * 10 + ones, cs')

/-- A number up to `limit` behind white space. -/
def readField (limit : Nat) (cs : List Char) : Except Problem (Nat × List Char) :=
  match readDigits (trimStart cs) with
  | .error e => .error e
  | .ok (n, rest) => if limit < n then .error .outOfRange else .ok (n, rest)

/-- The minute of the day that a text without white space around it denotes. -/
def read (cs : List Char) : Except Problem Int :=
  match readField 23 cs with
  | .error e => .error e
  | .ok (_, []) => .error .endsEarly
  | .ok (hour, ':' :: cs) =>
    match readField 59 cs with
    | .error e => .error e
    | .ok (minute, []) => .ok (hour * 60 + minute)
    | .ok (_, _ :: _) => .error .trailing
  | .ok (_, _ :: _) => .error .invalidCharacter

example : read "9:5".toList = .ok 545 ∧ read "24:00".toList = .error .outOfRange ∧
    read "9 :5".toList = .error .invalidCharacter ∧ read "9".toList = .error .endsEarly ∧
    read "9:050".toList = .error .trailing := ⟨rfl, rfl, rfl, rfl, rfl⟩

end Twilight.ClockText

namespace Twilight

/-- A minute of the day as `HH:MM`. -/
def minuteText (minute : Int) : String := String.ofList (ClockText.write minute)

/-- A window as `HH:MM → HH:MM`. -/
def Window.text (w : Window) : String := minuteText w.start ++ " → " ++ minuteText w.finish

end Twilight
