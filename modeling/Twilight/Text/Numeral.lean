namespace Twilight.Text

/-!
# Decimal numerals of bounded size

* `Numeral.Problem` — why a text is no numeral, found from left to right.
* `Numeral.readSigned`, `Numeral.readUnsigned` — the number a text denotes: one optional sign, then
  one or more of the digits `0` to `9`, inside the bounds. White space is not skipped.
* `Numeral.twoDigits`, `Numeral.padded` — the numerals of clock readings and dates.
-/

namespace Numeral

/-- Why a text is no numeral. -/
inductive Problem where
  | empty
  | invalidDigit
  | tooLarge
  | tooSmall
  deriving DecidableEq, Repr

/-- The words for a problem. -/
def Problem.message : Problem → String
  | .empty => "cannot parse integer from empty string"
  | .invalidDigit => "invalid digit found in string"
  | .tooLarge => "number too large to fit in target type"
  | .tooSmall => "number too small to fit in target type"

/-- The value of a decimal digit. -/
def digit? (c : Char) : Option Nat :=
  if '0'.toNat ≤ c.toNat ∧ c.toNat ≤ '9'.toNat then some (c.toNat - '0'.toNat) else none

/-- Read digits onto `acc`; a value above `limit` is the problem `excess`, and of two problems the
    one further left is reported. -/
def readDigits (limit : Nat) (excess : Problem) : Nat → List Char → Except Problem Nat
  | acc, [] => .ok acc
  | acc, c :: cs =>
    match digit? c with
    | none => .error .invalidDigit
    | some d =>
      if limit < acc * 10 + d then .error excess else readDigits limit excess (acc * 10 + d) cs

/-- One or more digits after a sign. -/
def readMagnitude (limit : Nat) (excess : Problem) : List Char → Except Problem Nat
  | [] => .error .invalidDigit
  | cs => readDigits limit excess 0 cs

/-- The number in `[-(limit + 1), limit]` that a text denotes. -/
def readSigned (limit : Nat) : List Char → Except Problem Int
  | [] => .error .empty
  | '+' :: cs => (readMagnitude limit .tooLarge cs).map Int.ofNat
  | '-' :: cs => (readMagnitude (limit + 1) .tooSmall cs).map fun n => -Int.ofNat n
  | cs => (readMagnitude limit .tooLarge cs).map Int.ofNat

/-- The number in `[0, limit]` that a text denotes; a minus sign is no digit. -/
def readUnsigned (limit : Nat) : List Char → Except Problem Nat
  | [] => .error .empty
  | '+' :: cs => readMagnitude limit .tooLarge cs
  | cs => readMagnitude limit .tooLarge cs

/-- The largest signed number of 32 bits. -/
def int32Max : Nat := 2147483647

/-- The largest unsigned number of 32 bits. -/
def nat32Max : Nat := 4294967295

/-- The signed 32-bit number that a text denotes. -/
def readInt32 (cs : List Char) : Except Problem Int := readSigned int32Max cs

example : readInt32 "-2147483648".toList = .ok (-2147483648) ∧
    readInt32 "2147483648x".toList = .error .tooLarge ∧
    readInt32 "2147483647x".toList = .error .invalidDigit ∧
    readInt32 "+".toList = .error .invalidDigit := ⟨rfl, rfl, rfl, rfl⟩

/-- The digit of a number below ten. -/
def digitChar (n : Nat) : Char := Char.ofNat ('0'.toNat + n % 10)

/-- A number below a hundred in two digits. -/
def twoDigits (n : Nat) : List Char := [digitChar (n / 10), digitChar n]

/-- The last `width` digits of a number, with leading zeros. -/
def lastDigits : Nat → Nat → List Char
  | 0, _ => []
  | width + 1, n => lastDigits width (n / 10) ++ [digitChar n]

/-- A number in at least `width` digits. -/
def padded (width : Nat) (n : Nat) : String :=
  if n < Nat.pow 10 width then String.ofList (lastDigits width n) else toString n

end Numeral

end Twilight.Text
