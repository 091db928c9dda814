import Twilight.Text.Numeral
import Twilight.Toml.Value

namespace Twilight.Toml

/-!
# Numbers, dates and truth values

* `scalar?` — the value of a token: a run of letters, digits and the characters `+ - . : _`.
* `integer?` — decimal, hexadecimal, octal and binary integers of 64 bits.
* `isFloat`, `overflows` — numbers with a fraction or an exponent; those that round to positive
  infinity are refused.
* `isDateTime`, `canonicalDateTime` — dates, times and both together.
-/

open Text.Numeral (digit?)

/-! ### Digits -/

def isDigit (c : Char) : Bool := (digit? c).isSome

/-- The value of a hexadecimal digit. -/
def hexDigit? (c : Char) : Option Nat :=
  match digit? c with
  | some d => some d
  | none =>
    if 'a'.toNat ≤ c.toNat ∧ c.toNat ≤ 'f'.toNat then some (c.toNat - 'a'.toNat + 10)
    else if 'A'.toNat ≤ c.toNat ∧ c.toNat ≤ 'F'.toNat then some (c.toNat - 'A'.toNat + 10)
    else none

/-- Whether digits go on to the end of a text; an underscore stands between two of them. -/
def digitsContinue (isDigit : Char → Bool) : List Char → Bool
  | [] => true
  | '_' :: c :: cs => isDigit c && digitsContinue isDigit cs
  | c :: cs => isDigit c && digitsContinue isDigit cs

/-- Whether a text is one or more digits, with single underscores between them. -/
def areDigits (isDigit : Char → Bool) : List Char → Bool
  | [] => false
  | c :: cs => isDigit c && digitsContinue isDigit cs

/-- Whether a text is a decimal number without sign and without leading zeros. -/
def isPlainDecimal (cs : List Char) : Bool :=
  cs == ['0'] || (areDigits isDigit cs && cs.head? != some '0')

/-- The number of digits in a base; other characters do not count. -/
def valueOf (base : Nat) (cs : List Char) : Nat :=
  cs.foldl (fun n c => match hexDigit? c with
    | some d => n * base + d
    | none => n) 0

/-! ### Integers -/

/-- The largest integer. -/
def integerMax : Nat := 9223372036854775807

/-- A number of another base, behind its mark. -/
def based? (base : Nat) (cs : List Char) : Option Int :=
  let fits (c : Char) := match hexDigit? c with
    | some d => decide (d < base)
    | none => false
  if areDigits fits cs ∧ valueOf base cs ≤ integerMax then some (valueOf base cs) else none

/-- The value of an integer token. -/
def integer? : List Char → Option Int
  | '0' :: 'x' :: cs => based? 16 cs
  | '0' :: 'o' :: cs => based? 8 cs
  | '0' :: 'b' :: cs => based? 2 cs
  | '-' :: cs =>
    if isPlainDecimal cs ∧ valueOf 10 cs ≤ integerMax + 1 then some (-(valueOf 10 cs : Int))
    else none
  | '+' :: cs =>
    if isPlainDecimal cs ∧ valueOf 10 cs ≤ integerMax then some (valueOf 10 cs) else none
  | cs => if isPlainDecimal cs ∧ valueOf 10 cs ≤ integerMax then some (valueOf 10 cs) else none

/-! ### Floats -/

/-- A token without its sign. -/
def unsigned : List Char → List Char
  | '+' :: cs => cs
  | '-' :: cs => cs
  | cs => cs

/-- Whole part, fraction and exponent of a decimal number, the last two where they are written. -/
def decimalParts (cs : List Char) : List Char × Option (List Char) × Option (List Char) :=
  let isMark (c : Char) := c == 'e' || c == 'E'
  let mantissa := cs.takeWhile fun c => !isMark c
  let exponent := (cs.dropWhile fun c => !isMark c).drop 1
  let hasExponent := cs.any isMark
  let whole := mantissa.takeWhile (· ≠ '.')
  let fraction := (mantissa.dropWhile (· ≠ '.')).drop 1
  (whole, if '.' ∈ mantissa then some fraction else none,
    if hasExponent then some exponent else none)

/-- Whether a token is a number with a fraction or an exponent, or names infinity or no number. -/
def isFloat (cs : List Char) : Bool :=
  let body := unsigned cs
  if body == "inf".toList || body == "nan".toList then true
  else
    match decimalParts body with
    | (_, none, none) => false
    | (whole, fraction, exponent) =>
      isPlainDecimal whole && (fraction.all (areDigits isDigit)) &&
        exponent.all fun e => areDigits isDigit (unsigned e)

/-- Twice the largest double is an even number, so a decimal number rounds to infinity exactly from
    this one on: half a unit above the largest. -/
def infinityFrom : Nat := Nat.pow 2 1024 - Nat.pow 2 970

/-- Whether a token of `isFloat` that is not negative rounds to infinity. -/
def overflows (cs : List Char) : Bool :=
  let (whole, fraction, exponent) := decimalParts (unsigned cs)
  let places := (fraction.getD []).filter isDigit
  let digits := valueOf 10 (whole ++ places)
  let written : Int := match exponent with
    | none => 0
    | some ('-' :: e) => -(valueOf 10 e : Int)
    | some e => valueOf 10 e
  let scale := written - places.length
  let size : Int := (Nat.toDigits 10 digits).length
  if cs.head? == some '-' || digits == 0 then false
  else if whole == "inf".toList || whole == "nan".toList then false
  else if 310 < size + scale then true
  else if size + scale < 300 then false
  else if 0 ≤ scale then decide (infinityFrom ≤ digits * Nat.pow 10 scale.toNat)
  else decide (infinityFrom * Nat.pow 10 (-scale).toNat ≤ digits)

/-! ### Dates and times -/

/-- A number of exactly `count` digits at the front. -/
def fixed? : Nat → List Char → Option (Nat × List Char)
  | 0, cs => some (0, cs)
  | count + 1, cs =>
    match cs with
    | [] => none
    | c :: cs =>
      match digit? c with
      | none => none
      | some d => (fixed? count cs).map fun (n, rest) => (d * Nat.pow 10 count + n, rest)

/-- The days of a month. -/
def daysOf (year month : Nat) : Nat :=
  if month = 2 then
    if year % 4 = 0 ∧ (year % 100 ≠ 0 ∨ year % 400 = 0) then 29 else 28
  else if month = 4 ∨ month = 6 ∨ month = 9 ∨ month = 11 then 30
  else 31

/-- What follows a date at the front. -/
def afterDate? (cs : List Char) : Option (List Char) :=
  match fixed? 4 cs with
  | some (year, '-' :: cs) =>
    match fixed? 2 cs with
    | some (month, '-' :: cs) =>
      match fixed? 2 cs with
      | some (day, cs) =>
        if 1 ≤ month ∧ month ≤ 12 ∧ 1 ≤ day ∧ day ≤ daysOf year month then some cs else none
      | none => none
    | _ => none
  | _ => none

/-- What follows a fraction of a second: one or more digits behind a point, or nothing. -/
def afterFraction? : List Char → Option (List Char)
  | '.' :: c :: cs => if isDigit c then some (cs.dropWhile isDigit) else none
  | '.' :: [] => none
  | cs => some cs

/-- What follows a time at the front. -/
def afterTime? (cs : List Char) : Option (List Char) :=
  match fixed? 2 cs with
  | some (hour, ':' :: cs) =>
    match fixed? 2 cs with
    | some (minute, ':' :: cs) =>
      match fixed? 2 cs with
      | some (second, cs) =>
        if hour ≤ 23 ∧ minute ≤ 59 ∧ second ≤ 60 then afterFraction? cs else none
      | none => none
    | _ => none
  | _ => none

/-- Whether a text is an offset from UTC, or empty. -/
def isOffset : List Char → Bool
  | [] => true
  | ['Z'] | ['z'] => true
  | c :: cs =>
    if c = '+' ∨ c = '-' then
      match fixed? 2 cs with
      | some (hour, ':' :: cs) =>
        match fixed? 2 cs with
        | some (minute, []) => hour ≤ 23 && minute ≤ 59
        | _ => false
      | _ => false
    else false

/-- Whether a text is a time, with or without an offset. -/
def isTimeWithOffset (cs : List Char) : Bool := (afterTime? cs).any isOffset

/-- Whether a text is a date. -/
def isDate (cs : List Char) : Bool := afterDate? cs == some []

/-- Whether a token is a date, a time, or a date and a time joined by `T`. -/
def isDateTime (cs : List Char) : Bool :=
  match afterDate? cs with
  | some [] => true
  | some (c :: rest) => (c = 'T' ∨ c = 't') && isTimeWithOffset rest
  | none => afterTime? cs == some []

/-- A fraction of a second: nine digits count at most, and zeros at the end do not. -/
def canonicalFraction (digits : List Char) : List Char :=
  match ((digits.take 9).reverse.dropWhile (· == '0')).reverse with
  | [] => []
  | d :: ds => '.' :: d :: ds

/-- Letters as capitals, and no offset to the west of UTC that is zero. -/
def canonicalZero (cs : List Char) : List Char :=
  let upper := cs.map Char.toUpper
  if "-00:00".toList.isSuffixOf upper then upper.take (upper.length - 6) ++ "+00:00".toList
  else upper

/-- The one way in which a date and time of `isDateTime` is written out. -/
def canonicalDateTime (cs : List Char) : List Char :=
  let behind := (cs.dropWhile (· ≠ '.')).drop 1
  canonicalZero (cs.takeWhile (· ≠ '.') ++ canonicalFraction (behind.takeWhile isDigit) ++
    behind.dropWhile isDigit)

example : canonicalDateTime "1979-05-27t07:32:00.1200-00:00".toList =
      "1979-05-27T07:32:00.12+00:00".toList ∧
    canonicalDateTime "07:32:00.000".toList = "07:32:00".toList := by decide

/-! ### Tokens -/

/-- Whether a character belongs to a token. -/
def isTokenChar (c : Char) : Bool :=
  c.isAlphanum || c == '+' || c == '-' || c == '.' || c == ':' || c == '_'

/-- The value of a token. -/
def scalar? (cs : List Char) : Option Value :=
  if cs = "true".toList then some (.boolean true)
  else if cs = "false".toList then some (.boolean false)
  else
    match integer? cs with
    | some n => some (.integer n)
    | none =>
      if isFloat cs && !overflows cs then some (.float (String.ofList cs))
      else if isDateTime cs then some (.dateTime (String.ofList (canonicalDateTime cs)))
      else none

end Twilight.Toml
