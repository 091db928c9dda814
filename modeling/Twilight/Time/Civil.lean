import Twilight.Text.Numeral

namespace Twilight.Time

/-!
# Civil dates

* `CivilDate` — year, month and day of the proleptic Gregorian calendar.
* `CivilDate.ofDays` — the date a number of days after 1 January 1970.
-/

/-- A date of the proleptic Gregorian calendar. -/
structure CivilDate where
  year : Int
  month : Nat
  day : Nat
  deriving DecidableEq, Repr

/-- The date `days` after 1 January 1970. The count runs in eras of 400 years that begin on
    1 March, so that the leap day is the last of its year. -/
def CivilDate.ofDays (days : Int) : CivilDate :=
  let shifted := days + 719468
  let era := shifted / 146097
  let dayOfEra := (shifted % 146097).toNat
  let yearOfEra := (dayOfEra - dayOfEra / 1460 + dayOfEra / 36524 - dayOfEra / 146096) / 365
  let dayOfYear := dayOfEra - (365 * yearOfEra + yearOfEra / 4 - yearOfEra / 100)
  let monthFromMarch := (5 * dayOfYear + 2) / 153
  let month := if monthFromMarch < 10 then monthFromMarch + 3 else monthFromMarch - 9
  { year := yearOfEra + era * 400 + (if month ≤ 2 then 1 else 0)
    month := month
    day := dayOfYear - (153 * monthFromMarch + 2) / 5 + 1 }

example : CivilDate.ofDays 0 = ⟨1970, 1, 1⟩ ∧ CivilDate.ofDays 19782 = ⟨2024, 2, 29⟩ ∧
    CivilDate.ofDays (-719529) = ⟨-1, 12, 31⟩ := by decide

/-- Four digits for the years 0 to 9999; any other year has a sign and at least four digits. -/
def yearText (year : Int) : String :=
  if 0 ≤ year ∧ year ≤ 9999 then Text.Numeral.padded 4 year.toNat
  else (if year < 0 then "-" else "+") ++ Text.Numeral.padded 4 year.natAbs

/-- The date as `YYYY-MM-DD`. -/
def CivilDate.text (d : CivilDate) : String :=
  yearText d.year ++ "-" ++ Text.Numeral.padded 2 d.month ++ "-" ++ Text.Numeral.padded 2 d.day

end Twilight.Time
