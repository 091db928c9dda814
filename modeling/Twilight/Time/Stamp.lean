import Twilight.Time.Civil
import Twilight.Time.Zone

namespace Twilight.Time

/-!
# Written moments

* `offsetText` — an offset as `±HH:MM`, with `:SS` only where it has seconds.
* `Moment.spaced` — date, time and offset parted by blanks, for messages.
* `Moment.rfc3339` — date and time joined by `T`, the offset behind them.
-/

open Text.Numeral

/-- `±HH:MM`, or `±HH:MM:SS` for an offset with seconds. -/
def offsetText (offset : Int) : String :=
  let n := offset.natAbs
  let tail := if n % 60 = 0 then "" else ":" ++ padded 2 (n % 60)
  (if offset < 0 then "-" else "+") ++ padded 2 (n / 3600) ++ ":" ++ padded 2 (n / 60 % 60) ++ tail

/-- A fraction of a second in three, six or nine digits, whichever is exact; nothing for zero. -/
def fractionText (nanos : Nat) : String :=
  if nanos = 0 then ""
  else if nanos % 1000000 = 0 then "." ++ padded 3 (nanos / 1000000)
  else if nanos % 1000 = 0 then "." ++ padded 6 (nanos / 1000)
  else "." ++ padded 9 nanos

namespace Moment

/-- `HH:MM:SS` of the wall clock. -/
def clockText (m : Moment) : String :=
  let s := m.secondOfDay.toNat
  padded 2 (s / 3600) ++ ":" ++ padded 2 (s / 60 % 60) ++ ":" ++ padded 2 (s % 60)

/-- `HH:MM` of the wall clock. -/
def hourMinuteText (m : Moment) : String :=
  let s := m.secondOfDay.toNat
  padded 2 (s / 3600) ++ ":" ++ padded 2 (s / 60 % 60)

/-- `YYYY-MM-DD HH:MM:SS` of the wall clock. -/
def dateTimeText (m : Moment) : String := (CivilDate.ofDays m.day).text ++ " " ++ m.clockText

/-- `YYYY-MM-DD HH:MM:SS[.fff] ±HH:MM`. -/
def spaced (m : Moment) : String :=
  m.dateTimeText ++ fractionText m.fraction.toNat ++ " " ++ offsetText m.offset

/-- `YYYY-MM-DDTHH:MM:SS[.fff]±HH:MM`. -/
def rfc3339 (m : Moment) : String :=
  (CivilDate.ofDays m.day).text ++ "T" ++ m.clockText ++ fractionText m.fraction.toNat ++
    offsetText m.offset

end Moment

end Twilight.Time
