import TenderDesk.Calendar.Day
import TenderDesk.Text.Digit

/-!
# Moment — a date and time of day, with or without an offset

* `Moment.instant` is the point in time that a moment denotes; one without an offset is read as
  universal time.
* `Moment.text` writes a moment with the offset it was given with.
-/

namespace TenderDesk
namespace Calendar

/-- A date, the microseconds of it that have passed, and the seconds that local time is ahead of
universal time, when that is known. -/
structure Moment where
  day : Day
  micros : Nat
  offset : Option Int
  deriving DecidableEq, Repr, Inhabited

/-- Microseconds of universal time from the first day of the calendar. -/
abbrev Instant := Int

def microsPerSecond : Nat := 1000000

def secondsPerDay : Nat := 86400

/-- The first second of 1970, in seconds from the first day of the calendar. -/
def unixEpoch : Nat := 719162 * secondsPerDay

/-- A number in at least `width` digits. -/
def padded (width n : Nat) : String :=
  let ds := Text.digits n
  String.ofList (List.replicate (width - ds.length) '0' ++ ds)

/-- Hours and minutes of an offset, with its sign; seconds when there are some. -/
def offsetText (seconds : Int) : String :=
  let s := seconds.natAbs
  (if seconds < 0 then "-" else "+") ++ padded 2 (s / 3600) ++ ":" ++ padded 2 (s / 60 % 60)
    ++ (if s % 60 == 0 then "" else ":" ++ padded 2 (s % 60))

namespace Moment

def instant (m : Moment) : Instant :=
  ((m.day.number * secondsPerDay : Nat) - m.offset.getD 0) * microsPerSecond + m.micros

/-- The moment in universal time at some seconds of the Unix count and microseconds behind them. -/
def ofUnix? (seconds : Int) (micros : Nat) : Option Moment :=
  let total := seconds + unixEpoch
  if total < 0 then none
  else
    let total := total.toNat
    let day := Day.ofNumber (total / secondsPerDay)
    if day.year ≤ 9999 then
      some ⟨day, total % secondsPerDay * microsPerSecond + micros, some 0⟩
    else none

def timeText (micros : Nat) : String :=
  let s := micros / microsPerSecond
  let fraction := micros % microsPerSecond
  padded 2 (s / 3600) ++ ":" ++ padded 2 (s / 60 % 60) ++ ":" ++ padded 2 (s % 60)
    ++ (if fraction == 0 then "" else "." ++ padded 6 fraction)

/-- Date, `T`, time, and the offset if there is one; microseconds only when there are some. -/
def text (m : Moment) : String :=
  padded 4 m.day.year ++ "-" ++ padded 2 m.day.month ++ "-" ++ padded 2 m.day.day ++ "T"
    ++ timeText m.micros ++ (m.offset.map offsetText).getD ""

end Moment
end Calendar
end TenderDesk
