/-!
# Day — dates of the Gregorian calendar and their numbers

Days are counted from the first of January of the year one, which has the number zero.
-/

namespace TenderDesk
namespace Calendar

structure Day where
  year : Nat
  month : Nat
  day : Nat
  deriving DecidableEq, Repr, Inhabited

def isLeap (year : Nat) : Bool :=
  year % 4 == 0 && (year % 100 != 0 || year % 400 == 0)

/-- The lengths of the twelve months. -/
def monthLengths (leap : Bool) : List Nat :=
  [31, if leap then 29 else 28, 31, 30, 31, 30, 31, 31, 30, 31, 30, 31]

/-- Days in the years before a year. -/
def daysBefore (year : Nat) : Nat :=
  let y := year - 1
  365 * y + y / 4 - y / 100 + y / 400

namespace Day

/-- A date of the calendar with a year of at most four digits. -/
def isValid (d : Day) : Bool :=
  1 ≤ d.year && d.year ≤ 9999 && 1 ≤ d.month && d.month ≤ 12 && 1 ≤ d.day
    && d.day ≤ (monthLengths (isLeap d.year)).getD (d.month - 1) 0

/-- Days from the first day of the calendar. -/
def number (d : Day) : Nat :=
  let before := (monthLengths (isLeap d.year)).take (d.month - 1)
  daysBefore d.year + before.foldl (· + ·) 0 + (d.day - 1)

/-- Month and day of the day `n` of a year, counted from zero. -/
def ofYearDay : (months : List Nat) → (month n : Nat) → Nat × Nat
  | [], month, n => (month, n + 1)
  | len :: months, month, n =>
      if n < len then (month, n + 1) else ofYearDay months (month + 1) (n - len)

/-- The year of a day number and the days of that year before it. -/
def yearOfNumber (n : Nat) : Nat × Nat :=
  let (n400, r) := (n / 146097, n % 146097)
  let n100 := min (r / 36524) 3
  let r := r - n100 * 36524
  let (n4, r) := (r / 1461, r % 1461)
  let n1 := min (r / 365) 3
  (400 * n400 + 100 * n100 + 4 * n4 + n1 + 1, r - n1 * 365)

/-- The date of a day number. -/
def ofNumber (n : Nat) : Day :=
  let (year, r) := yearOfNumber n
  let (month, day) := ofYearDay (monthLengths (isLeap year)) 1 r
  ⟨year, month, day⟩

end Day
end Calendar
end TenderDesk
