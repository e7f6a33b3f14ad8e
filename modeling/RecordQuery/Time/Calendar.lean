/-!
# The proleptic Gregorian calendar

* `Date`, a year of any sign, a month and a day, and the dates that `Valid` allows;
* `Date.dayNumber`, the days from 1970-01-01 to a date;
* `Date.ofDayNumber`, the date that many days after 1970-01-01.
-/

namespace RecordQuery

/-- Every fourth year is a leap year, of the centuries only every fourth. -/
def isLeapYear (year : Int) : Bool :=
  year % 4 == 0 && (year % 100 != 0 || year % 400 == 0)

/-- The lengths of the months of a common or a leap year. -/
def monthLengths (leap : Bool) : List Nat :=
  [31, if leap then 29 else 28, 31, 30, 31, 30, 31, 31, 30, 31, 30, 31]

/-- The days from 0001-01-01 to the first day of a year. -/
def daysBeforeYear (year : Int) : Int :=
  let y := year - 1
  365 * y + y / 4 - y / 100 + y / 400

/-- A date of the calendar. -/
structure Date where
  year : Int
  month : Nat
  day : Nat
  deriving DecidableEq

/-- The month and the day of the month, both from 1, on the given day from 0 of a year whose
months have the given lengths. -/
def monthAndDay : List Nat → Nat → Nat × Nat
  | [], d => (1, d + 1)
  | l :: ls, d =>
    if d < l then (1, d + 1)
    else ((monthAndDay ls (d - l)).1 + 1, (monthAndDay ls (d - l)).2)

namespace Date

/-- The month exists and has the day. -/
def isValid (d : Date) : Bool :=
  1 ≤ d.month && 1 ≤ d.day && d.day ≤ (monthLengths (isLeapYear d.year)).getD (d.month - 1) 0

/-- The days of the year before the date. -/
def dayOfYear (d : Date) : Nat :=
  ((monthLengths (isLeapYear d.year)).take (d.month - 1)).foldl (· + ·) (d.day - 1)

/-- The days from 0001-01-01 to 1970-01-01. -/
def epoch : Int := 719162

/-- The days from 1970-01-01 to a date. -/
def dayNumber (d : Date) : Int :=
  daysBeforeYear d.year + d.dayOfYear - epoch

/-- The date a number of days after 1970-01-01. The days since 0001-01-01 are cut into spans of
400, 100, 4 and 1 years, of which the last century of a span and the last year of four may be one
day longer. -/
def ofDayNumber (n : Int) : Date :=
  let days := n + epoch
  let inEra := (days % 146097).toNat
  let century := min (inEra / 36524) 3
  let inCentury := inEra - century * 36524
  let inFour := inCentury % 1461
  let single := min (inFour / 365) 3
  let year := days / 146097 * 400 + (century * 100 + inCentury / 1461 * 4 + single : Nat) + 1
  let (month, day) := monthAndDay (monthLengths (isLeapYear year)) (inFour - single * 365)
  ⟨year, month, day⟩

end Date

end RecordQuery
