/-
Dates of the Gregorian calendar, carried back before its introduction. Day 1
is the first of January of year 1; `ofDayNumber` takes 400-year, 100-year,
4-year and single-year spans off a count of days, then months.
-/
namespace Fingerprint.Calendar

/-- A date as written; not every one exists. -/
structure Date where
  year : Nat
  month : Nat
  day : Nat
  deriving DecidableEq, Repr, Inhabited

/-- Whether a year has a twenty-ninth of February. -/
def isLeapYear (y : Nat) : Bool := y % 4 = 0 && (y % 100 != 0 || y % 400 = 0)

/-- The lengths of the months of a year. -/
def monthLengths (y : Nat) : List Nat :=
  [31, if isLeapYear y then 29 else 28, 31, 30, 31, 30, 31, 31, 30, 31, 30, 31]

/-- The number of days before the first of January of a year, from year 1 on. -/
def daysBeforeYear (y : Nat) : Nat :=
  let p := y - 1
  p * 365 + p / 4 - p / 100 + p / 400

/-- The number of days of a year before its `m`-th month. -/
def daysBeforeMonth (y m : Nat) : Nat := ((monthLengths y).take (m - 1)).foldr (· + ·) 0

namespace Date

/-- Whether a date exists, in the years 1 to 9999. -/
def isValid (d : Date) : Bool :=
  decide (1 ≤ d.year ∧ d.year ≤ 9999 ∧ 1 ≤ d.month ∧ d.month ≤ 12 ∧ 1 ≤ d.day)
    && decide (d.day ≤ (monthLengths d.year).getD (d.month - 1) 0)

/-- The number of a day; the first of January of year 1 is day 1. -/
def dayNumber (d : Date) : Nat :=
  daysBeforeYear d.year + daysBeforeMonth d.year d.month + d.day

/-- Takes whole months off a count of days within a year. -/
def inMonths (year : Nat) : Nat → List Nat → Nat → Date
  | month, [], rest => ⟨year, month, rest + 1⟩
  | month, n :: ns, rest =>
    if rest < n then ⟨year, month, rest + 1⟩ else inMonths year (month + 1) ns (rest - n)

/-- The date of a day number. -/
def ofDayNumber (n : Nat) : Date :=
  let n := n - 1
  let n400 := n / 146097
  let n := n % 146097
  let n100 := n / 36524
  let n := n % 36524
  let n4 := n / 1461
  let n := n % 1461
  let n1 := n / 365
  let rest := n % 365
  let year := n400 * 400 + n100 * 100 + n4 * 4 + n1 + 1
  if n1 = 4 ∨ n100 = 4 then ⟨year - 1, 12, 31⟩
  else inMonths year 1 (monthLengths year) rest

end Date

/-- The day number of the last day of year 9999. -/
def lastDayNumber : Nat := 3652059

end Fingerprint.Calendar
