/-
# The Calendar

Days of the proleptic calendar, counted from the first day of the year 1, with their dates and
weekdays.
-/

namespace Deskwork.Time

/-! ## Years and months -/

/-- A leap year has a 29th of February. -/
def isLeap (year : Nat) : Bool :=
  year % 4 == 0 && (year % 100 != 0 || year % 400 == 0)

/-- The days before the first day of a year. -/
def daysBeforeYear (year : Nat) : Nat :=
  let y := year - 1
  y * 365 + y / 4 - y / 100 + y / 400

/-- The lengths of the months of a year. -/
def monthLengths (year : Nat) : List Nat :=
  [31, if isLeap year then 29 else 28, 31, 30, 31, 30, 31, 31, 30, 31, 30, 31]

/-- The days of a month. -/
def daysInMonth (year month : Nat) : Nat :=
  (monthLengths year).getD (month - 1) 0

/-- The days of a year before the first day of a month. -/
def daysBeforeMonth (year month : Nat) : Nat :=
  ((monthLengths year).take (month - 1)).foldl (· + ·) 0

/-- The last year of the calendar. -/
def lastYear : Nat := 9999

/-- The number of days of the calendar. -/
def dayCount : Nat := 3652059

/-- The days of the calendar are those of its years. -/
theorem daysBeforeYear_succ_lastYear : daysBeforeYear (lastYear + 1) = dayCount := by
  decide

/-! ## Dates -/

/-- A date; the year, the month and the day are counted from one. -/
structure Date where
  year : Nat
  month : Nat
  day : Nat
  deriving DecidableEq, Repr

/-- The days before a date. -/
def Date.toDay (d : Date) : Nat :=
  daysBeforeYear d.year + daysBeforeMonth d.year d.month + (d.day - 1)

/-- The month and the day of the month, when `rest` days of the year come before. -/
def monthAndDay (month : Nat) : List Nat → Nat → Nat × Nat
  | [], rest => (month, rest + 1)
  | n :: more, rest => if rest < n then (month, rest + 1) else monthAndDay (month + 1) more (rest - n)

/-- The year and the days of the year before the given day: cycles of 400, 100, 4 and 1 years are
taken off in turn, where the last day of a long cycle belongs to its last year. -/
def yearAndRest (day : Nat) : Nat × Nat :=
  let n400 := day / 146097
  let r400 := day % 146097
  let n100 := min (r400 / 36524) 3
  let r100 := r400 - n100 * 36524
  let n4 := r100 / 1461
  let r4 := r100 % 1461
  let n1 := min (r4 / 365) 3
  (400 * n400 + 100 * n100 + 4 * n4 + n1 + 1, r4 - n1 * 365)

/-- The date of a day. -/
def Date.ofDay (day : Nat) : Date :=
  let (year, rest) := yearAndRest day
  let (month, d) := monthAndDay 1 (monthLengths year) rest
  ⟨year, month, d⟩

/-- The weekday of a day, from 0 for Monday to 6 for Sunday. -/
def weekdayOfDay (day : Nat) : Nat :=
  day % 7

/-- The first and the last date of the calendar. -/
example : (Date.ofDay 0, Date.ofDay (dayCount - 1)) = (⟨1, 1, 1⟩, ⟨9999, 12, 31⟩) := by decide

/-- A leap day and back. -/
example : Date.ofDay (Date.toDay ⟨2024, 2, 29⟩) = ⟨2024, 2, 29⟩ := by decide

end Deskwork.Time
