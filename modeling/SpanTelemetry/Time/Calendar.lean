namespace SpanTelemetry

/-!
# The Gregorian calendar

* `isLeapYear`, `daysInMonth`, `Date.IsReal` — the rules of the calendar.
* `Date.dayNumber` — the days from 1 January of the year 1 to a date.
* `Date.ofDayNumber` — the date of a day number.

The calendar is extended backwards without a gap; the year 1 is its first.
-/

/-- A year of 366 days: every fourth one, of the full centuries only every fourth. -/
def isLeapYear (year : Nat) : Bool :=
  year % 4 == 0 && (year % 100 != 0 || year % 400 == 0)

/-- The number of days of a month of a year. -/
def daysInMonth (year month : Nat) : Nat :=
  match month with
  | 2 => if isLeapYear year then 29 else 28
  | 4 | 6 | 9 | 11 => 30
  | _ => 31

/-- A day of the calendar. -/
structure Date where
  year : Nat
  month : Nat
  day : Nat
  deriving DecidableEq, Repr

namespace Date

/-- A date that the calendar has. -/
def IsReal (d : Date) : Prop :=
  1 ≤ d.year ∧ 1 ≤ d.month ∧ d.month ≤ 12 ∧ 1 ≤ d.day ∧ d.day ≤ daysInMonth d.year d.month

/-- The days of the years before a year. -/
def daysBeforeYear (year : Nat) : Nat :=
  let y := year - 1
  365 * y + y / 4 - y / 100 + y / 400

/-- The days of the months of a year before a month. -/
def daysBeforeMonth (year : Nat) : Nat → Nat
  | 0 => 0
  | m + 1 => if m = 0 then 0 else daysBeforeMonth year m + daysInMonth year m

/-- The days from 1 January of the year 1 to a date. -/
def dayNumber (d : Date) : Nat :=
  daysBeforeYear d.year + daysBeforeMonth d.year d.month + (d.day - 1)

/-- The year of a day number. It is found through the whole cycles of 400, 100, 4 and 1 years
    before the day; the last day of a cycle that ends with a leap year still belongs to it. -/
def yearOfDayNumber (n : Nat) : Nat :=
  let r400 := n % 146097
  let c100 := min (r400 / 36524) 3
  let r100 := r400 - c100 * 36524
  let r4 := r100 % 1461
  400 * (n / 146097) + 100 * c100 + 4 * (r100 / 1461) + min (r4 / 365) 3 + 1

/-- The month and the day of the month that a day of the year falls into, looking from `month`
    on at the given number of months. -/
def monthAndDay (year : Nat) : (months : Nat) → (month dayOfYear : Nat) → Nat × Nat
  | 0, month, rest => (month, rest + 1)
  | months + 1, month, rest =>
      if rest < daysInMonth year month then (month, rest + 1)
      else monthAndDay year months (month + 1) (rest - daysInMonth year month)

/-- The date of a day number. -/
def ofDayNumber (n : Nat) : Date :=
  let year := yearOfDayNumber n
  let (month, day) := monthAndDay year 11 1 (n - daysBeforeYear year)
  ⟨year, month, day⟩

end Date

end SpanTelemetry
