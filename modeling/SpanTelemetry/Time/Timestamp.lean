import SpanTelemetry.Time.Calendar
import SpanTelemetry.Time.Duration

namespace SpanTelemetry

open Text

/-!
# Points in time as text

A point in time, given in nanoseconds since the start of 1970, is written as
`YYYY-MM-DDThh:mm:ss.ffffffZ`; a time before 1970 counts as its start.

* `Moment` — a date with a time of day.
* `TimeError` — how far a time lies beyond those that can be written.
* `timestampText` — the text of a point in time.
-/

/-- A date with a time of day. -/
structure Moment where
  date : Date
  clock : Clock
  deriving DecidableEq, Repr

/-- Why a time cannot be written: the first of the three bounds it lies within. -/
inductive TimeError where
  /-- Its year is beyond 9999, and its number fits into a 32-bit year of a calendar. -/
  | yearTooLong
  /-- Its year is beyond a 32-bit calendar, and its seconds fit into a signed 64-bit clock. -/
  | beyondCalendar
  /-- Its seconds are beyond a signed 64-bit clock. -/
  | beyondClock
  deriving DecidableEq, Repr

namespace Moment

/-- The day number of 1 January 1970. -/
def epochDay : Nat := 719162

/-- The moment so many microseconds after the start of 1970. -/
def ofMicroseconds (micros : Nat) : Moment where
  date := Date.ofDayNumber (epochDay + micros / Clock.microsecondsPerDay)
  clock := Clock.ofMicroseconds (micros % Clock.microsecondsPerDay)

/-- The text of a moment. -/
def text (m : Moment) : List Char :=
  padded 4 (decimal m.date.year) ++ '-' :: padded 2 (decimal m.date.month) ++
    '-' :: padded 2 (decimal m.date.day) ++ 'T' :: m.clock.text ++ ['Z']

end Moment

/-- The last second of the year 9999. -/
def lastSecond : Nat := 253402300799

/-- The last second of the last year of a 32-bit calendar that counts years from 1900. -/
def lastCalendarSecond : Nat := 67768036191676799

/-- The last second of a signed 64-bit clock. -/
def lastClockSecond : Nat := 0x7FFFFFFFFFFFFFFF

/-- The text of a point in time given in nanoseconds since the start of 1970. -/
def timestampText (nanos : Int) : Except TimeError String :=
  let seconds := nanos.toNat / 1000000000
  if seconds ≤ lastSecond then
    .ok (String.ofList (Moment.ofMicroseconds (wholeMicroseconds nanos)).text)
  else if seconds ≤ lastCalendarSecond then .error .yearTooLong
  else if seconds ≤ lastClockSecond then .error .beyondCalendar
  else .error .beyondClock

end SpanTelemetry
