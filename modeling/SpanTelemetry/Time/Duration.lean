import SpanTelemetry.Text.Basic

namespace SpanTelemetry

open Text

/-!
# Durations as text

A duration is written as `[d.]hh:mm:ss.ffffff`; the days stand only in front of durations of a
day or more.

* `Clock` — a time of day to the microsecond.
* `Clock.ofMicroseconds` — the time of day after so many microseconds.
* `durationText` — the text of a length of time in nanoseconds; a negative one counts as none. The days
  cannot always be written.
-/

/-- A time of day to the microsecond. -/
structure Clock where
  hour : Nat
  minute : Nat
  second : Nat
  microsecond : Nat
  deriving DecidableEq, Repr

namespace Clock

/-- The microseconds of a day. -/
def microsecondsPerDay : Nat := 86400000000

/-- The time of day after so many microseconds since midnight. -/
def ofMicroseconds (micros : Nat) : Clock where
  hour := micros / 3600000000
  minute := micros / 60000000 % 60
  second := micros / 1000000 % 60
  microsecond := micros % 1000000

/-- The microseconds since midnight. -/
def microseconds (c : Clock) : Nat :=
  ((c.hour * 60 + c.minute) * 60 + c.second) * 1000000 + c.microsecond

/-- The text `hh:mm:ss.ffffff` of a time of day. -/
def text (c : Clock) : List Char :=
  padded 2 (decimal c.hour) ++ ':' :: padded 2 (decimal c.minute) ++
    ':' :: padded 2 (decimal c.second) ++ '.' :: padded 6 (decimal c.microsecond)

/-- The parts of a clock make up the microseconds that it was taken from. -/
theorem microseconds_ofMicroseconds (micros : Nat) :
    (ofMicroseconds micros).microseconds = micros := by
  simp only [ofMicroseconds, microseconds]
  omega

end Clock

/-- The whole microseconds of a time in nanoseconds; a negative time counts as none. -/
def wholeMicroseconds (nanos : Int) : Nat := nanos.toNat / 1000

/-- The text of a length of time given in nanoseconds. -/
def durationText (nanos : Int) : Written String :=
  let micros := wholeMicroseconds nanos
  let days := micros / Clock.microsecondsPerDay
  let clock := String.ofList (Clock.ofMicroseconds (micros % Clock.microsecondsPerDay)).text
  if days = 0 then .ok clock else (ofInt days).map (· ++ "." ++ clock)

end SpanTelemetry
