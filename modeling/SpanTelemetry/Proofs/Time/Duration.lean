import Mathlib.Algebra.Group.Int.Defs
import SpanTelemetry.Proofs.Text.Numeral
import SpanTelemetry.Proofs.Time.Clock

namespace SpanTelemetry

open Text

/-!
# Durations are read back

The text of a duration loses nothing but what is below a microsecond.

* `Duration` — a length of time in days and a time of day.
* `Duration.read?` — the length of time that a text of the form `[d.]hh:mm:ss.ffffff` tells.
* `Duration.text`, `Duration.read?_text` — each length of time is told by its text.
* `durationText_eq_ok_iff` — the text of a number of nanoseconds is that of its whole microseconds, as long
  as the days can be written.
* `durationText_exact` — it is read back, and texts are the same only for the same microseconds.
-/

/-- The whole microseconds of a time. -/
theorem wholeMicroseconds_eq (nanos : Int) : (wholeMicroseconds nanos : Int) = max nanos 0 / 1000 := by
  unfold wholeMicroseconds
  omega

/-! ### Numbers of days -/

namespace Text

/-- A number of at least one, written without leading zeros. -/
def readPositive? (text : List Char) : Option Nat :=
  if text.all Char.isDigit ∧ text.head? ≠ some '0' then readDecimal? text else none

theorem readPositive?_decimal {n : Nat} (h : 0 < n) : readPositive? (decimal n) = some n := by
  have hdigits : (decimal n).all Char.isDigit = true :=
    List.all_eq_true.2 fun _ hc => isDigit_of_mem_decimal hc
  rw [readPositive?, if_pos ⟨hdigits, head?_decimal_ne_zero h⟩, readDecimal?_decimal]

end Text

/-! ### Durations -/

/-- A length of time in days and a time of day. -/
structure Duration where
  days : Nat
  clock : Clock
  deriving DecidableEq, Repr

namespace Duration

/-- The microseconds of a length of time. -/
def microseconds (d : Duration) : Nat :=
  d.days * Clock.microsecondsPerDay + d.clock.microseconds

/-- So many microseconds in days and a time of day. -/
def ofMicroseconds (micros : Nat) : Duration where
  days := micros / Clock.microsecondsPerDay
  clock := Clock.ofMicroseconds (micros % Clock.microsecondsPerDay)

theorem microseconds_ofMicroseconds (micros : Nat) : (ofMicroseconds micros).microseconds = micros := by
  rw [microseconds, ofMicroseconds, Clock.microseconds_ofMicroseconds, Nat.mul_comm]
  exact Nat.div_add_mod micros Clock.microsecondsPerDay

theorem isReal_clock_ofMicroseconds (micros : Nat) : (ofMicroseconds micros).clock.IsReal :=
  Clock.isReal_ofMicroseconds (Nat.mod_lt _ (by decide))

/-- The length of time that a text tells: a time of day, and in front of it, with a point between them, the
    days if there are any. -/
def read? (text : List Char) : Option Duration := do
  let (before, after) ← cutFirst '.' text
  if ':' ∈ before then
    let clock ← Clock.read? text
    some ⟨0, clock⟩
  else
    let days ← readPositive? before
    let clock ← Clock.read? after
    some ⟨days, clock⟩

/-- The text of a length of time. -/
def text (d : Duration) : List Char :=
  if d.days = 0 then d.clock.text else decimal d.days ++ '.' :: d.clock.text

/-- The text of a time of day has a colon in front of its point. -/
theorem exists_cutFirst_text (c : Clock) :
    ∃ before after, cutFirst '.' c.text = some (before, after) ∧ ':' ∈ before := by
  have hpoint : ('.').isDigit = false := by decide
  refine ⟨padded 2 (decimal c.hour) ++ ':' :: (padded 2 (decimal c.minute) ++
    ':' :: padded 2 (decimal c.second)), padded 6 (decimal c.microsecond), ?_, by simp⟩
  refine cutFirst_eq_some_iff.2 ⟨by simp [Clock.text], ?_⟩
  simp [not_mem_padded_decimal hpoint]

/-- **A length of time is read back** from its text. -/
theorem read?_text {d : Duration} (h : d.clock.IsReal) : read? d.text = some d := by
  obtain ⟨days, clock⟩ := d
  by_cases hdays : days = 0
  · obtain ⟨before, after, hcut, hcolon⟩ := exists_cutFirst_text clock
    have htext : text ⟨days, clock⟩ = clock.text := if_pos hdays
    rw [htext, hdays, read?, hcut]
    simp [hcolon, Clock.read?_text h]
  · -- the point behind the days is the first one, and no colon is in front of it
    have htext : text ⟨days, clock⟩ = decimal days ++ '.' :: clock.text := if_neg hdays
    have hpoint : '.' ∉ decimal days := fun hmem => by cases isDigit_of_mem_decimal hmem
    have hcolon : ':' ∉ decimal days := fun hmem => by cases isDigit_of_mem_decimal hmem
    have hcut : cutFirst '.' (decimal days ++ '.' :: clock.text) = some (decimal days, clock.text) :=
      cutFirst_eq_some_iff.2 ⟨rfl, hpoint⟩
    rw [htext, read?, hcut]
    simp [hcolon, readPositive?_decimal (Nat.pos_of_ne_zero hdays), Clock.read?_text h]

end Duration

/-! ### Texts of nanoseconds -/

/-- The days of a time are those of its nanoseconds. -/
theorem days_wholeMicroseconds (nanos : Int) :
    ((Duration.ofMicroseconds (wholeMicroseconds nanos)).days : Int) = max nanos 0 / 86400000000000 := by
  simp only [Duration.ofMicroseconds, wholeMicroseconds, Clock.microsecondsPerDay]
  omega

/-- The text of a length of time can be written iff its days can. -/
theorem Duration.written_eq_ok_iff (d : Duration) {text : String} :
    (if d.days = 0 then .ok (String.ofList d.clock.text)
      else (ofInt d.days).map (· ++ "." ++ String.ofList d.clock.text) : Written String) = .ok text ↔
      d.days < 10 ^ maxDigits ∧ String.ofList d.text = text := by
  unfold Duration.text
  by_cases hdays : d.days = 0
  · have hpos : 0 < 10 ^ maxDigits := Nat.pow_pos (by decide)
    simp [hdays, hpos]
  · rw [if_neg hdays, if_neg hdays]
    cases hwritten : ofInt d.days with
    | error e =>
      have hlarge := ofInt_eq_error_iff.1 hwritten
      rw [Int.natAbs_natCast] at hlarge
      simp [Except.map, Nat.not_lt.2 hlarge]
    | ok digits =>
      obtain ⟨hsmall, rfl⟩ := ofInt_eq_ok_iff.1 hwritten
      rw [Int.natAbs_natCast] at hsmall
      have htext : integer d.days ++ "." ++ String.ofList d.clock.text =
          String.ofList (decimal d.days ++ '.' :: d.clock.text) := by
        rw [integer_natCast, ← String.toList_inj]
        simp
      simp [Except.map, hsmall, htext]

/-- The text of a number of nanoseconds is that of its whole microseconds, as long as the days can be
    written. -/
theorem durationText_eq_ok_iff {nanos : Int} {text : String} :
    durationText nanos = .ok text ↔
      (Duration.ofMicroseconds (wholeMicroseconds nanos)).days < 10 ^ maxDigits ∧
        String.ofList (Duration.ofMicroseconds (wholeMicroseconds nanos)).text = text :=
  (Duration.ofMicroseconds (wholeMicroseconds nanos)).written_eq_ok_iff

/-- **A length of time is read back** from the text of its nanoseconds. -/
theorem read?_durationText {nanos : Int} {text : String} (h : durationText nanos = .ok text) :
    Duration.read? text.toList = some (Duration.ofMicroseconds (wholeMicroseconds nanos)) := by
  obtain ⟨-, rfl⟩ := durationText_eq_ok_iff.1 h
  rw [String.toList_ofList]
  exact Duration.read?_text (Duration.isReal_clock_ofMicroseconds _)

/-- Only the days can be too long to be written. -/
theorem exists_durationText_error_iff {nanos : Int} :
    (∃ e, durationText nanos = .error e) ↔ 10 ^ maxDigits ≤ max nanos 0 / 86400000000000 := by
  have hdays : (10 : Int) ^ maxDigits ≤ max nanos 0 / 86400000000000 ↔
      ¬ (Duration.ofMicroseconds (wholeMicroseconds nanos)).days < 10 ^ maxDigits := by
    rw [← days_wholeMicroseconds, Nat.not_lt, ← Int.ofNat_le, Int.natCast_pow]
    rfl
  rw [hdays]
  cases h : durationText nanos with
  | error e =>
    refine iff_of_true ⟨e, rfl⟩ fun hsmall => ?_
    rw [durationText_eq_ok_iff.2 ⟨hsmall, rfl⟩] at h
    cases h
  | ok text => simpa using (durationText_eq_ok_iff.1 h).1

/-- **Duration text is exact.**  The text of a number of nanoseconds has the form that is read, and is read
    as the whole microseconds, a negative number as none; there is one iff the days have few enough digits
    to be written. So two numbers have the same text iff they agree to the microsecond, or neither has
    one. -/
theorem durationText_exact (nanos : Int) :
    ((∃ e, durationText nanos = .error e) ↔ 10 ^ maxDigits ≤ max nanos 0 / 86400000000000) ∧
    ((∃ text d, durationText nanos = .ok text ∧ Duration.read? text.toList = some d ∧ d.clock.IsReal ∧
        (d.microseconds : Int) = max nanos 0 / 1000) ↔
      max nanos 0 / 86400000000000 < 10 ^ maxDigits) ∧
    ∀ other, durationText nanos = durationText other ↔
      max nanos 0 / 1000 = max other 0 / 1000 ∨
        10 ^ maxDigits ≤ max nanos 0 / 86400000000000 ∧ 10 ^ maxDigits ≤ max other 0 / 86400000000000 := by
  refine ⟨exists_durationText_error_iff, ?_, fun other => ?_⟩
  · rw [← Int.not_le, ← exists_durationText_error_iff]
    cases h : durationText nanos with
    | error e => exact iff_of_false (by simp) fun hnone => hnone ⟨e, rfl⟩
    | ok text =>
      refine iff_of_true ⟨text, _, rfl, read?_durationText h,
        Duration.isReal_clock_ofMicroseconds _, ?_⟩ (by simp)
      rw [Duration.microseconds_ofMicroseconds, wholeMicroseconds_eq]
  · rw [← exists_durationText_error_iff, ← exists_durationText_error_iff, ← wholeMicroseconds_eq,
      ← wholeMicroseconds_eq, Int.ofNat_inj]
    constructor
    · intro hsame
      cases h : durationText nanos with
      | error e => exact Or.inr ⟨⟨e, rfl⟩, e, hsame.symm.trans h⟩
      | ok text =>
        -- what is read is the same, and so is its number of microseconds
        have hread := read?_durationText h
        rw [read?_durationText (hsame.symm.trans h), Option.some.injEq] at hread
        have hmicros := congrArg Duration.microseconds hread
        rw [Duration.microseconds_ofMicroseconds, Duration.microseconds_ofMicroseconds] at hmicros
        exact Or.inl hmicros.symm
    · rintro (hmicros | ⟨⟨⟨⟩, hnanos⟩, ⟨⟨⟩, hother⟩⟩)
      · rw [durationText, durationText, hmicros]
      · rw [hnanos, hother]

/-- There is no text of so many nanoseconds that their days have more digits than are written. -/
theorem duration_not_always_written :
    ¬ ∀ nanos : Int, ∃ text d, durationText nanos = .ok text ∧ Duration.read? text.toList = some d ∧
      (d.microseconds : Int) = max nanos 0 / 1000 := by
  intro halways
  obtain ⟨text, -, htext, -⟩ := halways (86400000000000 * 10 ^ maxDigits)
  have herror : ∃ e, durationText (86400000000000 * 10 ^ maxDigits) = .error e := by
    rw [exists_durationText_error_iff]
    have hpos : (0 : Int) < 10 ^ maxDigits := Int.pow_pos (by decide)
    generalize (10 : Int) ^ maxDigits = limit at hpos ⊢
    omega
  obtain ⟨e, he⟩ := herror
  rw [htext] at he
  cases he

example : durationText 90061000002999 = .ok "1.01:01:01.000002" := by decide +kernel

end SpanTelemetry
