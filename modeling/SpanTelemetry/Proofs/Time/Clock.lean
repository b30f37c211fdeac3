import SpanTelemetry.Proofs.Text.FixedWidth
import SpanTelemetry.Time.Duration

namespace SpanTelemetry.Clock

open Text

/-!
# Times of day and their text

* `IsReal` — a time that a clock shows, with `isReal_ofMicroseconds` for each length of time below a day.
* `read?` — the time that a text of the form `hh:mm:ss.ffffff` tells.
* `read?_text` — the text of a time tells that time.
* `length_text` — it has 15 characters.
* `text_append_lt_iff` — texts that begin with a time are in the order of the times.
-/

/-- A time that a clock shows. -/
structure IsReal (c : Clock) : Prop where
  hour_lt : c.hour < 24
  minute_lt : c.minute < 60
  second_lt : c.second < 60
  microsecond_lt : c.microsecond < 1000000

/-- A length of time below a day is a time of day. -/
theorem isReal_ofMicroseconds {micros : Nat} (h : micros < microsecondsPerDay) :
    (ofMicroseconds micros).IsReal := by
  unfold microsecondsPerDay at h
  refine ⟨?_, ?_, ?_, ?_⟩
  all_goals
    simp only [ofMicroseconds]
    omega

/-! ### Reading times -/

/-- The time of day that a text tells: two digits each for an hour below 24, a minute below 60 and a second
    below 60, and six for the microseconds. -/
def read? (text : List Char) : Option Clock := do
  let (hour, rest) ← cutFirst ':' text
  let (minute, rest) ← cutFirst ':' rest
  let (second, fraction) ← cutFirst '.' rest
  let hour ← readField? 2 hour
  let minute ← readField? 2 minute
  let second ← readField? 2 second
  let microsecond ← readField? 6 fraction
  if hour < 24 ∧ minute < 60 ∧ second < 60 then some ⟨hour, minute, second, microsecond⟩ else none

variable {c d : Clock}

/-- The fields of the text of a time, one behind the other. -/
theorem text_append_eq (c : Clock) (rest : List Char) :
    c.text ++ rest = padded 2 (decimal c.hour) ++ ':' :: (padded 2 (decimal c.minute) ++
      ':' :: (padded 2 (decimal c.second) ++ '.' :: (padded 6 (decimal c.microsecond) ++ rest))) := by
  simp [text]

/-- The numbers of a time fit into its fields. -/
theorem IsReal.fits (h : c.IsReal) :
    c.hour < 10 ^ 2 ∧ c.minute < 10 ^ 2 ∧ c.second < 10 ^ 2 ∧ c.microsecond < 10 ^ 6 := by
  obtain ⟨hhour, hminute, hsecond, hmicrosecond⟩ := h
  omega

/-- **The text of a time** tells that time. -/
theorem read?_text (h : c.IsReal) : read? c.text = some c := by
  obtain ⟨hhour, hminute, hsecond, hmicrosecond⟩ := h.fits
  have hcolon : (':').isDigit = false := by decide
  have hpoint : ('.').isDigit = false := by decide
  have htwo : 0 < 2 := by decide
  rw [← List.append_nil c.text, text_append_eq, List.append_nil, read?,
    cutFirst_padded_decimal hcolon]
  simp [cutFirst_padded_decimal hcolon, cutFirst_padded_decimal hpoint, readField?_padded htwo hhour,
    readField?_padded htwo hminute, readField?_padded htwo hsecond,
    readField?_padded (by decide) hmicrosecond, h.hour_lt, h.minute_lt, h.second_lt]

theorem length_text (h : c.IsReal) : c.text.length = 15 := by
  obtain ⟨hhour, hminute, hsecond, hmicrosecond⟩ := h.fits
  have htwo : 0 < 2 := by decide
  rw [← List.append_nil c.text, text_append_eq]
  simp [length_padded_decimal htwo hhour, length_padded_decimal htwo hminute,
    length_padded_decimal htwo hsecond, length_padded_decimal (by decide) hmicrosecond]

/-! ### The order of times -/

/-- **Texts that begin with a time** are in the order of the times, and then of what follows. -/
theorem text_append_lt_iff (hc : c.IsReal) (hd : d.IsReal) (xs ys : List Char) :
    c.text ++ xs < d.text ++ ys ↔
      c.microseconds < d.microseconds ∨ c.microseconds = d.microseconds ∧ xs < ys := by
  obtain ⟨hchour, hcminute, hcsecond, hcmicro⟩ := hc.fits
  obtain ⟨hdhour, hdminute, hdsecond, hdmicro⟩ := hd.fits
  have htwo : 0 < 2 := by decide
  rw [text_append_eq, text_append_eq, padded_append_lt_iff htwo hchour hdhour,
    List.cons_lt_cons_iff, padded_append_lt_iff htwo hcminute hdminute, List.cons_lt_cons_iff,
    padded_append_lt_iff htwo hcsecond hdsecond, List.cons_lt_cons_iff,
    padded_append_lt_iff (by decide) hcmicro hdmicro]
  -- the order of the fields is that of the numbers which they make up, as each is below its bound
  obtain ⟨hchour, hcminute, hcsecond, hcmicro⟩ := hc
  obtain ⟨hdhour, hdminute, hdsecond, hdmicro⟩ := hd
  simp only [microseconds, Char.lt_irrefl, false_or, true_and]
  by_cases hrest : xs < ys
  · simp only [hrest, and_true]
    omega
  · simp only [hrest, and_false, or_false]
    omega

end SpanTelemetry.Clock
