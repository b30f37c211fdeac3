import SpanTelemetry.Proofs.Time.Calendar
import SpanTelemetry.Proofs.Time.Duration
import SpanTelemetry.Time.Timestamp

namespace SpanTelemetry

open Text

/-!
# Timestamps are read back, and ordered

The text of a point in time loses nothing but what is below a microsecond, and sorting the texts sorts the
times.

* `Moment.IsWritable` — a moment that exists and that a text has room for.
* `Moment.read?` — the moment that a text of the form `YYYY-MM-DDThh:mm:ss.ffffffZ` tells.
* `Moment.read?_text`, `Moment.length_text`, `Moment.text_lt_iff` — the texts of moments.
* `Moment.isWritable_ofMicroseconds` — up to the last second of the year 9999, all moments are writable.
* `exists_timestampText_error_iff` — beyond that second no text is made.
* `timestampText_exact` — which moment a text tells, and how two texts compare.
-/

namespace Moment

/-! ### Moments that can be written -/

/-- A moment that exists and that a text has room for. -/
structure IsWritable (m : Moment) : Prop where
  date : m.date.IsReal
  year_le : m.date.year ≤ 9999
  clock : m.clock.IsReal

/-- The numbers of a date fit into its fields. -/
theorem IsWritable.fits {m : Moment} (h : m.IsWritable) :
    m.date.year < 10 ^ 4 ∧ m.date.month < 10 ^ 2 ∧ m.date.day < 10 ^ 2 := by
  obtain ⟨-, -, hmonth, -, hday⟩ := h.date
  have hyear := h.year_le
  have hlongest := (daysInMonth_bounds m.date.year m.date.month).2
  omega

/-- The date of a moment after the start of 1970 is reached from there day after day. -/
theorem date_ofMicroseconds (micros : Nat) :
    (ofMicroseconds micros).date = Date.next^[micros / Clock.microsecondsPerDay] ⟨1970, 1, 1⟩ := by
  have hepoch : Date.ofDayNumber epochDay = ⟨1970, 1, 1⟩ := by decide
  rw [ofMicroseconds, Date.ofDayNumber_add, hepoch]

/-- **Up to the last second** of the year 9999, the moments can be written. -/
theorem isWritable_ofMicroseconds {micros : Nat} (h : micros / 1000000 ≤ lastSecond) :
    (ofMicroseconds micros).IsWritable where
  date := Date.isReal_ofDayNumber _
  year_le := by
    have hlast : (lastSecond + 1) * 1000000 =
        (Date.daysBeforeYear 10000 - epochDay) * Clock.microsecondsPerDay := by decide
    have hdays : epochDay + micros / Clock.microsecondsPerDay < Date.daysBeforeYear 10000 := by
      have hfirst : epochDay ≤ Date.daysBeforeYear 10000 := by decide
      have hdiv : micros / Clock.microsecondsPerDay < Date.daysBeforeYear 10000 - epochDay := by
        refine Nat.div_lt_of_lt_mul ?_
        rw [Nat.mul_comm, ← hlast]
        omega
      omega
    exact Date.year_ofDayNumber_le hdays
  clock := Clock.isReal_ofMicroseconds (Nat.mod_lt _ (by decide))

/-! ### Texts of moments -/

/-- The moment that a text tells: four digits for the year and two each for the month and the day of a date
    that exists, behind a `T` a time of day, and a `Z` at the end. -/
def read? (text : List Char) : Option Moment := do
  let (year, rest) ← cutFirst '-' text
  let (month, rest) ← cutFirst '-' rest
  let (day, rest) ← cutFirst 'T' rest
  let clock ← dropEnd? ['Z'] rest
  let year ← readField? 4 year
  let month ← readField? 2 month
  let day ← readField? 2 day
  let clock ← Clock.read? clock
  let date : Date := ⟨year, month, day⟩
  if date.IsReal then some ⟨date, clock⟩ else none

variable {m n : Moment}

/-- The fields of the text of a moment, one behind the other. -/
theorem text_eq (m : Moment) :
    m.text = padded 4 (decimal m.date.year) ++ '-' :: (padded 2 (decimal m.date.month) ++
      '-' :: (padded 2 (decimal m.date.day) ++ 'T' :: (m.clock.text ++ ['Z']))) := by
  simp [text]

/-- **The text of a moment** tells that moment. -/
theorem read?_text (h : m.IsWritable) : read? m.text = some m := by
  obtain ⟨hyear, hmonth, hday⟩ := h.fits
  have hdash : ('-').isDigit = false := by decide
  have htime : ('T').isDigit = false := by decide
  have htwo : 0 < 2 := by decide
  have hend : dropEnd? ['Z'] (m.clock.text ++ ['Z']) = some m.clock.text :=
    dropEnd?_eq_some_iff.2 rfl
  rw [text_eq, read?, cutFirst_padded_decimal hdash]
  simp [cutFirst_padded_decimal hdash, cutFirst_padded_decimal htime, hend,
    readField?_padded (show 0 < 4 by decide) hyear, readField?_padded htwo hmonth,
    readField?_padded htwo hday, Clock.read?_text h.clock, h.date]

theorem length_text (h : m.IsWritable) : m.text.length = 27 := by
  obtain ⟨hyear, hmonth, hday⟩ := h.fits
  have htwo : 0 < 2 := by decide
  rw [text_eq]
  simp [length_padded_decimal (show 0 < 4 by decide) hyear, length_padded_decimal htwo hmonth,
    length_padded_decimal htwo hday, Clock.length_text h.clock]

/-- **Texts of moments** are in the order of the dates, and on one date in that of the times of day. -/
theorem text_lt_iff (hm : m.IsWritable) (hn : n.IsWritable) :
    m.text < n.text ↔
      m.date.IsBefore n.date ∨ m.date = n.date ∧ m.clock.microseconds < n.clock.microseconds := by
  obtain ⟨hmyear, hmmonth, hmday⟩ := hm.fits
  obtain ⟨hnyear, hnmonth, hnday⟩ := hn.fits
  have htwo : 0 < 2 := by decide
  rw [text_eq, text_eq, padded_append_lt_iff (by decide) hmyear hnyear, List.cons_lt_cons_iff,
    padded_append_lt_iff htwo hmmonth hnmonth, List.cons_lt_cons_iff,
    padded_append_lt_iff htwo hmday hnday, List.cons_lt_cons_iff,
    Clock.text_append_lt_iff hm.clock hn.clock]
  obtain ⟨⟨my, mm, md⟩, mclock⟩ := m
  obtain ⟨⟨ny, nm, nd⟩, nclock⟩ := n
  simp only [Date.IsBefore, Date.mk.injEq, Char.lt_irrefl, List.lt_irrefl, false_or, true_and,
    and_false, or_false]
  omega

/-- The moments after the start of 1970 are written in their order. -/
theorem text_ofMicroseconds_lt_iff {a b : Nat} (ha : (ofMicroseconds a).IsWritable)
    (hb : (ofMicroseconds b).IsWritable) :
    (ofMicroseconds a).text < (ofMicroseconds b).text ↔ a < b := by
  rw [text_lt_iff ha hb, Date.isBefore_iff ha.date hb.date, ← Date.dayNumber_inj ha.date hb.date]
  simp only [ofMicroseconds, Date.dayNumber_ofDayNumber, Clock.microseconds_ofMicroseconds,
    Clock.microsecondsPerDay]
  omega

end Moment

/-! ### The text of a point in time -/

/-- A time can be written down unless it is too late. -/
theorem exists_timestampText_error_iff {nanos : Int} :
    (∃ e, timestampText nanos = .error e) ↔ (lastSecond : Int) < max nanos 0 / 1000000000 := by
  have hseconds : ((nanos.toNat / 1000000000 : Nat) : Int) = max nanos 0 / 1000000000 := by omega
  rw [← hseconds, Int.ofNat_lt, timestampText]
  by_cases h : nanos.toNat / 1000000000 ≤ lastSecond
  · simp [h]
  · simp only [h, if_false]
    refine ⟨fun _ => Nat.lt_of_not_le h, fun _ => ?_⟩
    split
    · exact ⟨_, rfl⟩
    · split <;> exact ⟨_, rfl⟩

section Written

variable {nanos other : Int} {text otherText : String}

/-- What is written is the moment after the whole microseconds. -/
theorem toList_timestampText (h : timestampText nanos = .ok text) :
    (Moment.ofMicroseconds (wholeMicroseconds nanos)).IsWritable ∧
      text.toList = (Moment.ofMicroseconds (wholeMicroseconds nanos)).text := by
  have hinRange : nanos.toNat / 1000000000 ≤ lastSecond := by
    by_contra hlate
    obtain ⟨e, he⟩ : ∃ e, timestampText nanos = .error e := by
      rw [exists_timestampText_error_iff]
      omega
    rw [he] at h
    cases h
  have hmicros : wholeMicroseconds nanos / 1000000 ≤ lastSecond := by
    rwa [wholeMicroseconds, Nat.div_div_eq_div_mul]
  rw [timestampText, if_pos hinRange, Except.ok.injEq] at h
  exact ⟨Moment.isWritable_ofMicroseconds hmicros, by rw [← h, String.toList_ofList]⟩

theorem length_timestampText (h : timestampText nanos = .ok text) : text.length = 27 := by
  obtain ⟨hwritable, hlist⟩ := toList_timestampText h
  rw [← String.length_toList, hlist, Moment.length_text hwritable]

/-- The moment that the text tells lies the whole microseconds after the start of 1970. -/
theorem exists_read?_timestampText (h : timestampText nanos = .ok text) :
    ∃ m days, Moment.read? text.toList = some m ∧ m.date.IsReal ∧ m.clock.IsReal ∧
      m.date = Date.next^[days] ⟨1970, 1, 1⟩ ∧
      ((days * Clock.microsecondsPerDay + m.clock.microseconds : Nat) : Int) = max nanos 0 / 1000 := by
  obtain ⟨hwritable, hlist⟩ := toList_timestampText h
  refine ⟨Moment.ofMicroseconds (wholeMicroseconds nanos),
    wholeMicroseconds nanos / Clock.microsecondsPerDay, ?_, hwritable.date, hwritable.clock,
    Moment.date_ofMicroseconds _, ?_⟩
  · rw [hlist, Moment.read?_text hwritable]
  · have hclock := Clock.microseconds_ofMicroseconds
      (wholeMicroseconds nanos % Clock.microsecondsPerDay)
    rw [Moment.ofMicroseconds, hclock, Nat.div_add_mod', wholeMicroseconds_eq]

/-- Sorting the texts sorts the times. -/
theorem timestampText_lt_iff (h : timestampText nanos = .ok text)
    (hother : timestampText other = .ok otherText) :
    text < otherText ↔ max nanos 0 / 1000 < max other 0 / 1000 := by
  obtain ⟨hwritable, hlist⟩ := toList_timestampText h
  obtain ⟨hwritable', hlist'⟩ := toList_timestampText hother
  rw [String.lt_iff, hlist, hlist', Moment.text_ofMicroseconds_lt_iff hwritable hwritable',
    ← Int.ofNat_lt, wholeMicroseconds_eq, wholeMicroseconds_eq]

theorem timestampText_eq_iff (h : timestampText nanos = .ok text)
    (hother : timestampText other = .ok otherText) :
    text = otherText ↔ max nanos 0 / 1000 = max other 0 / 1000 := by
  constructor
  · intro hsame
    -- neither of two equal texts is before the other
    have hle := mt (timestampText_lt_iff h hother).2 (by rw [hsame]; exact String.lt_irrefl _)
    have hge := mt (timestampText_lt_iff hother h).2 (by rw [hsame]; exact String.lt_irrefl _)
    omega
  · intro hmicros
    rw [← wholeMicroseconds_eq, ← wholeMicroseconds_eq, Int.ofNat_inj] at hmicros
    refine String.toList_injective ?_
    rw [(toList_timestampText h).2, (toList_timestampText hother).2, hmicros]

end Written

/-- **Timestamps are exact and ordered.**  A time has no text iff it is beyond the last second of the year
    9999. Otherwise its text has 27 characters and is read as a date of the calendar, so many days after
    1 January 1970, and a time of day, which together make up the whole microseconds of the time, a negative
    one counting as none. Texts are in the order of these microseconds, and the same iff they are. -/
theorem timestampText_exact (nanos : Int) :
    ((∃ e, timestampText nanos = .error e) ↔ 253402300799 < max nanos 0 / 1000000000) ∧
    ∀ text, timestampText nanos = .ok text →
      text.length = 27 ∧
      (∃ m days, Moment.read? text.toList = some m ∧ m.date.IsReal ∧ m.clock.IsReal ∧
        m.date = Date.next^[days] ⟨1970, 1, 1⟩ ∧
        ((days * Clock.microsecondsPerDay + m.clock.microseconds : Nat) : Int) =
          max nanos 0 / 1000) ∧
      ∀ other otherText, timestampText other = .ok otherText →
        (text < otherText ↔ max nanos 0 / 1000 < max other 0 / 1000) ∧
        (text = otherText ↔ max nanos 0 / 1000 = max other 0 / 1000) := by
  refine ⟨exists_timestampText_error_iff, fun text h => ?_⟩
  refine ⟨length_timestampText h, exists_read?_timestampText h, fun other otherText hother => ?_⟩
  exact ⟨timestampText_lt_iff h hother, timestampText_eq_iff h hother⟩

/-- The last microsecond of a leap day, and the next one. -/
theorem timestampText_exact_leapDay :
    timestampText 951868799999999999 = .ok "2000-02-29T23:59:59.999999Z" ∧
    timestampText 951868800000000000 = .ok "2000-03-01T00:00:00.000000Z" ∧
    "2000-02-29T23:59:59.999999Z".length = 27 ∧
    (∃ m days, Moment.read? "2000-02-29T23:59:59.999999Z".toList = some m ∧ m.date.IsReal ∧
      m.clock.IsReal ∧ m.date = Date.next^[days] ⟨1970, 1, 1⟩ ∧
      ((days * Clock.microsecondsPerDay + m.clock.microseconds : Nat) : Int) = 951868799999999) ∧
    "2000-02-29T23:59:59.999999Z" < "2000-03-01T00:00:00.000000Z" := by
  have hleap : timestampText 951868799999999999 = .ok "2000-02-29T23:59:59.999999Z" := rfl
  have hnext : timestampText 951868800000000000 = .ok "2000-03-01T00:00:00.000000Z" := rfl
  obtain ⟨hlength, hmoment, horder⟩ := (timestampText_exact 951868799999999999).2 _ hleap
  exact ⟨hleap, hnext, hlength, hmoment, (horder _ _ hnext).1.2 (by decide)⟩

end SpanTelemetry
