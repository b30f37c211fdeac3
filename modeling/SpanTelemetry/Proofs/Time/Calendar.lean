import Mathlib.Logic.Function.Iterate
import Mathlib.Order.Monotone.Basic
import SpanTelemetry.Time.Calendar

namespace SpanTelemetry

/-!
# Days of the calendar

The date of a day number is found by division. That these are the dates of the calendar is said by its
rules alone: the last day of a month is followed by the first of the next one.

* `daysOfYear`, `Date.daysBeforeYear_succ` — the years follow each other by their lengths.
* `Date.isReal_ofDayNumber`, `Date.dayNumber_ofDayNumber` — the date of a day number exists and has that
  number.
* `Date.IsBefore`, `Date.isBefore_iff`, `Date.dayNumber_inj` — dates are in the order of their numbers.
* `Date.next`, `Date.dayNumber_next` — the day after a date has the next number.
* `Date.ofDayNumber_add` — counting days on leads from the date of a day number to that of a later one.
-/

/-- The number of days of a year. -/
def daysOfYear (year : Nat) : Nat := if isLeapYear year then 366 else 365

/-- No year is shorter than a common one. -/
theorem daysOfYear_ge (year : Nat) : 365 ≤ daysOfYear year := by
  unfold daysOfYear
  split <;> decide

theorem daysOfYear_of_isLeapYear {year : Nat} (h : isLeapYear year = true) :
    daysOfYear year = 366 := by
  rw [daysOfYear, if_pos h]

/-- A month has from one to thirty-one days. -/
theorem daysInMonth_bounds (year month : Nat) :
    1 ≤ daysInMonth year month ∧ daysInMonth year month ≤ 31 := by
  unfold daysInMonth
  split
  · split <;> decide
  all_goals decide

namespace Date

instance (d : Date) : Decidable d.IsReal :=
  inferInstanceAs (Decidable (_ ∧ _ ∧ _ ∧ _ ∧ _))

/-! ### Days before a month and a year -/

theorem daysBeforeMonth_one (year : Nat) : daysBeforeMonth year 1 = 0 := rfl

/-- A month begins when the one before it is over. -/
theorem daysBeforeMonth_succ (year : Nat) {month : Nat} (h : 1 ≤ month) :
    daysBeforeMonth year (month + 1) = daysBeforeMonth year month + daysInMonth year month := by
  have hpos : month ≠ 0 := by omega
  rw [daysBeforeMonth, if_neg hpos]

/-- The months make up the year. -/
theorem daysBeforeMonth_thirteen (year : Nat) : daysBeforeMonth year 13 = daysOfYear year := by
  unfold daysOfYear
  cases hleap : isLeapYear year <;> simp [daysBeforeMonth, daysInMonth, hleap]

/-- Later months begin later. -/
theorem daysBeforeMonth_mono (year : Nat) : Monotone (daysBeforeMonth year) := by
  refine monotone_nat_of_le_succ fun month => ?_
  by_cases hpos : 1 ≤ month
  · rw [daysBeforeMonth_succ year hpos]
    exact Nat.le_add_right _ _
  · have hzero : month = 0 := by omega
    rw [hzero]
    exact Nat.zero_le _

/-- **The years make up the calendar**: each begins as many days after the one before as that has. -/
theorem daysBeforeYear_succ {year : Nat} (h : 1 ≤ year) :
    daysBeforeYear (year + 1) = daysBeforeYear year + daysOfYear year := by
  obtain ⟨y, rfl⟩ := Nat.exists_eq_add_of_le' h
  -- of the three counts of leap years, those change whose cycle ends with the year
  simp only [daysBeforeYear, daysOfYear, isLeapYear, Nat.add_sub_cancel, Nat.succ_div,
    Nat.dvd_iff_mod_eq_zero]
  have hcenturies : y / 100 ≤ y / 4 := Nat.div_le_div_left (by decide) (by decide)
  have hcentury : (y + 1) % 100 = 0 → (y + 1) % 4 = 0 := by omega
  have hcycle : (y + 1) % 400 = 0 → (y + 1) % 100 = 0 := by omega
  generalize y / 4 = fours, y / 100 = centuries, y / 400 = cycles at hcenturies ⊢
  by_cases h4 : (y + 1) % 4 = 0
  · by_cases h100 : (y + 1) % 100 = 0
    · by_cases h400 : (y + 1) % 400 = 0
      · simp [h4, h100, h400]
        omega
      · simp [h4, h100, h400]
        omega
    · have h400 : (y + 1) % 400 ≠ 0 := mt hcycle h100
      simp [h4, h100, h400]
      omega
  · have h100 : (y + 1) % 100 ≠ 0 := mt hcentury h4
    have h400 : (y + 1) % 400 ≠ 0 := mt hcycle h100
    simp [h4, h100, h400]
    omega

/-- Later years begin later. -/
theorem daysBeforeYear_mono : Monotone daysBeforeYear := by
  refine monotone_nat_of_le_succ fun year => ?_
  by_cases hpos : 1 ≤ year
  · rw [daysBeforeYear_succ hpos]
    exact Nat.le_add_right _ _
  · have hzero : year = 0 := by omega
    rw [hzero]
    exact Nat.zero_le _

/-! ### The year of a day number -/

/-- A day number in whole cycles of 400, 100, 4 and 1 years and the days left. The last day of a leap year
    is the only one that no year of 365 days would hold. -/
structure IsCycles (n q c k e d : Nat) : Prop where
  days_eq : n = 146097 * q + 36524 * c + 1461 * k + 365 * e + d
  year_eq : yearOfDayNumber n = 400 * q + 100 * c + 4 * k + e + 1
  centuries_le : c ≤ 3
  fours_le : k ≤ 24
  years_le : e ≤ 3
  rest : d < 365 ∨ d = 365 ∧ e = 3 ∧ (k < 24 ∨ c = 3)

/-- Every day number is made up so. -/
theorem exists_isCycles (n : Nat) : ∃ q c k e d, IsCycles n q c k e d := by
  have hn : n = 146097 * (n / 146097) + n % 146097 := (Nat.div_add_mod n 146097).symm
  have hr : n % 146097 < 146097 := Nat.mod_lt _ (by decide)
  -- the days of the last century, and of the last four years, may be one more than the others
  obtain ⟨c, hc⟩ : ∃ c, c = min (n % 146097 / 36524) 3 := ⟨_, rfl⟩
  have hcentury : c ≤ 3 ∧ 36524 * c ≤ n % 146097 ∧
      (n % 146097 < 36524 * c + 36524 ∨ n % 146097 = 36524 * c + 36524 ∧ c = 3) := by
    omega
  obtain ⟨s, hs⟩ : ∃ s, s = n % 146097 - c * 36524 := ⟨_, rfl⟩
  have hfours : s = 1461 * (s / 1461) + s % 1461 := (Nat.div_add_mod s 1461).symm
  have hlast : s % 1461 < 1461 := Nat.mod_lt _ (by decide)
  obtain ⟨e, he⟩ : ∃ e, e = min (s % 1461 / 365) 3 := ⟨_, rfl⟩
  have hyears : e ≤ 3 ∧ 365 * e ≤ s % 1461 ∧
      (s % 1461 < 365 * e + 365 ∨ s % 1461 = 365 * e + 365 ∧ e = 3) := by
    omega
  have hyear : yearOfDayNumber n = 400 * (n / 146097) + 100 * c + 4 * (s / 1461) + e + 1 := by
    rw [he, hs, hc]
    rfl
  exact ⟨n / 146097, c, s / 1461, e, s % 1461 - 365 * e,
    { days_eq := by omega
      year_eq := hyear
      centuries_le := hcentury.1
      fours_le := by omega
      years_le := hyears.1
      rest := by omega }⟩

section Cycles

variable {n q c k e d : Nat}

/-- The days before the year are those of the whole cycles. -/
theorem IsCycles.daysBeforeYear_eq (h : IsCycles n q c k e d) :
    daysBeforeYear (yearOfDayNumber n) = 146097 * q + 36524 * c + 1461 * k + 365 * e := by
  obtain ⟨-, hyear, hc, hk, he, -⟩ := h
  have h4 : (400 * q + 100 * c + 4 * k + e) / 4 = 100 * q + 25 * c + k := by omega
  have h100 : (400 * q + 100 * c + 4 * k + e) / 100 = 4 * q + c := by omega
  have h400 : (400 * q + 100 * c + 4 * k + e) / 400 = q := by omega
  rw [hyear, daysBeforeYear]
  simp only [Nat.add_sub_cancel, h4, h100, h400]
  omega

/-- The days left fit into the year. -/
theorem IsCycles.lt_daysOfYear (h : IsCycles n q c k e d) : d < daysOfYear (yearOfDayNumber n) := by
  rcases h.rest with hd | ⟨hd, he, hlast⟩
  · exact Nat.lt_of_lt_of_le hd (daysOfYear_ge _)
  · have hleap : isLeapYear (yearOfDayNumber n) = true := by
      have h4 : yearOfDayNumber n % 4 = 0 := by
        rw [h.year_eq]
        omega
      have hcentury : yearOfDayNumber n % 100 ≠ 0 ∨ yearOfDayNumber n % 400 = 0 := by
        have hc := h.centuries_le
        have hk := h.fours_le
        rw [h.year_eq]
        omega
      simp [isLeapYear, h4, hcentury]
    rw [daysOfYear_of_isLeapYear hleap, hd]
    decide

end Cycles

theorem yearOfDayNumber_pos (n : Nat) : 1 ≤ yearOfDayNumber n := by
  obtain ⟨q, c, k, e, d, h⟩ := exists_isCycles n
  rw [h.year_eq]
  omega

/-- **The year of a day number** is the one that the day lies in. -/
theorem yearOfDayNumber_bounds (n : Nat) :
    daysBeforeYear (yearOfDayNumber n) ≤ n ∧
      n < daysBeforeYear (yearOfDayNumber n) + daysOfYear (yearOfDayNumber n) := by
  obtain ⟨q, c, k, e, d, h⟩ := exists_isCycles n
  have hyear := h.daysBeforeYear_eq
  have hrest := h.lt_daysOfYear
  have hn := h.days_eq
  omega

/-! ### The date of a day number -/

/-- A month and a day of it that so many days of the year lie before. -/
structure IsDayAfter (year days : Nat) (date : Nat × Nat) : Prop where
  month_pos : 1 ≤ date.1
  month_le : date.1 ≤ 12
  day_pos : 1 ≤ date.2
  day_le : date.2 ≤ daysInMonth year date.1
  days_eq : daysBeforeMonth year date.1 + (date.2 - 1) = days

/-- Looking from a month on, the month and the day are found. -/
theorem isDayAfter_monthAndDay (year : Nat) {months month rest : Nat} (hmonth : 1 ≤ month)
    (hlast : month + months = 12) (hrest : daysBeforeMonth year month + rest < daysOfYear year) :
    IsDayAfter year (daysBeforeMonth year month + rest) (monthAndDay year months month rest) := by
  -- by induction on the months that are left, each of which is skipped with its days
  induction months generalizing month rest with
  | zero =>
    have hdecember : month = 12 := by omega
    have hmonths := daysBeforeMonth_succ year (show 1 ≤ 12 by decide)
    rw [daysBeforeMonth_thirteen] at hmonths
    subst hdecember
    refine ⟨hmonth, Nat.le_refl _, Nat.succ_pos _, ?_, by simp [monthAndDay]⟩
    simp only [monthAndDay]
    omega
  | succ months ih =>
    unfold monthAndDay
    split
    · rename_i hinside
      exact ⟨hmonth, by simp only; omega, Nat.succ_pos _, hinside, by simp⟩
    · rename_i hbeyond
      have hnext := daysBeforeMonth_succ year hmonth
      have hdays : daysBeforeMonth year (month + 1) + (rest - daysInMonth year month) =
          daysBeforeMonth year month + rest := by
        omega
      have hrest' : daysBeforeMonth year (month + 1) + (rest - daysInMonth year month) <
          daysOfYear year := by
        rwa [hdays]
      have hlater := ih (Nat.succ_pos month) (by omega) hrest'
      rwa [hdays] at hlater

/-- The date of a day number lies in its year, with the month and the day that are found there. -/
theorem exists_ofDayNumber_eq (n : Nat) :
    ∃ month day, ofDayNumber n = ⟨yearOfDayNumber n, month, day⟩ ∧
      IsDayAfter (yearOfDayNumber n) (n - daysBeforeYear (yearOfDayNumber n)) (month, day) := by
  obtain ⟨hfirst, hlast⟩ := yearOfDayNumber_bounds n
  have hrest : daysBeforeMonth (yearOfDayNumber n) 1 + (n - daysBeforeYear (yearOfDayNumber n)) <
      daysOfYear (yearOfDayNumber n) := by
    rw [daysBeforeMonth_one]
    omega
  have hmonths : 1 + 11 = 12 := rfl
  have hfound := isDayAfter_monthAndDay (yearOfDayNumber n) (Nat.le_refl 1) hmonths hrest
  rw [daysBeforeMonth_one, Nat.zero_add] at hfound
  cases hdate : monthAndDay (yearOfDayNumber n) 11 1 (n - daysBeforeYear (yearOfDayNumber n)) with
  | mk month day =>
    rw [hdate] at hfound
    exact ⟨month, day, by simp only [ofDayNumber, hdate], hfound⟩

/-- **The date of a day number exists.** -/
theorem isReal_ofDayNumber (n : Nat) : (ofDayNumber n).IsReal := by
  obtain ⟨month, day, hdate, h⟩ := exists_ofDayNumber_eq n
  rw [hdate]
  exact ⟨yearOfDayNumber_pos n, h.month_pos, h.month_le, h.day_pos, h.day_le⟩

/-- **It has that day number.** -/
theorem dayNumber_ofDayNumber (n : Nat) : (ofDayNumber n).dayNumber = n := by
  obtain ⟨month, day, hdate, h⟩ := exists_ofDayNumber_eq n
  have hdays : daysBeforeMonth (yearOfDayNumber n) month + (day - 1) =
      n - daysBeforeYear (yearOfDayNumber n) := h.days_eq
  have hyear : daysBeforeYear (yearOfDayNumber n) ≤ n := (yearOfDayNumber_bounds n).1
  rw [hdate]
  simp only [dayNumber]
  omega

/-! ### The order of dates -/

/-- The order of dates: by the year, then the month, then the day. -/
def IsBefore (d e : Date) : Prop :=
  d.year < e.year ∨
    d.year = e.year ∧ (d.month < e.month ∨ d.month = e.month ∧ d.day < e.day)

section Order

variable {d e : Date}

/-- The days of a year before a date are fewer than those before the next month. -/
theorem IsReal.dayOfYear_lt (h : d.IsReal) :
    daysBeforeMonth d.year d.month + (d.day - 1) < daysBeforeMonth d.year (d.month + 1) := by
  obtain ⟨-, hmonth, -, hday, hlast⟩ := h
  rw [daysBeforeMonth_succ d.year hmonth]
  omega

/-- The number of a date is below that of the next year. -/
theorem IsReal.dayNumber_lt (h : d.IsReal) : d.dayNumber < daysBeforeYear (d.year + 1) := by
  have hmonth : d.month + 1 ≤ 13 := by
    have hdecember := h.2.2.1
    omega
  have hyear := daysBeforeMonth_mono d.year hmonth
  have hday := h.dayOfYear_lt
  rw [daysBeforeMonth_thirteen] at hyear
  rw [daysBeforeYear_succ h.1, dayNumber]
  omega

/-- An earlier date has a smaller number. -/
theorem IsBefore.dayNumber_lt (h : d.IsBefore e) (hd : d.IsReal) : d.dayNumber < e.dayNumber := by
  have hday : 1 ≤ d.day := hd.2.2.2.1
  rcases h with hyear | ⟨hyear, hmonth | ⟨hmonth, hday⟩⟩
  · have hnext := daysBeforeYear_mono (show d.year + 1 ≤ e.year from hyear)
    have hlast := hd.dayNumber_lt
    have hfirst : daysBeforeYear e.year ≤ e.dayNumber := by
      unfold dayNumber
      omega
    omega
  · have hnext := daysBeforeMonth_mono d.year (show d.month + 1 ≤ e.month from hmonth)
    have hlast := hd.dayOfYear_lt
    unfold dayNumber
    rw [← hyear]
    omega
  · unfold dayNumber
    rw [← hyear, ← hmonth]
    omega

/-- **Dates are in the order of their numbers.** -/
theorem isBefore_iff (hd : d.IsReal) (he : e.IsReal) : d.IsBefore e ↔ d.dayNumber < e.dayNumber := by
  refine ⟨fun h => h.dayNumber_lt hd, fun hlt => ?_⟩
  by_contra hnot
  -- the other date is earlier, or both are the same
  have hother : e.IsBefore d ∨ d = e := by
    obtain ⟨dy, dm, dd⟩ := d
    obtain ⟨ey, em, ed⟩ := e
    simp only [IsBefore, Date.mk.injEq] at hnot ⊢
    omega
  rcases hother with hbefore | rfl
  · have hgt := hbefore.dayNumber_lt he
    omega
  · exact Nat.lt_irrefl _ hlt

/-- Dates of one number are the same. -/
theorem dayNumber_inj (hd : d.IsReal) (he : e.IsReal) : d.dayNumber = e.dayNumber ↔ d = e := by
  refine ⟨fun h => ?_, fun h => by rw [h]⟩
  have hbefore : ¬ d.IsBefore e := by
    rw [isBefore_iff hd he]
    omega
  have hafter : ¬ e.IsBefore d := by
    rw [isBefore_iff he hd]
    omega
  obtain ⟨dy, dm, dd⟩ := d
  obtain ⟨ey, em, ed⟩ := e
  simp only [IsBefore, Date.mk.injEq] at hbefore hafter ⊢
  omega

end Order

/-! ### Day after day -/

/-- The day after a date: the next of the month, or the first of the next month or year. -/
def next (d : Date) : Date :=
  if d.day < daysInMonth d.year d.month then { d with day := d.day + 1 }
  else if d.month < 12 then ⟨d.year, d.month + 1, 1⟩
  else ⟨d.year + 1, 1, 1⟩

/-- The day after a day of the calendar is one as well. -/
theorem IsReal.next {d : Date} (h : d.IsReal) : d.next.IsReal := by
  obtain ⟨hyear, hmonth, hdecember, hday, hlast⟩ := h
  unfold Date.next
  split
  · rename_i hinside
    exact ⟨hyear, hmonth, hdecember, Nat.succ_pos _, hinside⟩
  · split
    · rename_i hnext
      exact ⟨hyear, Nat.succ_pos _, hnext, Nat.le_refl _, (daysInMonth_bounds _ _).1⟩
    · exact ⟨Nat.succ_pos _, Nat.le_refl _, by simp, Nat.le_refl _, (daysInMonth_bounds _ _).1⟩

/-- **The day after a date** has the next number. -/
theorem dayNumber_next {d : Date} (h : d.IsReal) : d.next.dayNumber = d.dayNumber + 1 := by
  obtain ⟨hyear, hmonth, hdecember, hday, hlast⟩ := h
  have hmonths := daysBeforeMonth_succ d.year hmonth
  unfold next
  split
  · simp only [dayNumber]
    omega
  · split
    · simp only [dayNumber]
      omega
    · have htwelve : d.month = 12 := by omega
      have hend : d.day = daysInMonth d.year d.month := by omega
      have hyears := daysBeforeYear_succ hyear
      rw [htwelve] at hend
      rw [htwelve, daysBeforeMonth_thirteen] at hmonths
      simp only [dayNumber, daysBeforeMonth_one, htwelve]
      omega

/-- The date of the next day number is the day after. -/
theorem ofDayNumber_succ (n : Nat) : ofDayNumber (n + 1) = (ofDayNumber n).next := by
  have hreal := isReal_ofDayNumber n
  refine (dayNumber_inj (isReal_ofDayNumber _) hreal.next).1 ?_
  rw [dayNumber_next hreal, dayNumber_ofDayNumber, dayNumber_ofDayNumber]

/-- **Day after day**, the dates of the day numbers are the dates of the calendar. -/
theorem ofDayNumber_add (n days : Nat) : ofDayNumber (n + days) = next^[days] (ofDayNumber n) := by
  induction days with
  | zero => rw [Nat.add_zero, Function.iterate_zero_apply]
  | succ days ih => rw [← Nat.add_assoc, ofDayNumber_succ, ih, Function.iterate_succ_apply']

/-- The day numbers before the year 10000. -/
theorem year_ofDayNumber_le {n : Nat} (h : n < daysBeforeYear 10000) : (ofDayNumber n).year ≤ 9999 := by
  obtain ⟨month, day, hdate, -⟩ := exists_ofDayNumber_eq n
  rw [hdate]
  by_contra hlate
  have hyear : 10000 ≤ yearOfDayNumber n := Nat.lt_of_not_le hlate
  have hfirst := (yearOfDayNumber_bounds n).1
  have hmono := daysBeforeYear_mono hyear
  omega

end Date

end SpanTelemetry
