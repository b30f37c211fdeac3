import SpanTelemetry.Proofs.Binary64.Overflow

namespace SpanTelemetry.Binary64

/-!
# Quotients are rounded to the nearest double

A quotient is compared with doubles in units of `2 ^ -1074`, and cross-multiplied, so that nothing but
integers is compared.

* `units?` — what a finite double stands for.
* `distance` — how far a number of units lies from a quotient.
* `IsRounded` — the double that a quotient is correctly rounded to: no other one is nearer, and of two that
  are as near it is the even one.
* `roundQuotient_nearest` — the nearest multiple of a step.
* `units_step` — what the ranks of one scale stand for.
* `nearestRank_nearest` — the nearest rank.
* `isRounded_ofIntQuotient?` — **division is correctly rounded**.
-/

/-! ### Nearest doubles -/

/-- A number with a sign. -/
def signed (negative : Bool) (u : Nat) : Int := if negative then -(u : Int) else u

/-- What a finite double stands for, in units of `2 ^ -1074`. -/
def units? : Binary64 → Option Int
  | finite negative rank => some (signed negative (units rank))
  | _ => none

/-- The last bit of the significand is zero. -/
def IsEven : Binary64 → Prop
  | finite _ rank => significand rank % 2 = 0
  | _ => False

/-- How far so many units lie from a quotient, multiplied by its denominator. -/
def distance (n : Int) (den : Nat) (u : Int) : Nat := (n * unitsInOne - u * den).natAbs

/-- A quotient is correctly rounded to a double, which has its sign: no finite double is nearer, and one
    that stands for another number is as near only if the double is even. -/
structure IsRounded (x : Binary64) (n : Int) (den : Nat) : Prop where
  sign : ∃ rank, x = finite (decide (n < 0)) rank
  nearest : ∀ u, x.units? = some u → ∀ (y : Binary64) (v : Int), y.units? = some v →
    distance n den u ≤ distance n den v
  even : ∀ u, x.units? = some u → ∀ (y : Binary64) (v : Int), y.units? = some v → v ≠ u →
    distance n den v = distance n den u → x.IsEven

/-! ### Multiples of a step -/

/-- **The nearest multiple** of a step is found by rounding; another one is as near only if the multiple is
    even. -/
theorem roundQuotient_nearest (num : Nat) {step : Nat} (hstep : 0 < step) (m : Nat) :
    ((num : Int) - (roundQuotient num step * step : Nat)).natAbs ≤
        ((num : Int) - (m * step : Nat)).natAbs ∧
      (((num : Int) - (m * step : Nat)).natAbs =
          ((num : Int) - (roundQuotient num step * step : Nat)).natAbs →
        m ≠ roundQuotient num step → roundQuotient num step % 2 = 0) := by
  have hdiv : step * (num / step) + num % step = num := Nat.div_add_mod num step
  have hmod : num % step < step := Nat.mod_lt num hstep
  have hcomm : num / step * step = step * (num / step) := Nat.mul_comm ..
  unfold roundQuotient
  generalize num / step = q at *
  generalize num % step = r at *
  have hnext : (q + 1) * step = q * step + step := Nat.succ_mul ..
  -- what is not next to the quotient is at least one more step away
  have hbelow : m < q → m * step + step ≤ q * step := by
    intro hlt
    rw [← Nat.succ_mul]
    exact Nat.mul_le_mul_right step hlt
  have habove : q + 2 ≤ m → q * step + 2 * step ≤ m * step := by
    intro hle
    rw [← Nat.add_mul]
    exact Nat.mul_le_mul_right step hle
  obtain hlt | rfl | rfl | hgt : m < q ∨ m = q ∨ m = q + 1 ∨ q + 2 ≤ m := by omega
  · have := hbelow hlt
    simp only
    split <;> omega
  · simp only
    split <;> omega
  · simp only
    split <;> omega
  · have := habove hgt
    simp only
    split <;> omega

/-- Rounding goes no lower than the whole quotient. -/
theorem div_le_roundQuotient (num step : Nat) : num / step ≤ roundQuotient num step := by
  unfold roundQuotient
  simp only
  split <;> omega

/-- It goes no higher than the next number. -/
theorem roundQuotient_le (num step : Nat) : roundQuotient num step ≤ num / step + 1 := by
  unfold roundQuotient
  simp only
  split <;> omega

/-! ### Ranks of one scale -/

theorem twoTo_succ (n : Nat) : twoTo (n + 1) = 2 * twoTo n := by
  rw [twoTo_add, Nat.mul_comm]

/-- There are at least so many units in one. -/
theorem twoTo_le_unitsInOne {k : Nat} (h : k ≤ 1074) : twoTo k ≤ unitsInOne := by
  unfold unitsInOne
  exact twoTo_le h

/-- A significand has no bit in front of the leading one. -/
theorem significand_lt (rank : Nat) : significand rank < 2 * leadingBit := by
  unfold significand
  simp only [leadingBit]
  split <;> omega

/-- The leading bit does not change which ranks are even. -/
theorem significand_mod_two (rank : Nat) : significand rank % 2 = rank % 2 := by
  unfold significand
  simp only [leadingBit]
  split <;> omega

/-- **The ranks of one scale** stand for multiples of its step; the last of them is the first one of the
    next scale. -/
theorem units_step {s m : Nat} (hm : m ≤ 2 * leadingBit) (hs : s = 0 ∨ leadingBit ≤ m) :
    units (s * leadingBit + m) = m * twoTo s := by
  have htwo : twoTo (s + 1) = 2 * twoTo s := twoTo_succ s
  unfold units significand scale
  simp only [leadingBit] at hm hs ⊢
  obtain hsub | hnormal | rfl : m < 0x10000000000000 ∨
      (0x10000000000000 ≤ m ∧ m < 0x20000000000000) ∨ m = 0x20000000000000 := by omega
  · obtain rfl : s = 0 := by omega
    rw [if_pos (by omega), show (0 * 0x10000000000000 + m) / 0x10000000000000 - 1 = 0 by omega,
      Nat.zero_mul, Nat.zero_add]
  · rw [if_neg (by omega), show (s * 0x10000000000000 + m) / 0x10000000000000 - 1 = s by omega,
      show 0x10000000000000 + (s * 0x10000000000000 + m) % 0x10000000000000 = m by omega]
  · rw [if_neg (by omega),
      show (s * 0x10000000000000 + 0x20000000000000) / 0x10000000000000 - 1 = s + 1 by omega,
      show (s * 0x10000000000000 + 0x20000000000000) % 0x10000000000000 = 0 by omega, htwo]
    omega

/-- Ranks of the same scale or a larger one stand for multiples of its step. -/
theorem exists_units_eq_mul {s rank : Nat} (h : s ≤ scale rank) : ∃ m, units rank = m * twoTo s := by
  refine ⟨significand rank * twoTo (scale rank - s), ?_⟩
  rw [Nat.mul_assoc, ← twoTo_add, Nat.sub_add_cancel h]
  rfl

/-- Ranks of a smaller scale stand for less than all those of a scale. -/
theorem units_lt_of_scale_lt {s rank : Nat} (h : scale rank < s) :
    units rank < leadingBit * twoTo s := by
  have hpos : 0 < twoTo (scale rank) := twoTo_pos _
  calc units rank = significand rank * twoTo (scale rank) := rfl
    _ < 2 * leadingBit * twoTo (scale rank) := Nat.mul_lt_mul_of_pos_right (significand_lt rank) hpos
    _ = leadingBit * twoTo (scale rank + 1) := by
      rw [twoTo_succ, Nat.mul_comm 2, Nat.mul_assoc]
    _ ≤ leadingBit * twoTo s := Nat.mul_le_mul_left _ (twoTo_le h)

/-! ### The nearest rank -/

section NearestRank

-- a quotient in units is given by a variable, so that nothing computes how many units there are in one
variable (num : Nat) {den inUnits : Nat} (hden : 0 < den) (hunits : inUnits = num * unitsInOne)

include hden hunits

/-- What the nearest rank of a quotient stands for, as a multiple of a step; below the ranks of its scale
    lies nothing but what is too small for the quotient. -/
theorem exists_nearestRank_step :
    ∃ s, units (nearestRank num den) * den =
        roundQuotient inUnits (den * twoTo s) * (den * twoTo s) ∧
      nearestRank num den % 2 = roundQuotient inUnits (den * twoTo s) % 2 ∧
      (0 < s → leadingBit * (den * twoTo s) ≤ inUnits) := by
  let s := Nat.log2 (inUnits / den) - 52
  have hrank : nearestRank num den =
      s * leadingBit + roundQuotient inUnits (den * twoTo s) := by
    rw [nearestRank, ← hunits]
  have hstep : 0 < den * twoTo s := Nat.mul_pos hden (twoTo_pos s)
  have hlow : 0 < s → leadingBit * (den * twoTo s) ≤ inUnits := by
    intro hpos
    rw [show leadingBit = twoTo 52 from rfl, ← mul_twoTo_add]
    exact le_of_le_log2 hden (by omega) (by omega)
  have hhigh : inUnits < 2 * leadingBit * (den * twoTo s) := by
    rw [show 2 * leadingBit = twoTo 53 from rfl, ← mul_twoTo_add]
    exact lt_of_log2_lt hden (by omega)
  -- the quotient has at most 53 bits, and less of them only at the smallest scale
  have hle : roundQuotient inUnits (den * twoTo s) ≤ 2 * leadingBit := by
    have hdiv := (Nat.div_lt_iff_lt_mul hstep).2 hhigh
    have := roundQuotient_le inUnits (den * twoTo s)
    omega
  have hge : s = 0 ∨ leadingBit ≤ roundQuotient inUnits (den * twoTo s) := by
    rcases Nat.eq_zero_or_pos s with hzero | hpos
    · exact Or.inl hzero
    · have hdiv := (Nat.le_div_iff_mul_le hstep).2 (hlow hpos)
      exact Or.inr (Nat.le_trans hdiv (div_le_roundQuotient _ _))
  refine ⟨s, ?_, ?_, hlow⟩
  · rw [hrank, units_step hle hge, Nat.mul_assoc, Nat.mul_comm (twoTo s)]
  · rw [hrank]
    simp only [leadingBit]
    omega

/-- **The nearest rank.**  No other rank is nearer to a quotient, and one that stands for another number is
    as near only if the nearest one is even. -/
theorem nearestRank_nearest (rank : Nat) :
    ((inUnits : Int) - (units (nearestRank num den) * den : Nat)).natAbs ≤
        ((inUnits : Int) - (units rank * den : Nat)).natAbs ∧
      (((inUnits : Int) - (units rank * den : Nat)).natAbs =
          ((inUnits : Int) - (units (nearestRank num den) * den : Nat)).natAbs →
        units rank ≠ units (nearestRank num den) →
        significand (nearestRank num den) % 2 = 0) := by
  obtain ⟨s, hnearest, heven, hlow⟩ := exists_nearestRank_step num hden hunits
  have hstep : 0 < den * twoTo s := Nat.mul_pos hden (twoTo_pos s)
  rw [significand_mod_two, heven]
  rcases Nat.lt_or_ge (scale rank) s with hsmall | hlarge
  · -- the first rank of the scale lies between the smaller rank and the quotient
    have hfirst := (roundQuotient_nearest inUnits hstep leadingBit).1
    have hquotient := hlow (by omega)
    have hbelow : units rank * den < leadingBit * (den * twoTo s) := by
      rw [Nat.mul_comm den, ← Nat.mul_assoc]
      exact Nat.mul_lt_mul_of_pos_right (units_lt_of_scale_lt hsmall) hden
    rw [hnearest]
    omega
  · obtain ⟨m, hm⟩ := exists_units_eq_mul hlarge
    have hmultiple : units rank * den = m * (den * twoTo s) := by
      rw [hm, Nat.mul_assoc, Nat.mul_comm (twoTo s)]
    obtain ⟨hnear, htie⟩ := roundQuotient_nearest inUnits hstep m
    rw [hnearest, hmultiple]
    refine ⟨hnear, fun hsame hne => htie hsame ?_⟩
    intro heq
    rw [heq, ← hnearest] at hmultiple
    exact hne (Nat.eq_of_mul_eq_mul_right hden hmultiple)

end NearestRank

/-! ### Signs -/

/-- An integer is its magnitude with its sign. -/
theorem eq_signed (n : Int) : n = signed (decide (n < 0)) n.natAbs := by
  unfold signed
  by_cases hneg : n < 0
  · simp only [hneg, decide_true, if_true]
    omega
  · simp only [hneg, decide_false, Bool.false_eq_true, if_false]
    omega

theorem signed_zero (negative : Bool) : signed negative 0 = 0 := by cases negative <;> rfl

/-- With the same sign only the same magnitude gives the same number. -/
theorem signed_inj (negative : Bool) {u v : Nat} : signed negative u = signed negative v ↔ u = v := by
  unfold signed
  split <;> omega

/-- With their signs, two numbers are as far from each other as without them. -/
theorem distance_signed (negative : Bool) (a den u : Nat) :
    distance (signed negative a) den (signed negative u) =
      (((a * unitsInOne : Nat) : Int) - (u * den : Nat)).natAbs := by
  unfold distance signed
  generalize unitsInOne = inOne
  cases negative
  · simp
  · simp only [if_true, Int.neg_mul]
    push_cast
    omega

/-- Numbers of different signs are apart by both of them. -/
theorem distance_signed_not (negative : Bool) (a den u : Nat) :
    distance (signed negative a) den (signed (!negative) u) = a * unitsInOne + u * den := by
  unfold distance signed
  generalize unitsInOne = inOne
  cases negative
  · simp only [Bool.not_false, Bool.false_eq_true, if_true, if_false, Int.neg_mul]
    omega
  · simp only [Bool.not_true, Bool.false_eq_true, if_true, if_false, Int.neg_mul]
    omega

/-- A double has the sign of a quotient, or it is farther away than zero. -/
theorem units?_cases (negative : Bool) (a : Nat) {den : Nat} (hden : 0 < den) {y : Binary64} {v : Int}
    (hy : y.units? = some v) :
    (∃ rank, v = signed negative (units rank)) ∨
      distance (signed negative a) den (signed negative (units 0)) <
        distance (signed negative a) den v := by
  have hzero : units 0 = 0 := by decide
  cases y with
  | nan => cases hy
  | infinite other => cases hy
  | finite other rank =>
    obtain rfl : signed other (units rank) = v := Option.some.inj hy
    by_cases hsame : other = negative
    · exact Or.inl ⟨rank, by rw [hsame]⟩
    · obtain rfl : other = !negative := by cases other <;> cases negative <;> simp_all
      rcases Nat.eq_zero_or_pos (units rank) with hnone | hpos
      · exact Or.inl ⟨0, by rw [hnone, hzero, signed_zero, signed_zero]⟩
      · right
        have hfar : 0 < units rank * den := Nat.mul_pos hpos hden
        rw [distance_signed_not, distance_signed, hzero]
        omega

/-! ### Division -/

section Division

variable {n : Int} {den : Nat} {x : Binary64}

/-- **Division is correctly rounded.** -/
theorem isRounded_ofIntQuotient? (hden : 0 < den) (h : ofIntQuotient? n den = some x) :
    IsRounded x n den := by
  obtain ⟨hlt, rfl⟩ : ∃ hlt : nearestRank n.natAbs den < rankLimit,
      finite (decide (n < 0)) ⟨nearestRank n.natAbs den, hlt⟩ = x := by
    unfold ofIntQuotient? ofRatio ofRank at h
    split at h
    · exact ⟨‹_›, Option.some.inj h⟩
    · cases h
  have hnear := nearestRank_nearest n.natAbs hden rfl
  have hdistance (k : Nat) := distance_signed (decide (n < 0)) n.natAbs den k
  have hcases := @units?_cases (decide (n < 0)) n.natAbs den hden
  rw [← eq_signed] at hdistance hcases
  -- a double of the other sign is not even as near as zero, which has a rank, too
  have hzero := (hnear 0).1
  rw [← hdistance, ← hdistance] at hzero
  refine ⟨⟨_, rfl⟩, ?_, ?_⟩
  · intro u hu y v hy
    obtain rfl := Option.some.inj hu
    rcases hcases hy with ⟨rank, rfl⟩ | hfar
    · rw [hdistance, hdistance]
      exact (hnear rank).1
    · exact Nat.le_trans hzero (Nat.le_of_lt hfar)
  · intro u hu y v hy hne hsame
    obtain rfl := Option.some.inj hu
    rcases hcases hy with ⟨rank, rfl⟩ | hfar
    · rw [hdistance, hdistance] at hsame
      rw [ne_eq, signed_inj] at hne
      exact (hnear rank).2 hsame hne
    · rw [hsame] at hfar
      exact absurd (Nat.lt_of_le_of_lt hzero hfar) (Nat.lt_irrefl _)

/-- A rounded number is finite. -/
theorem IsRounded.exists_units (h : IsRounded x n den) : ∃ u, x.units? = some u := by
  obtain ⟨rank, rfl⟩ := h.sign
  exact ⟨_, rfl⟩

/-- A quotient that is no smaller than a unit is rounded to a number of its sign. -/
theorem IsRounded.neg_iff (h : IsRounded x n den) (hpos : 0 < den) (hunit : den ≤ unitsInOne) {u : Int}
    (hu : x.units? = some u) : u < 0 ↔ n < 0 := by
  rcases Int.lt_or_le n 0 with hneg | hnonneg
  · refine iff_of_true ?_ hneg
    -- otherwise the first double below zero were nearer
    have hnear := h.nearest u hu (finite true ⟨1, by decide⟩) (-1) (by decide)
    unfold distance at hnear
    generalize unitsInOne = inOne at hunit hnear
    obtain ⟨a, rfl⟩ : ∃ a : Nat, n = -((a + 1 : Nat) : Int) := ⟨n.natAbs - 1, by omega⟩
    have hfar : inOne ≤ (a + 1) * inOne := Nat.le_mul_of_pos_left inOne (Nat.succ_pos a)
    rcases Int.lt_or_le u 0 with hlt | hge
    · exact hlt
    · have hproduct : 0 ≤ u * den := Int.mul_nonneg hge (by omega)
      simp only [Int.neg_mul] at hnear
      omega
  · obtain ⟨rank, rfl⟩ := h.sign
    obtain rfl : signed (decide (n < 0)) (units rank) = u := Option.some.inj hu
    refine iff_of_false ?_ (by omega)
    rw [signed, if_neg (by simpa using hnonneg)]
    omega

/-- A quotient is rounded as one that is not below zero iff it is none. -/
theorem IsRounded.max_zero_iff (h : IsRounded x n den) (hpos : 0 < den) (hunit : den ≤ unitsInOne) :
    IsRounded x (max n 0) den ↔ 0 ≤ n := by
  constructor
  · intro hclamped
    obtain ⟨u, hu⟩ := h.exists_units
    have hneg := h.neg_iff hpos hunit hu
    have hnonneg := hclamped.neg_iff hpos hunit hu
    omega
  · intro hn
    rwa [Int.max_eq_left hn]

end Division

end SpanTelemetry.Binary64
