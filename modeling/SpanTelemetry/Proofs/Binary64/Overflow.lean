import SpanTelemetry.Binary64.Basic

namespace SpanTelemetry.Binary64

/-!
# Where doubles end

The largest finite magnitude is `2 ^ 53 - 1` steps of `2 ^ 971`.  A quotient is rounded to it as long
as it lies less than half a step above.

* `overflowBound` — the first quotient that is too large.
* `le_roundQuotient_iff` — which quotients are rounded at least to an even integer.
* `rankLimit_le_nearestRank_iff` — which quotients have no finite rank.
* `ofIntQuotient?_eq_none_iff`, `ofInt?_eq_none_iff` — which integers, divided by a positive number or
  not, have no double.
-/

/-- Half a step above the largest finite magnitude, `2 ^ 1024 - 2 ^ 970`. -/
@[irreducible] def overflowBound : Nat := (4 * leadingBit - 1) * twoTo 970

/-- The exponent is kept as a variable, so that nothing computes the power. -/
private theorem overflowBound_eq :
    ∃ half, 970 = half ∧ overflowBound = (4 * leadingBit - 1) * twoTo half := by
  refine ⟨_, rfl, ?_⟩
  unfold overflowBound
  rfl

/-! ### Powers of two -/

theorem twoTo_pos (n : Nat) : 0 < twoTo n := Nat.pow_pos (by decide)

theorem twoTo_add (m n : Nat) : twoTo (m + n) = twoTo m * twoTo n := Nat.pow_add 2 m n

theorem twoTo_le {m n : Nat} (h : m ≤ n) : twoTo m ≤ twoTo n := Nat.pow_le_pow_right (by decide) h

theorem overflowBound_pos : 0 < overflowBound := by
  obtain ⟨half, -, hbound⟩ := overflowBound_eq
  rw [hbound]
  exact Nat.mul_pos (by decide) (twoTo_pos half)

/-! ### Rounding a quotient -/

/-- A quotient is rounded at least to an even integer iff it lies at most a half below it. -/
theorem le_roundQuotient_iff {num den n : Nat} (hden : 0 < den) (heven : n % 2 = 0) :
    n ≤ roundQuotient num den ↔ 2 * (n * den) ≤ 2 * num + den := by
  have hdiv : den * (num / den) + num % den = num := Nat.div_add_mod num den
  have hmod : num % den < den := Nat.mod_lt num hden
  have hcomm : num / den * den = den * (num / den) := Nat.mul_comm ..
  unfold roundQuotient
  generalize num / den = q at *
  generalize num % den = r at *
  have hnext : (q + 1) * den = q * den + den := Nat.succ_mul ..
  -- an integer that the quotient is not rounded to is at least one more
  have habove (hlt : q + 2 ≤ n) : q * den + 2 * den ≤ n * den := by
    rw [← Nat.add_mul]
    exact Nat.mul_le_mul_right den hlt
  have hbelow (k : Nat) (hle : n ≤ k) : n * den ≤ k * den := Nat.mul_le_mul_right den hle
  simp only
  split
  · rename_i hdown
    refine ⟨fun hle => by have := hbelow q hle; omega, fun hle => ?_⟩
    rcases Nat.lt_trichotomy n (q + 1) with hlt | rfl | hgt
    · omega
    · -- at most a half is left, so that `q` is even and the integer above it is not
      omega
    · have := habove hgt
      omega
  · refine ⟨fun hle => by have := hbelow (q + 1) hle; omega, fun hle => ?_⟩
    rcases Nat.lt_or_ge (q + 1) n with hgt | hle
    · have := habove hgt
      omega
    · exact hle

/-! ### Ranks -/

section Ranks

variable {inUnits den : Nat}

/-- The leading bit of a quotient bounds it from above. -/
theorem lt_of_log2_lt (hden : 0 < den) {n : Nat} (h : Nat.log2 (inUnits / den) < n) :
    inUnits < den * twoTo n := by
  have hlt : inUnits / den < twoTo n := Nat.lt_of_lt_of_le Nat.lt_log2_self (twoTo_le h)
  rwa [Nat.div_lt_iff_lt_mul hden, Nat.mul_comm] at hlt

/-- The leading bit of a quotient bounds it from below. -/
theorem le_of_le_log2 (hden : 0 < den) {n : Nat} (hpos : 0 < n)
    (h : n ≤ Nat.log2 (inUnits / den)) : den * twoTo n ≤ inUnits := by
  have hne : inUnits / den ≠ 0 := by
    intro hzero
    rw [hzero, Nat.log2_zero] at h
    omega
  have hle : twoTo n ≤ inUnits / den := Nat.le_trans (twoTo_le h) (Nat.log2_self_le hne)
  rwa [Nat.le_div_iff_mul_le hden, Nat.mul_comm] at hle

/-- A power of two in front of a scaled denominator. -/
theorem mul_twoTo_add (den s k : Nat) :
    den * twoTo (s + k) = twoTo k * (den * twoTo s) := by
  rw [twoTo_add, Nat.mul_comm (twoTo s), Nat.mul_left_comm]

/-- A number of units has no finite rank iff it lies at most half a step below the first power of two
    that is too large, which is `2 ^ 53` steps of the largest scale. -/
private theorem rankLimit_le_rank_iff (hden : 0 < den) {s largest : Nat} (hlargest : largest = 2045)
    (hs : s = Nat.log2 (inUnits / den) - 52) :
    rankLimit ≤ s * leadingBit + roundQuotient inUnits (den * twoTo s) ↔
      2 * (0x20000000000000 * (den * twoTo largest)) ≤ 2 * inUnits + den * twoTo largest := by
  have hstep (k : Nat) : 0 < den * twoTo k := Nat.mul_pos hden (twoTo_pos k)
  have hgrow {j k : Nat} (h : j < k) : 2 * (den * twoTo j) ≤ den * twoTo k := by
    rw [show 2 * (den * twoTo j) = den * twoTo (j + 1) from (mul_twoTo_add den j 1).symm]
    exact Nat.mul_le_mul_left den (twoTo_le h)
  simp only [rankLimit, leadingBit]
  rcases Nat.lt_trichotomy s largest with hsmall | rfl | hlarge
  · -- even rounded up, the significand reaches the next power of two only
    have hunits : inUnits < 0x20000000000000 * (den * twoTo s) := by
      rw [show 0x20000000000000 = twoTo 53 from rfl, ← mul_twoTo_add]
      exact lt_of_log2_lt hden (by omega)
    have hround : ¬ 0x20000000000002 ≤ roundQuotient inUnits (den * twoTo s) := by
      rw [le_roundQuotient_iff (hstep s) (by decide)]
      have := hstep s
      omega
    have := hgrow hsmall
    have := hstep s
    omega
  · -- at the largest scale it is left only if it is rounded up to the next power of two
    rw [← le_roundQuotient_iff (hstep s) (by decide)]
    omega
  · have hunits : 0x10000000000000 * (den * twoTo s) ≤ inUnits := by
      rw [show 0x10000000000000 = twoTo 52 from rfl, ← mul_twoTo_add]
      exact le_of_le_log2 hden (by omega) (by omega)
    have hround : 0x10000000000000 ≤ roundQuotient inUnits (den * twoTo s) := by
      rw [le_roundQuotient_iff (hstep s) (by decide)]
      omega
    have := hgrow hlarge
    omega

end Ranks

/-- A rank is finite unless it lies beyond the finite magnitudes. -/
theorem finite?_ofRank_eq_none_iff {negative : Bool} {rank : Nat} :
    (ofRank negative rank).finite? = none ↔ rankLimit ≤ rank := by
  unfold ofRank
  split
  · rename_i hlt
    simp only [finite?, reduceCtorEq, false_iff, Nat.not_le]
    exact hlt
  · rename_i hge
    simpa only [finite?, true_iff] using Nat.le_of_not_lt hge

/-- **Overflow.**  A quotient has no finite rank iff it is `overflowBound` or more. -/
theorem rankLimit_le_nearestRank_iff {num den : Nat} (hden : 0 < den) :
    rankLimit ≤ nearestRank num den ↔ overflowBound * den ≤ num := by
  obtain ⟨half, hhalf, hbound⟩ := overflowBound_eq
  -- as that of the bound, the exponent of a unit is kept as a variable
  obtain ⟨one, hone⟩ : ∃ k, 1074 = k := ⟨_, rfl⟩
  have hunits : unitsInOne = twoTo one := by
    unfold unitsInOne
    rw [hone]
  have hrank : rankLimit ≤ nearestRank num den ↔
      2 * (0x20000000000000 * (den * twoTo (1 + half + one))) ≤
        2 * (num * twoTo one) + den * twoTo (1 + half + one) := by
    rw [← rankLimit_le_rank_iff hden (by omega) rfl, nearestRank, hunits]
  have hlast : den * twoTo (1 + half + one) = 2 * (twoTo half * den) * twoTo one := by
    rw [twoTo_add, twoTo_add, Nat.mul_comm den, show twoTo 1 = 2 from rfl, Nat.mul_right_comm,
      Nat.mul_assoc 2]
  rw [hrank, hlast, hbound, Nat.mul_assoc (_ - 1)]
  have hpos := twoTo_pos one
  generalize twoTo half * den = step
  generalize twoTo one = inOne at *
  -- there are `inOne` units in one, and half a step below the bound is another step
  have hunitsLeft : 2 * (0x20000000000000 * (2 * step * inOne)) =
      2 * (0x20000000000000 * (2 * step)) * inOne := by
    rw [← Nat.mul_assoc 0x20000000000000, ← Nat.mul_assoc 2]
  rw [hunitsLeft, ← Nat.mul_assoc 2 num, ← Nat.add_mul, Nat.mul_le_mul_right_iff hpos]
  simp only [leadingBit]
  omega

/-- The integers whose quotient by a positive number has no double. -/
theorem ofIntQuotient?_eq_none_iff {n : Int} {den : Nat} (hden : 0 < den) :
    ofIntQuotient? n den = none ↔ overflowBound * den ≤ n.natAbs := by
  rw [← rankLimit_le_nearestRank_iff hden, ofIntQuotient?, ofRatio]
  generalize nearestRank n.natAbs den = rank
  exact finite?_ofRank_eq_none_iff

/-- The integers that have no double. -/
theorem ofInt?_eq_none_iff {n : Int} : ofInt? n = none ↔ overflowBound ≤ n.natAbs := by
  rw [ofInt?, ofIntQuotient?_eq_none_iff Nat.one_pos, Nat.mul_one]

end SpanTelemetry.Binary64
