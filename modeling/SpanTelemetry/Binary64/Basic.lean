namespace SpanTelemetry

/-!
# Binary floating point of 64 bits

A double is a sign with a finite magnitude or infinity, or not a number.  The finite
magnitudes are numbered upwards from zero; the number of a magnitude is its `rank`.  Every
magnitude is a whole multiple of `2 ^ -1074`.

* `Binary64` — the doubles.
* `Binary64.units` — the magnitude of a rank, counted in units of `2 ^ -1074`.
* `Binary64.nearestRank` — the rank nearest to a quotient, halves to the even one.
* `Binary64.ofRatio`, `Binary64.ofInt?`, `Binary64.ofIntQuotient?` — rounding to a double.
-/

/-- A power of two. -/
abbrev Binary64.twoTo (n : Nat) : Nat := Nat.pow 2 n

/-- A power of ten. -/
abbrev Binary64.tenTo (n : Nat) : Nat := Nat.pow 10 n

/-- The weight of the leading bit of a significand of 53 bits, `2 ^ 52`. -/
abbrev Binary64.leadingBit : Nat := 0x10000000000000

/-- The number of finite magnitudes. -/
abbrev Binary64.rankLimit : Nat := 2047 * leadingBit

/-- A double: there is one not-a-number, and zero has a sign. -/
inductive Binary64 where
  /-- A finite number, by its sign and the rank of its magnitude. -/
  | finite (negative : Bool) (rank : Fin Binary64.rankLimit)
  /-- Positive or negative infinity. -/
  | infinite (negative : Bool)
  /-- Not a number. -/
  | nan
  deriving DecidableEq, Repr

namespace Binary64

/-! ### Magnitudes by rank -/

/-- The significand of a rank: the rank itself up to the leading bit, then always 53 bits. -/
def significand (rank : Nat) : Nat :=
  if rank < leadingBit then rank else leadingBit + rank % leadingBit

/-- The power of two that scales the significand of a rank to units. -/
def scale (rank : Nat) : Nat := rank / leadingBit - 1

/-- The magnitude of a rank in units of `2 ^ -1074`. -/
def units (rank : Nat) : Nat := significand rank * twoTo (scale rank)

/-- The units in one. -/
def unitsInOne : Nat := twoTo 1074

/-! ### Rounding -/

/-- The integer nearest to a quotient; a half goes to the even neighbour. -/
def roundQuotient (num den : Nat) : Nat :=
  let q := num / den
  let r := num % den
  if 2 * r < den ∨ (2 * r = den ∧ q % 2 = 0) then q else q + 1

/-- The rank whose magnitude is nearest to a quotient; a half goes to the even rank. From
    `rankLimit` on the quotient is too large for a finite magnitude. -/
def nearestRank (num den : Nat) : Nat :=
  let inUnits := num * unitsInOne
  let s := Nat.log2 (inUnits / den) - 52
  s * leadingBit + roundQuotient inUnits (den * twoTo s)

/-- The double of a sign and a rank; a rank beyond the finite ones gives infinity. -/
def ofRank (negative : Bool) (rank : Nat) : Binary64 :=
  if h : rank < rankLimit then .finite negative ⟨rank, h⟩ else .infinite negative

/-- The double nearest to a signed quotient. -/
def ofRatio (negative : Bool) (num den : Nat) : Binary64 :=
  ofRank negative (nearestRank num den)

/-- The double nearest to a whole number. -/
def ofNat (n : Nat) : Binary64 := ofRatio false n 1

/-- A double, unless it is infinite. -/
def finite? : Binary64 → Option Binary64
  | infinite _ => none
  | x => some x

/-- The double nearest to the quotient of an integer and a positive number; `none` if it lies
    beyond the finite doubles. -/
def ofIntQuotient? (n : Int) (den : Nat) : Option Binary64 :=
  (ofRatio (decide (n < 0)) n.natAbs den).finite?

/-- The double nearest to an integer; `none` if it lies beyond the finite doubles. -/
def ofInt? (n : Int) : Option Binary64 := ofIntQuotient? n 1

/-! ### Tests -/

/-- Whether a double is a zero of either sign. -/
def isZero : Binary64 → Bool
  | .finite _ rank => rank.val == 0
  | _ => false

end Binary64

end SpanTelemetry
