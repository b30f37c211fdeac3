import SpanTelemetry.Binary64.Basic
import SpanTelemetry.Text.Numeral

namespace SpanTelemetry.Binary64

open Text

/-!
# The shortest decimal text of a double

A finite double is written with the fewest significant digits that read back as the same
double, and among those with the digits nearest to it.

* `ReadsBack` — the decimals that are nearer to a magnitude than to its neighbours.
* `shortest` — the shortest such decimal.
* `Layout` — how digits are laid out as text; `Layout.plain` is the layout of this library.
* `text` — the text of a double.
-/

/-! ### The decimals of a magnitude -/

/-- A decimal number `coefficient * 10 ^ exponent`. -/
structure Decimal where
  coefficient : Nat
  exponent : Int
  deriving DecidableEq, Repr

/-- A positive power of ten, as a numerator and a denominator. -/
def powerOfTen (exponent : Int) : Nat × Nat := (tenTo exponent.toNat, tenTo (-exponent).toNat)

/-- Whether a decimal rounds to the magnitude of `rank`: it lies between the midpoints to the
    neighbouring magnitudes, and a midpoint itself rounds to an even rank. -/
def ReadsBack (rank : Nat) (d : Decimal) : Prop :=
  let (num, den) := powerOfTen d.exponent
  let twice := 2 * d.coefficient * num * unitsInOne
  let low := (units (rank - 1) + units rank) * den
  let high := (units rank + units (rank + 1)) * den
  if rank % 2 = 0 then low ≤ twice ∧ twice ≤ high else low < twice ∧ twice < high

instance (rank : Nat) (d : Decimal) : Decidable (ReadsBack rank d) := by
  unfold ReadsBack
  infer_instance

/-- The exponent of the first digit of a positive magnitude: the largest power of ten that is
    not above it. -/
def leadingExponent (rank : Nat) : Int :=
  let whole := units rank / unitsInOne
  if 0 < whole then ((decimal whole).length : Int) - 1
  else
    match (List.range 325).find? fun j => unitsInOne ≤ units rank * tenTo j with
    | some j => -(j : Int)
    | none => -324

/-- The decimal on the grid of the given exponent that is nearest to the magnitude of `rank`
    among those that read back; of two equally near ones the even one. -/
def onGrid? (rank : Nat) (exponent : Int) : Option Decimal :=
  let (num, den) := powerOfTen exponent
  let below : Nat := units rank * den / (num * unitsInOne)
  let nearest := roundQuotient (units rank * den) (num * unitsInOne)
  let other := if nearest = below then below + 1 else below
  if ReadsBack rank ⟨nearest, exponent⟩ then some ⟨nearest, exponent⟩
  else if ReadsBack rank ⟨other, exponent⟩ then some ⟨other, exponent⟩
  else none

/-- The shortest decimal that reads back as the magnitude of `rank`, found on the coarsest grid
    that has one; seventeen digits always suffice. -/
def shortest (rank : Nat) : Decimal :=
  let first := leadingExponent rank
  match (List.range 17).findSome? fun (n : Nat) => onGrid? rank (first - n) with
  | some d => d
  | none => ⟨roundQuotient (units rank) unitsInOne, 0⟩

/-- Move the trailing zeros of a coefficient into the exponent. -/
def Decimal.significant (d : Decimal) : List Char × Int :=
  let digits := decimal d.coefficient
  let kept := (digits.reverse.dropWhile (· = '0')).reverse
  (kept, d.exponent + (digits.length - kept.length : Nat))

/-! ### Layout -/

/-- How the digits of a double are laid out. -/
structure Layout where
  /-- The least exponent of the first digit that is written positionally. -/
  leastPositional : Int
  /-- The exponent of the first digit from which on no number is written positionally. -/
  firstExponential : Int
  /-- The least number of digits of a written exponent. -/
  exponentDigits : Nat
  /-- The names of infinity and of not-a-number. -/
  infinity : String
  notANumber : String

/-- Numbers from `0.0001` up to `10 ^ 16` are written positionally, with at least one digit after
    the point; others with an exponent of at least two digits that always has a sign. -/
def Layout.plain : Layout where
  leastPositional := -4
  firstExponential := 16
  exponentDigits := 2
  infinity := "inf"
  notANumber := "nan"

/-- Lay out the digits of a positive number whose last digit has the given exponent. -/
def Layout.digits (l : Layout) (digits : List Char) (exponent : Int) : List Char :=
  let lead := exponent + digits.length - 1
  if l.leastPositional ≤ lead ∧ lead < l.firstExponential then
    if 0 ≤ exponent then digits ++ List.replicate exponent.toNat '0' ++ ".0".toList
    else if 0 ≤ lead then
      digits.take (lead.toNat + 1) ++ '.' :: digits.drop (lead.toNat + 1)
    else "0.".toList ++ List.replicate ((-lead).toNat - 1) '0' ++ digits
  else
    let mantissa :=
      match digits with
      | d :: e :: rest => d :: '.' :: e :: rest
      | ds => ds
    let power := padded l.exponentDigits (decimal lead.natAbs)
    mantissa ++ 'e' :: (if lead < 0 then '-' else '+') :: power

/-- The text of a double in a layout. -/
def Layout.text (l : Layout) : Binary64 → String
  | .nan => l.notANumber
  | .infinite negative => (if negative then "-" else "") ++ l.infinity
  | .finite negative rank =>
      let body :=
        if rank.val = 0 then "0.0".toList
        else
          let (digits, exponent) := (shortest rank.val).significant
          l.digits digits exponent
      (if negative then "-" else "") ++ String.ofList body

/-- The text of a double. -/
def text : Binary64 → String := Layout.plain.text

end SpanTelemetry.Binary64
