import Mathlib.Algebra.Group.Nat.Defs
import SpanTelemetry.Proofs.Text.Numeral

namespace SpanTelemetry.Text

/-!
# Fields of a fixed width

A number that fits into a field is filled up with zeros to its width. Texts that begin with such fields are
therefore in the order of the numbers.

* `lastDigits` — so many last digits of a number as a field is wide.
* `padded_decimal_eq` — what stands in a field.
* `length_padded_decimal`, `not_mem_padded_decimal` — it has the width of the field and only digits.
* `cutFirst_padded_decimal` — so a field can be cut off at any other character.
* `padded_append_lt_iff` — the order of texts that begin with a field.
* `readField?` — the number in a field of a width, with `readField?_padded` for what was written.
-/

/-- The last digits of a number. -/
def lastDigits : (width n : Nat) → List Char
  | 0, _ => []
  | width + 1, n => lastDigits width (n / 10) ++ [(n % 10).digitChar]

theorem length_lastDigits (width n : Nat) : (lastDigits width n).length = width := by
  induction width generalizing n with
  | zero => rfl
  | succ width ih => simp [lastDigits, ih]

theorem lastDigits_zero (width : Nat) : lastDigits width 0 = List.replicate width '0' := by
  induction width with
  | zero => rfl
  | succ width ih =>
    rw [lastDigits, List.replicate_succ', Nat.zero_div, ih]
    rfl

/-- **What stands in a field** are the last digits of a number that fits into it. -/
theorem padded_decimal_eq {width n : Nat} (hwidth : 0 < width) (h : n < 10 ^ width) :
    padded width (decimal n) = lastDigits width n := by
  -- by induction on the width, along the digits before the last one
  induction width generalizing n with
  | zero => exact absurd hwidth (Nat.lt_irrefl 0)
  | succ width ih =>
    rw [lastDigits, padded, decimal, Nat.toDigits_eq_if (by decide)]
    split
    · rename_i hsmall
      rw [Nat.div_eq_of_lt hsmall, Nat.mod_eq_of_lt hsmall, lastDigits_zero]
      rfl
    · rename_i hlarge
      have hhigh : n / 10 < 10 ^ width := by
        rw [Nat.pow_succ] at h
        omega
      have hpos : 0 < width := by
        refine Nat.pos_of_ne_zero fun hzero => hlarge ?_
        simpa [hzero] using h
      rw [← ih hpos hhigh, padded, decimal, List.append_assoc, List.length_append,
        List.length_singleton, Nat.add_sub_add_right]

/-- A number that fits is written in the whole width. -/
theorem length_padded_decimal {width n : Nat} (hwidth : 0 < width) (h : n < 10 ^ width) :
    (padded width (decimal n)).length = width := by
  rw [padded_decimal_eq hwidth h, length_lastDigits]

/-- A field holds digits only. -/
theorem isDigit_of_mem_padded_decimal {width n : Nat} {c : Char} (hc : c ∈ padded width (decimal n)) :
    c.isDigit = true := by
  rcases List.mem_append.1 hc with hzero | hdigit
  · rw [List.eq_of_mem_replicate hzero]
    rfl
  · exact isDigit_of_mem_decimal hdigit

/-- Nothing but digits stands in it. -/
theorem not_mem_padded_decimal {width n : Nat} {c : Char} (hc : c.isDigit = false) :
    c ∉ padded width (decimal n) := by
  intro hmem
  rw [isDigit_of_mem_padded_decimal hmem] at hc
  cases hc

/-- A field ends where something else than a digit stands. -/
theorem cutFirst_padded_decimal {mark : Char} (hmark : mark.isDigit = false) (width n : Nat)
    (after : List Char) :
    cutFirst mark (padded width (decimal n) ++ mark :: after) =
      some (padded width (decimal n), after) :=
  cutFirst_eq_some_iff.2 ⟨rfl, not_mem_padded_decimal hmark⟩

/-! ### The order of fields -/

/-- Digits are in the order of their values. -/
theorem digitChar_lt_iff : ∀ a < 10, ∀ b < 10, (a.digitChar < b.digitChar ↔ a < b) := by decide

theorem digitChar_eq_iff : ∀ a < 10, ∀ b < 10, (a.digitChar = b.digitChar ↔ a = b) := by decide

/-- Texts that begin with last digits are in the order of the numbers, and then of what follows. -/
theorem lastDigits_append_lt_iff {width m n : Nat} (hm : m < 10 ^ width) (hn : n < 10 ^ width)
    (xs ys : List Char) :
    lastDigits width m ++ xs < lastDigits width n ++ ys ↔ m < n ∨ m = n ∧ xs < ys := by
  -- by induction on the width: the last digit goes to what follows the others
  induction width generalizing m n xs ys with
  | zero =>
    have hm : m = 0 := by simpa using hm
    have hn : n = 0 := by simpa using hn
    simp [lastDigits, hm, hn]
  | succ width ih =>
    rw [Nat.pow_succ] at hm hn
    have hlt := digitChar_lt_iff _ (Nat.mod_lt m (by decide)) _ (Nat.mod_lt n (by decide))
    have heq := digitChar_eq_iff _ (Nat.mod_lt m (by decide)) _ (Nat.mod_lt n (by decide))
    rw [lastDigits, lastDigits, List.append_assoc, List.append_assoc, List.singleton_append,
      List.singleton_append, ih (by omega) (by omega), List.cons_lt_cons_iff, hlt, heq]
    by_cases hrest : xs < ys
    · simp only [hrest, and_true]
      omega
    · simp only [hrest, and_false, or_false]
      omega

/-- **Texts that begin with a field** are in the order of the numbers in it, and then of what follows. -/
theorem padded_append_lt_iff {width m n : Nat} (hwidth : 0 < width) (hm : m < 10 ^ width)
    (hn : n < 10 ^ width) (xs ys : List Char) :
    padded width (decimal m) ++ xs < padded width (decimal n) ++ ys ↔ m < n ∨ m = n ∧ xs < ys := by
  rw [padded_decimal_eq hwidth hm, padded_decimal_eq hwidth hn, lastDigits_append_lt_iff hm hn]

/-! ### Reading fields -/

/-- The number in a field, which is of exactly so many digits. -/
def readField? (width : Nat) (text : List Char) : Option Nat :=
  if text.length = width ∧ text.all Char.isDigit then readDecimal? text else none

/-- **A field is read back.** -/
theorem readField?_padded {width n : Nat} (hwidth : 0 < width) (h : n < 10 ^ width) :
    readField? width (padded width (decimal n)) = some n := by
  have hdigits : (padded width (decimal n)).all Char.isDigit = true :=
    List.all_eq_true.2 fun _ hc => isDigit_of_mem_padded_decimal hc
  rw [readField?, if_pos ⟨length_padded_decimal hwidth h, hdigits⟩]
  exact readDigits?_padded decimalDigit?_digitChar (by decide) width n

end SpanTelemetry.Text
