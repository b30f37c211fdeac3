import Mathlib.Algebra.Group.Nat.Defs
import SpanTelemetry.Text.Basic
import SpanTelemetry.Text.Digit

namespace SpanTelemetry.Text

/-!
# Numbers are read back from their text

* `readDigits?_padded` — the digits of a number are read back, whatever the base, also behind zeros.
* `readDecimal?_decimal` — so is its decimal text.
* `exists_readDecimal?` — every other text of digits is read, too.
* `readSignedHex?_signedHex` — so is the hexadecimal text of an integer, filled up to any width.
* `signedHex_injective` — different integers therefore never have one text.

`ofInt_eq_ok_iff` says which integers have a decimal text at all.
-/

/-! ### Digits -/

section Digits

variable {digit? : Char → Option Nat} {base : Nat}

/-- The digits of a text are read from the left, whatever number stands before them. -/
theorem readDigitsAfter_append (high : Nat) (xs ys : List Char) :
    readDigitsAfter digit? base high (xs ++ ys) =
      (readDigitsAfter digit? base high xs).bind fun n => readDigitsAfter digit? base n ys := by
  induction xs generalizing high with
  | nil => rfl
  | cons c rest ih =>
    simp only [List.cons_append, readDigitsAfter]
    cases digit? c with
    | none => rfl
    | some d => exact ih _

/-- What can be read has nothing but digits. -/
theorem isSome_of_readDigitsAfter {high n : Nat} {text : List Char}
    (h : readDigitsAfter digit? base high text = some n) : ∀ c ∈ text, (digit? c).isSome = true := by
  induction text generalizing high with
  | nil => simp
  | cons c rest ih =>
    obtain ⟨d, hd, hrest⟩ := Option.bind_eq_some_iff.1 h
    intro c' hc'
    rcases List.mem_cons.1 hc' with rfl | hc'
    · simp [hd]
    · exact ih hrest c' hc'

/-- What has nothing but digits can be read, whatever number stands before it. -/
theorem exists_readDigitsAfter {text : List Char} (h : ∀ c ∈ text, (digit? c).isSome = true)
    (high : Nat) : ∃ n, readDigitsAfter digit? base high text = some n := by
  induction text generalizing high with
  | nil => exact ⟨high, rfl⟩
  | cons c rest ih =>
    obtain ⟨hc, hrest⟩ := List.forall_mem_cons.1 h
    obtain ⟨d, hd⟩ := Option.isSome_iff_exists.1 hc
    obtain ⟨n, hn⟩ := ih hrest (high * base + d)
    exact ⟨n, Option.bind_eq_some_iff.2 ⟨d, hd, hn⟩⟩

/-- Zeros in front change nothing. -/
theorem readDigitsAfter_zeros (hzero : digit? '0' = some 0) (count : Nat) (text : List Char) :
    readDigitsAfter digit? base 0 (List.replicate count '0' ++ text) =
      readDigitsAfter digit? base 0 text := by
  induction count with
  | zero => rfl
  | succ count ih => simpa [List.replicate_succ, readDigitsAfter, hzero] using ih

variable (hdigit : ∀ d < base, digit? d.digitChar = some d)

include hdigit

/-- The digits of a number give the number again. -/
theorem readDigitsAfter_toDigits (hbase : 1 < base) (n : Nat) :
    readDigitsAfter digit? base 0 (base.toDigits n) = some n := by
  -- by induction on the number, whose last digit stands behind those of a smaller number
  induction n using Nat.strongRecOn with
  | ind n ih =>
    rw [Nat.toDigits_eq_if hbase]
    split
    · rename_i hsmall
      simp [readDigitsAfter, hdigit n hsmall]
    · rename_i hlarge
      have hlast : n % base < base := Nat.mod_lt n (by omega)
      rw [readDigitsAfter_append, ih (n / base) (Nat.div_lt_self (by omega) hbase)]
      simp [readDigitsAfter, hdigit _ hlast, Nat.div_add_mod']

/-- The same with zeros in front of the digits. -/
theorem readDigits?_padded (hbase : 1 < base) (width n : Nat) :
    readDigits? digit? base (padded width (base.toDigits n)) = some n := by
  have hzero : digit? '0' = some 0 := hdigit 0 (by omega)
  have hnonempty : (padded width (base.toDigits n)).isEmpty = false := by
    simp [padded, Nat.toDigits_ne_nil]
  rw [readDigits?, hnonempty, padded]
  simp only [Bool.false_eq_true, if_false]
  rw [readDigitsAfter_zeros hzero, readDigitsAfter_toDigits hdigit hbase]

end Digits

/-! ### Decimal text -/

/-- The code points of the digits. -/
theorem toNat_of_isDigit {c : Char} (h : c.isDigit = true) : 48 ≤ c.toNat ∧ c.toNat ≤ 57 := by
  simpa [Char.isDigit, UInt32.le_iff_toNat_le] using h

theorem decimalDigit?_digitChar : ∀ d < 10, decimalDigit? d.digitChar = some d := by decide

/-- **Decimal text** is read back. -/
theorem readDecimal?_decimal (n : Nat) : readDecimal? (decimal n) = some n := by
  have hread := readDigits?_padded decimalDigit?_digitChar (by decide) 0 n
  rwa [padded, Nat.zero_sub, List.replicate_zero, List.nil_append] at hread

/-- Every text of digits is the text of a number, unless it is empty. -/
theorem exists_readDecimal? {text : List Char} (hne : text ≠ [])
    (h : ∀ c ∈ text, (decimalDigit? c).isSome = true) : ∃ n, readDecimal? text = some n := by
  have hread : ∃ n, readDigitsAfter decimalDigit? 10 0 text = some n := exists_readDigitsAfter h 0
  rwa [readDecimal?, readDigits?, if_neg (by simpa using hne)]

/-- Different numbers have different texts. -/
theorem decimal_injective : Function.Injective decimal := by
  intro m n h
  have hread := readDecimal?_decimal m
  rw [h, readDecimal?_decimal] at hread
  exact (Option.some.inj hread).symm

theorem decimal_ne_nil (n : Nat) : decimal n ≠ [] := Nat.toDigits_ne_nil

/-- The text of a number that is not zero begins with another digit than zero. -/
theorem head?_decimal_ne_zero {n : Nat} (h : 0 < n) : (decimal n).head? ≠ some '0' := by
  -- by induction on the number, whose first digit is that of the number before its last digit
  induction n using Nat.strongRecOn with
  | ind n ih =>
    rw [decimal, Nat.toDigits_eq_if (by decide)]
    split
    · rename_i hsmall
      have hdigit : ∀ d < 10, 0 < d → d.digitChar ≠ '0' := by decide
      simpa using hdigit n hsmall h
    · rename_i hlarge
      have hhigh : (decimal (n / 10)).head? ≠ some '0' := ih (n / 10) (by omega) (by omega)
      obtain ⟨first, rest, hdecimal⟩ := List.exists_cons_of_ne_nil (decimal_ne_nil (n / 10))
      rw [decimal] at hdecimal
      rw [hdecimal, List.cons_append]
      rwa [decimal, hdecimal] at hhigh

/-- It has nothing but digits. -/
theorem isDigit_of_mem_decimal {n : Nat} {c : Char} (hc : c ∈ decimal n) : c.isDigit = true :=
  Nat.isDigit_of_mem_toDigits (by decide) (by decide) hc

/-- The text of an integer that is not negative is decimal text. -/
theorem integer_natCast (n : Nat) : integer n = String.ofList (decimal n) := by
  have hsign : ¬ (n : Int) < 0 := by omega
  rw [integer, signedDecimal, if_neg hsign, Int.natAbs_natCast]

/-- A decimal numeral is made of digits. -/
theorem isSome_decimalDigit?_of_mem_decimal {n : Nat} {c : Char} (hc : c ∈ decimal n) :
    (decimalDigit? c).isSome = true :=
  isSome_of_readDigitsAfter (readDigitsAfter_toDigits decimalDigit?_digitChar (by decide) n) c hc

/-- An integer has a text iff it has at most `maxDigits` digits. -/
theorem ofInt_eq_ok_iff {n : Int} {text : String} :
    ofInt n = .ok text ↔ n.natAbs < 10 ^ maxDigits ∧ integer n = text := by
  have hdigits : (decimal n.natAbs).length ≤ maxDigits ↔ n.natAbs < 10 ^ maxDigits :=
    Nat.length_toDigits_le_iff (by decide) (by decide)
  unfold ofInt
  split <;> rename_i h <;> rw [hdigits] at h <;> simp [h]

/-- Writing an integer fails iff it has more digits than that. -/
theorem ofInt_eq_error_iff {n : Int} {e : TextError} :
    ofInt n = .error e ↔ 10 ^ maxDigits ≤ n.natAbs := by
  cases e
  cases h : ofInt n with
  | ok text => simpa using (ofInt_eq_ok_iff.1 h).1
  | error e =>
    cases e
    refine iff_of_true rfl (Nat.not_lt.1 fun hlt => ?_)
    rw [ofInt_eq_ok_iff.2 ⟨hlt, rfl⟩] at h
    cases h

/-! ### Hexadecimal text -/

theorem hexDigit?_digitChar : ∀ d < 16, hexDigit? d.digitChar = some d := by decide

/-- A hexadecimal numeral is read back, whatever zeros stand in front of it. -/
theorem readHex?_padded (width n : Nat) : readHex? (padded width (Nat.toDigits 16 n)) = some n :=
  readDigits?_padded hexDigit?_digitChar (by decide) width n

/-- The hexadecimal text of a number has nothing but hexadecimal digits. -/
theorem isSome_hexDigit?_of_mem_padded {width n : Nat} {c : Char}
    (hc : c ∈ padded width (Nat.toDigits 16 n)) : (hexDigit? c).isSome = true := by
  have hread := readHex?_padded width n
  rw [readHex?, readDigits?] at hread
  split at hread
  · cases hread
  · exact isSome_of_readDigitsAfter hread c hc

/-- A text that is read as a number without a sign begins with none. -/
theorem readSignedHex?_of_readHex? {text : List Char} {n : Nat} (h : readHex? text = some n) :
    readSignedHex? text = some (n : Int) := by
  unfold readSignedHex?
  split
  · -- a minus sign is no digit
    rename_i digits
    simp [readHex?, readDigits?, readDigitsAfter, show hexDigit? '-' = none by decide] at h
  · simp [h]

/-- **The hexadecimal text of an integer** is read back, filled up to any width. -/
theorem readSignedHex?_signedHex (width : Nat) (n : Int) :
    readSignedHex? (signedHex width n) = some n := by
  unfold signedHex
  split
  · rename_i hnegative
    have hread := readHex?_padded (width - 1) n.natAbs
    have habs : -(n.natAbs : Int) = n := by omega
    have hsigned : readSignedHex? ('-' :: padded (width - 1) (Nat.toDigits 16 n.natAbs)) =
        some (-(n.natAbs : Int)) := by
      rw [readSignedHex?, hread]
      rfl
    rw [hsigned, habs]
  · rename_i hnonnegative
    have habs : (n.natAbs : Int) = n := by omega
    rw [readSignedHex?_of_readHex? (readHex?_padded width n.natAbs), habs]

/-- Different integers have different texts, also where they are wider than the text has to be. -/
theorem signedHex_injective (width : Nat) : Function.Injective (signedHex width) := by
  intro a b h
  have hread := readSignedHex?_signedHex width a
  rw [h, readSignedHex?_signedHex] at hread
  exact (Option.some.inj hread).symm

end SpanTelemetry.Text
