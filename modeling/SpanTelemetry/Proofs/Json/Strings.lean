import Mathlib.Data.List.Basic
import SpanTelemetry.Json
import SpanTelemetry.Proofs.Text.Numeral

namespace SpanTelemetry.Json

open Text

/-!
# Strings are read back from their JSON text

A JSON string is read in two steps: what stands between the quotes is a row of code units, two of which may
stand for one character.

* `readUnits?` — the code units up to the closing quote.
* `joinUnits?` — the characters that code units stand for.
* `readChars?_escaped` — an escaped string is read back, whatever follows it.
-/

/-! ### Code units -/

/-- The first of the two code units of a character beyond the first plane. -/
def IsHighSurrogate (unit : Nat) : Prop := 0xD800 ≤ unit ∧ unit < 0xDC00

/-- The second of the two. -/
def IsLowSurrogate (unit : Nat) : Prop := 0xDC00 ≤ unit ∧ unit < 0xE000

instance (unit : Nat) : Decidable (IsHighSurrogate unit) := inferInstanceAs (Decidable (_ ∧ _))

instance (unit : Nat) : Decidable (IsLowSurrogate unit) := inferInstanceAs (Decidable (_ ∧ _))

/-- The character that an escape of one letter stands for. -/
def shortEscape? (c : Char) : Option Char :=
  [('"', '"'), ('\\', '\\'), ('/', '/'), ('b', Char.ofNat 8), ('f', Char.ofNat 12), ('n', '\n'),
    ('r', '\r'), ('t', '\t')].lookup c

/-- The code units up to the closing quote of a string, and what follows it. -/
def readUnits? : List Char → Option (List Nat × List Char)
  | [] => none
  | c :: rest =>
      if c = '"' then some ([], rest)
      else if c = '\\' then
        match rest with
        | 'u' :: a :: b :: c :: d :: rest =>
            (readHex? [a, b, c, d]).bind fun unit =>
              (readUnits? rest).map fun (units, rest) => (unit :: units, rest)
        | e :: rest =>
            (shortEscape? e).bind fun c =>
              (readUnits? rest).map fun (units, rest) => (c.toNat :: units, rest)
        | [] => none
      else if c.toNat < 32 then none
      else (readUnits? rest).map fun (units, rest) => (c.toNat :: units, rest)

/-- The characters that code units stand for; none if a surrogate stands alone. -/
def joinUnits? : List Nat → Option (List Char)
  | [] => some []
  | unit :: rest =>
      if IsHighSurrogate unit then
        match rest with
        | low :: rest =>
            if IsLowSurrogate low then
              let above := (unit - 0xD800) * 1024 + (low - 0xDC00)
              (joinUnits? rest).map fun cs => Char.ofNat (0x10000 + above) :: cs
            else none
        | [] => none
      else if IsLowSurrogate unit then none
      else (joinUnits? rest).map fun cs => Char.ofNat unit :: cs

/-- The characters up to the closing quote of a string, and what follows it. -/
def readChars? (text : List Char) : Option (List Char × List Char) :=
  (readUnits? text).bind fun (units, rest) => (joinUnits? units).map fun cs => (cs, rest)

/-! ### The code units of a character -/

/-- The code units that a character is written with. -/
def unitsOf (c : Char) : List Nat :=
  if c.toNat < 0x10000 then [c.toNat]
  else [0xD800 + (c.toNat - 0x10000) / 1024, 0xDC00 + (c.toNat - 0x10000) % 1024]

/-- A character is no surrogate. -/
theorem toNat_isScalar (c : Char) : c.toNat < 0xD800 ∨ 0xE000 ≤ c.toNat ∧ c.toNat < 0x110000 := by
  have h := c.valid
  simp only [UInt32.isValidChar, Nat.isValidChar] at h
  have hnat : c.val.toNat = c.toNat := rfl
  omega

/-- A code unit that is no surrogate stands for a character. -/
theorem joinUnits?_cons {unit : Nat} (hhigh : ¬ IsHighSurrogate unit) (hlow : ¬ IsLowSurrogate unit)
    (units : List Nat) :
    joinUnits? (unit :: units) = (joinUnits? units).map fun cs => Char.ofNat unit :: cs := by
  cases units <;> simp [joinUnits?, hhigh, hlow]

/-- The code units of a character stand for it. -/
theorem joinUnits?_append (c : Char) (units : List Nat) :
    joinUnits? (unitsOf c ++ units) = (joinUnits? units).map fun cs => c :: cs := by
  have hscalar := toNat_isScalar c
  unfold unitsOf
  split
  · have hhigh : ¬ IsHighSurrogate c.toNat := by
      unfold IsHighSurrogate
      omega
    have hlow : ¬ IsLowSurrogate c.toNat := by
      unfold IsLowSurrogate
      omega
    rw [List.singleton_append, joinUnits?_cons hhigh hlow, Char.ofNat_toNat]
  · rename_i hlarge
    generalize hhighUnit : 0xD800 + (c.toNat - 0x10000) / 1024 = high
    generalize hlowUnit : 0xDC00 + (c.toNat - 0x10000) % 1024 = low
    have hhigh : IsHighSurrogate high := by
      unfold IsHighSurrogate
      omega
    have hlow : IsLowSurrogate low := by
      unfold IsLowSurrogate
      omega
    have hcode : 0x10000 + ((high - 0xD800) * 1024 + (low - 0xDC00)) = c.toNat := by omega
    simp [joinUnits?, hhigh, hlow, hcode, Char.ofNat_toNat]

/-! ### Reading escapes -/

/-- A character that is not escaped stands for itself. -/
theorem readUnits?_cons {c : Char} (hquote : c ≠ '"') (hbackslash : c ≠ '\\') (hcontrol : 32 ≤ c.toNat)
    (rest : List Char) :
    readUnits? (c :: rest) = (readUnits? rest).map fun (units, rest) => (c.toNat :: units, rest) := by
  rw [readUnits?.eq_def]
  simp only [if_neg hquote, if_neg hbackslash, if_neg (Nat.not_lt.2 hcontrol)]

/-- A short escape stands for one unit. -/
theorem readUnits?_shortEscape {e c : Char} (hshort : shortEscape? e = some c) (rest : List Char) :
    readUnits? ('\\' :: e :: rest) =
      (readUnits? rest).map fun (units, rest) => (c.toNat :: units, rest) := by
  -- no short escape is taken for one of four digits
  have hlong : e ≠ 'u' := by
    rintro rfl
    have hnone : shortEscape? 'u' = none := by decide
    rw [hnone] at hshort
    cases hshort
  rw [readUnits?.eq_3 _ _ _ fun _ _ _ _ _ he _ => hlong he]
  simp [hshort]

/-- An escape of four digits. -/
theorem exists_unicodeEscape {code : Nat} (h : code < 0x10000) :
    ∃ a b c d, unicodeEscape code = ['\\', 'u', a, b, c, d] ∧ readHex? [a, b, c, d] = some code := by
  have hlength : (Nat.toDigits 16 code).length ≤ 4 :=
    (Nat.length_toDigits_le_iff (by decide) (by decide)).2 h
  have hpadded : (padded 4 (Nat.toDigits 16 code)).length = 4 := by
    rw [padded, List.length_append, List.length_replicate]
    omega
  obtain ⟨a, b, c, d, hdigits⟩ := List.length_eq_four.1 hpadded
  have hread := readHex?_padded 4 code
  rw [hdigits] at hread
  exact ⟨a, b, c, d, by rw [unicodeEscape, hdigits], hread⟩

/-- So does an escape of four hexadecimal digits. -/
theorem readUnits?_unicodeEscape {code : Nat} (h : code < 0x10000) (rest : List Char) :
    readUnits? (unicodeEscape code ++ rest) =
      (readUnits? rest).map fun (units, rest) => (code :: units, rest) := by
  obtain ⟨a, b, c, d, hescape, hread⟩ := exists_unicodeEscape h
  rw [hescape]
  simp [readUnits?, hread]

/-- How a character stands in a string: behind a backslash as one letter, as it is, as one code unit or as
    two. -/
theorem escapeChar_cases (c : Char) :
    (∃ e, shortEscape? e = some c ∧ c.toNat < 0x10000 ∧ escapeChar c = ['\\', e]) ∨
      (c ≠ '"' ∧ c ≠ '\\' ∧ 32 ≤ c.toNat ∧ c.toNat < 127 ∧ escapeChar c = [c]) ∨
      (c.toNat < 0x10000 ∧ escapeChar c = unicodeEscape c.toNat) ∨
      (0x10000 ≤ c.toNat ∧ escapeChar c = unicodeEscape (0xD800 + (c.toNat - 0x10000) / 1024) ++
        unicodeEscape (0xDC00 + (c.toNat - 0x10000) % 1024)) := by
  unfold escapeChar
  split
  · rename_i hc
    exact Or.inl ⟨'"', by rw [hc]; decide⟩
  split
  · rename_i hc
    exact Or.inl ⟨'\\', by rw [hc]; decide⟩
  split
  · rename_i hc
    exact Or.inl ⟨'n', by rw [hc]; decide⟩
  split
  · rename_i hc
    exact Or.inl ⟨'r', by rw [hc]; decide⟩
  split
  · rename_i hc
    exact Or.inl ⟨'t', by rw [hc]; decide⟩
  split
  · rename_i hc
    obtain rfl : Char.ofNat 8 = c := by rw [← hc, Char.ofNat_toNat]
    exact Or.inl ⟨'b', by decide⟩
  split
  · rename_i hc
    obtain rfl : Char.ofNat 12 = c := by rw [← hc, Char.ofNat_toNat]
    exact Or.inl ⟨'f', by decide⟩
  split
  · rename_i hquote hbackslash _ _ _ _ _ hplain
    exact Or.inr (Or.inl ⟨hquote, hbackslash, hplain.1, hplain.2, rfl⟩)
  split
  · rename_i hsmall
    exact Or.inr (Or.inr (Or.inl ⟨hsmall, rfl⟩))
  · rename_i hlarge
    exact Or.inr (Or.inr (Or.inr ⟨Nat.not_lt.1 hlarge, rfl⟩))

/-- An escaped character is read as its code units. -/
theorem readUnits?_escapeChar (c : Char) (rest : List Char) :
    readUnits? (escapeChar c ++ rest) =
      (readUnits? rest).map fun (units, rest) => (unitsOf c ++ units, rest) := by
  have hscalar := toNat_isScalar c
  rcases escapeChar_cases c with ⟨e, hshort, hsmall, hc⟩ | ⟨hquote, hbackslash, hlow, hhigh, hc⟩ |
    ⟨hsmall, hc⟩ | ⟨hlarge, hc⟩
  · rw [hc, unitsOf, if_pos hsmall]
    exact readUnits?_shortEscape hshort rest
  · rw [hc, unitsOf, if_pos (by omega)]
    exact readUnits?_cons hquote hbackslash hlow rest
  · rw [hc, unitsOf, if_pos hsmall]
    exact readUnits?_unicodeEscape hsmall rest
  · rw [hc, unitsOf, if_neg (by omega), List.append_assoc, readUnits?_unicodeEscape (by omega),
      readUnits?_unicodeEscape (by omega)]
    cases readUnits? rest <;> rfl

/-! ### Strings -/

/-- The code units of an escaped text. -/
theorem readUnits?_escaped (text rest : List Char) :
    readUnits? (text.flatMap escapeChar ++ '"' :: rest) = some (text.flatMap unitsOf, rest) := by
  induction text with
  | nil => rw [List.flatMap_nil, List.nil_append, readUnits?.eq_def]; rfl
  | cons c text ih =>
    rw [List.flatMap_cons, List.append_assoc, readUnits?_escapeChar, ih]
    rfl

/-- The units of a text are joined to its characters. -/
theorem joinUnits?_unitsOf (text : List Char) : joinUnits? (text.flatMap unitsOf) = some text := by
  induction text with
  | nil => rfl
  | cons c text ih => rw [List.flatMap_cons, joinUnits?_append, ih]; rfl

/-- **An escaped string is read back**, whatever follows it. -/
theorem readChars?_escaped (text rest : List Char) :
    readChars? (text.flatMap escapeChar ++ '"' :: rest) = some (text, rest) := by
  rw [readChars?, readUnits?_escaped, Option.bind_some]
  show (joinUnits? (text.flatMap unitsOf)).map (fun cs => (cs, rest)) = _
  rw [joinUnits?_unitsOf]
  rfl

/-! ### Spaces -/

/-- There is no blank in an escape. -/
theorem space_not_mem_unicodeEscape (code : Nat) : ' ' ∉ unicodeEscape code := by
  intro hmem
  rw [unicodeEscape] at hmem
  rcases List.mem_cons.1 hmem with hfirst | hmem
  · exact absurd hfirst (by decide)
  rcases List.mem_cons.1 hmem with hsecond | hdigits
  · exact absurd hsecond (by decide)
  · -- a space is no digit
    exact absurd (isSome_hexDigit?_of_mem_padded hdigits) (by decide)

/-- Nothing but a space is written as a space. -/
theorem space_of_mem_escapeChar {c : Char} (hmem : ' ' ∈ escapeChar c) : c = ' ' := by
  rcases escapeChar_cases c with ⟨e, hshort, -, hc⟩ | ⟨-, -, -, -, hc⟩ | ⟨-, hc⟩ | ⟨-, hc⟩
  · rw [hc] at hmem
    have hspace : ' ' = e := by simpa using hmem
    subst hspace
    have hnone : shortEscape? ' ' = none := by decide
    rw [hnone] at hshort
    cases hshort
  · rw [hc] at hmem
    exact (List.mem_singleton.1 hmem).symm
  · rw [hc] at hmem
    exact absurd hmem (space_not_mem_unicodeEscape _)
  · rw [hc] at hmem
    rcases List.mem_append.1 hmem with hmem | hmem
    · exact absurd hmem (space_not_mem_unicodeEscape _)
    · exact absurd hmem (space_not_mem_unicodeEscape _)

/-- A string without spaces is written without spaces. -/
theorem space_not_mem_encodeString {s : String} (h : ' ' ∉ s.toList) : ' ' ∉ encodeString s := by
  intro hmem
  have hescaped : ' ' ∈ s.toList.flatMap escapeChar := by simpa [encodeString] using hmem
  obtain ⟨c, hc, hspace⟩ := List.mem_flatMap.1 hescaped
  rw [space_of_mem_escapeChar hspace] at hc
  exact h hc

/-- The commas between elements stand without spaces. -/
theorem space_not_mem_encodeElements {vs : List Json} (h : ∀ v ∈ vs, ' ' ∉ encode v) :
    ' ' ∉ encodeElements vs := by
  induction vs with
  | nil => exact List.not_mem_nil
  | cons v vs ih =>
    have hv := h v List.mem_cons_self
    have hvs := ih fun w hw => h w (List.mem_cons_of_mem _ hw)
    cases vs with
    | nil => exact hv
    | cons w vs =>
      intro hmem
      rw [encodeElements] at hmem
      rcases List.mem_append.1 hmem with hmem | hmem
      · exact hv hmem
      · rcases List.mem_cons.1 hmem with hcomma | hmem
        · exact absurd hcomma (by decide)
        · exact hvs hmem

end SpanTelemetry.Json
