import SpanTelemetry.Binary64.Reading
import SpanTelemetry.Proofs.Json.Strings
import SpanTelemetry.Proofs.Json.Within

namespace SpanTelemetry.Json

open Text

/-!
# Values are read back from their JSON text

* `readNumber?` — numbers; those without a fraction and an exponent are whole.
* `readValue?`, `readElements?`, `readFields?` — values, the elements of an array and the fields of an
  object.
* `read?` — the value that a text stands for.
* `IsExact` — the values without doubles.
* `read?_compact` — such a value is read back from its text.
-/

/-! ### Numbers -/

/-- The digits at the start of a text, and what follows them. -/
def takeDigits (text : List Char) : List Char × List Char :=
  (text.takeWhile Char.isDigit, text.dropWhile Char.isDigit)

/-- The digits of a fraction, if there is one. -/
def takeFraction? : List Char → Option (List Char × List Char)
  | '.' :: rest =>
      let (digits, rest) := takeDigits rest
      if digits.isEmpty then none else some (digits, rest)
  | text => some ([], text)

/-- An exponent, if there is one. -/
def takeExponent? : List Char → Option (Option Int × List Char)
  | [] => some (none, [])
  | c :: rest =>
      if c = 'e' || c = 'E' then
        let (minus, rest) := Binary64.takeSign rest
        let (digits, rest) := takeDigits rest
        (readDecimal? digits).map fun n => (some (if minus then -(n : Int) else (n : Int)), rest)
      else some (none, c :: rest)

/-- A minus sign, if there is one. -/
def takeMinus : List Char → Bool × List Char
  | '-' :: rest => (true, rest)
  | text => (false, text)

/-- A number at the start of a text, and what follows it.  No zero may stand before another digit, and a
    number without a fraction and an exponent is a whole one. -/
def readNumber? (text : List Char) : Option (Json × List Char) :=
  let (minus, rest) := takeMinus text
  let (whole, rest) := takeDigits rest
  if whole.isEmpty || (whole.head? = some '0' && whole.length ≠ 1) then none
  else
    (takeFraction? rest).bind fun (fraction, rest) =>
      (takeExponent? rest).bind fun (exponent, rest) =>
        (readDecimal? (whole ++ fraction)).map fun (n : Nat) =>
          if fraction.isEmpty && exponent.isNone then
            (.int (if minus then -(n : Int) else (n : Int)), rest)
          else (.double (Binary64.ofDecimal minus n (exponent.getD 0 - fraction.length)), rest)

/-! ### Values -/

/-- The blanks that may stand around a value. -/
def isSpace (c : Char) : Bool := c = ' ' || c = '\t' || c = '\n' || c = '\r'

/-- What follows the blanks at the start of a text. -/
def skipSpaces (text : List Char) : List Char := text.dropWhile isSpace

/-- A word that stands for a value. -/
def readWord? (text : List Char) : Option (Json × List Char) :=
  [("null", Json.null), ("true", .bool true), ("false", .bool false)].findSome? fun (word, v) =>
    (dropStart? word.toList text).map fun rest => (v, rest)

mutual

/-- A value at the start of a text, and what follows it.  The number bounds how deep values may stand in
    one another, and how many of them may stand side by side. -/
def readValue? : Nat → List Char → Option (Json × List Char)
  | 0, _ => none
  | bound + 1, text =>
      match skipSpaces text with
      | [] => none
      | c :: rest =>
          if c = '"' then (readChars? rest).map fun (cs, rest) => (.string (String.ofList cs), rest)
          else if c = '[' then
            match skipSpaces rest with
            | ']' :: rest => some (.array [], rest)
            | rest => (readElements? bound rest).map fun (vs, rest) => (.array vs, rest)
          else if c = '\x7b' then
            match skipSpaces rest with
            | '\x7d' :: rest => some (.object [], rest)
            | rest => (readFields? bound rest).map fun (fs, rest) => (.object fs, rest)
          else (readWord? (c :: rest)).or (readNumber? (c :: rest))

/-- The elements up to the end of an array, and what follows it. -/
def readElements? : Nat → List Char → Option (List Json × List Char)
  | 0, _ => none
  | bound + 1, text =>
      (readValue? bound text).bind fun (v, rest) =>
        match skipSpaces rest with
        | ']' :: rest => some ([v], rest)
        | ',' :: rest => (readElements? bound rest).map fun (vs, rest) => (v :: vs, rest)
        | _ => none

/-- The fields up to the end of an object, and what follows it. -/
def readFields? : Nat → List Char → Option (List (String × Json) × List Char)
  | 0, _ => none
  | bound + 1, text =>
      match skipSpaces text with
      | '"' :: rest =>
          (readChars? rest).bind fun (key, rest) =>
            match skipSpaces rest with
            | ':' :: rest =>
                (readValue? bound rest).bind fun (v, rest) =>
                  let field := (String.ofList key, v)
                  match skipSpaces rest with
                  | '\x7d' :: rest => some ([field], rest)
                  | ',' :: rest => (readFields? bound rest).map fun (fs, rest) => (field :: fs, rest)
                  | _ => none
            | _ => none
      | _ => none

end

/-- The value that a text stands for, if nothing but blanks stands around it. -/
def read? (text : String) : Option Json :=
  match readValue? text.toList.length text.toList with
  | some (v, rest) => if (skipSpaces rest).isEmpty then some v else none
  | none => none

/-! ### Numbers are read back -/

/-- A text that goes on with nothing that could belong to a number. -/
def EndsNumber (rest : List Char) : Prop :=
  ∀ c ∈ rest.head?, c.isDigit = false ∧ c ≠ '.' ∧ c ≠ 'e' ∧ c ≠ 'E'

section Numbers

variable {rest : List Char}

/-- A number may stand at the very end. -/
theorem endsNumber_nil : EndsNumber [] := nofun

/-- Digits are taken off together, up to where the number ends. -/
theorem takeDigits_append {digits : List Char} (hdigits : ∀ c ∈ digits, c.isDigit = true)
    (hrest : EndsNumber rest) : takeDigits (digits ++ rest) = (digits, rest) := by
  -- the rest does not begin with a digit, so nothing more is taken
  have hnone : rest.takeWhile Char.isDigit = [] ∧ rest.dropWhile Char.isDigit = rest := by
    cases rest with
    | nil => exact ⟨rfl, rfl⟩
    | cons c rest =>
      obtain ⟨hdigit, -⟩ := hrest c rfl
      simp [hdigit]
  rw [takeDigits, List.takeWhile_append_of_pos hdigits, List.dropWhile_append_of_pos hdigits,
    hnone.1, hnone.2, List.append_nil]

/-- Where a number ends there is no fraction. -/
theorem takeFraction?_of_endsNumber (hrest : EndsNumber rest) :
    takeFraction? rest = some ([], rest) := by
  cases rest with
  | nil => rfl
  | cons c rest =>
    obtain ⟨-, hpoint, -⟩ := hrest c rfl
    unfold takeFraction?
    split
    · rename_i htext
      exact absurd (List.cons.inj htext).1 hpoint
    · rfl

/-- Nor is there an exponent. -/
theorem takeExponent?_of_endsNumber (hrest : EndsNumber rest) :
    takeExponent? rest = some (none, rest) := by
  cases rest with
  | nil => rfl
  | cons c rest =>
    obtain ⟨-, -, hlower, hupper⟩ := hrest c rfl
    simp [takeExponent?, hlower, hupper]

/-- Only the number zero is written with a zero in front. -/
theorem decimal_zero_or (n : Nat) : (decimal n).head? ≠ some '0' ∨ (decimal n).length = 1 := by
  rcases Nat.eq_zero_or_pos n with rfl | hpos
  · exact Or.inr rfl
  · exact Or.inl (head?_decimal_ne_zero hpos)

/-- The text of an integer falls into its sign and the digits of its magnitude. -/
theorem takeMinus_signedDecimal (n : Int) :
    takeMinus (signedDecimal n ++ rest) = (decide (n < 0), decimal n.natAbs ++ rest) := by
  unfold signedDecimal
  split
  · rename_i hnegative
    rw [decide_eq_true hnegative]
    rfl
  · rename_i hnegative
    rw [decide_eq_false hnegative]
    obtain ⟨c, digits, hdecimal⟩ := List.exists_cons_of_ne_nil (decimal_ne_nil n.natAbs)
    have hdigit : c.isDigit = true := isDigit_of_mem_decimal (hdecimal ▸ List.mem_cons_self)
    rw [hdecimal, List.cons_append]
    unfold takeMinus
    split
    · -- a digit is no minus sign
      rename_i htext
      rw [(List.cons.inj htext).1] at hdigit
      exact absurd hdigit (by decide)
    · rfl

/-- **The text of an integer is read back.** -/
theorem readNumber?_signedDecimal (n : Int) (hrest : EndsNumber rest) :
    readNumber? (signedDecimal n ++ rest) = some (.int n, rest) := by
  have hdigits : takeDigits (decimal n.natAbs ++ rest) = (decimal n.natAbs, rest) :=
    takeDigits_append (fun _ hc => isDigit_of_mem_decimal hc) hrest
  have hnonempty : (decimal n.natAbs).isEmpty = false := by
    rw [List.isEmpty_eq_false_iff]
    exact decimal_ne_nil _
  have hzero : ((decimal n.natAbs).head? = some '0' && (decimal n.natAbs).length ≠ 1) = false := by
    rcases decimal_zero_or n.natAbs with hfirst | hlength
    · simp [hfirst]
    · simp [hlength]
  have hsign : (if decide (n < 0) then -(n.natAbs : Int) else (n.natAbs : Int)) = n := by
    by_cases hnegative : n < 0
    · simp only [hnegative, decide_true, if_true]
      omega
    · simp only [hnegative, decide_false, Bool.false_eq_true, if_false]
      omega
  -- a whole number has neither a fraction nor an exponent, and no zero in front
  simp only [readNumber?, takeMinus_signedDecimal, hdigits, hnonempty, hzero, Bool.or_self,
    Bool.false_eq_true, if_false, takeFraction?_of_endsNumber hrest,
    takeExponent?_of_endsNumber hrest, Option.bind_some, List.append_nil, readDecimal?_decimal,
    Option.map_some, List.isEmpty_nil, Option.isNone_none, Bool.and_self, if_true, hsign]

end Numbers

/-! ### One step of the reader -/

section Steps

variable {bound : Nat} {c : Char} {text rest : List Char} {v : Json}

/-- Nothing is skipped in front of a character that is no blank. -/
theorem skipSpaces_cons (hspace : isSpace c = false) (text : List Char) :
    skipSpaces (c :: text) = c :: text := by
  simp [skipSpaces, hspace]

/-- A quote begins a string. -/
theorem readValue?_string (rest : List Char) : readValue? (bound + 1) ('"' :: rest) =
    (readChars? rest).map fun (cs, rest) => (.string (String.ofList cs), rest) := by
  rw [readValue?, skipSpaces_cons (by decide)]
  rfl

/-- An array that is closed at once has no elements. -/
theorem readValue?_emptyArray (rest : List Char) :
    readValue? (bound + 1) ('[' :: ']' :: rest) = some (.array [], rest) := by
  rw [readValue?, skipSpaces_cons (by decide)]
  rfl

/-- An object that is closed at once has no fields. -/
theorem readValue?_emptyObject (rest : List Char) :
    readValue? (bound + 1) ('\x7b' :: '\x7d' :: rest) = some (.object [], rest) := by
  rw [readValue?, skipSpaces_cons (by decide)]
  rfl

/-- An array whose first element begins behind the bracket. -/
theorem readValue?_array (hspace : isSpace c = false) (hend : c ≠ ']') (rest : List Char) :
    readValue? (bound + 1) ('[' :: c :: rest) =
      (readElements? bound (c :: rest)).map fun (vs, rest) => (.array vs, rest) := by
  rw [readValue?, skipSpaces_cons (by decide)]
  show (match skipSpaces (c :: rest) with
    | ']' :: rest => some (array [], rest)
    | rest => (readElements? bound rest).map fun (vs, rest) => (array vs, rest)) = _
  rw [skipSpaces_cons hspace]
  split
  · rename_i htext
    exact absurd (List.cons.inj htext).1 hend
  · rfl

/-- An object whose first key begins behind the bracket. -/
theorem readValue?_object (rest : List Char) :
    readValue? (bound + 1) ('\x7b' :: '"' :: rest) =
      (readFields? bound ('"' :: rest)).map fun (fs, rest) => (.object fs, rest) := by
  rw [readValue?, skipSpaces_cons (by decide)]
  rfl

/-- A word or a number. -/
theorem readValue?_other (hspace : isSpace c = false) (hquote : c ≠ '"') (hbracket : c ≠ '[')
    (hbrace : c ≠ '\x7b') (rest : List Char) :
    readValue? (bound + 1) (c :: rest) = (readWord? (c :: rest)).or (readNumber? (c :: rest)) := by
  rw [readValue?, skipSpaces_cons hspace]
  simp only [if_neg hquote, if_neg hbracket, if_neg hbrace]

/-- An element in front of a closing bracket is the last one. -/
theorem readElements?_last (hv : readValue? bound text = some (v, ']' :: rest)) :
    readElements? (bound + 1) text = some ([v], rest) := by
  rw [readElements?, hv]
  rfl

/-- An element in front of a comma is followed by others. -/
theorem readElements?_cons (hv : readValue? bound text = some (v, ',' :: rest)) :
    readElements? (bound + 1) text =
      (readElements? bound rest).map fun (vs, rest) => (v :: vs, rest) := by
  rw [readElements?, hv]
  rfl

variable {key : List Char} {afterKey : List Char}

/-- A field in front of a closing brace is the last one. -/
theorem readFields?_last (hkey : readChars? text = some (key, ':' :: afterKey))
    (hv : readValue? bound afterKey = some (v, '\x7d' :: rest)) :
    readFields? (bound + 1) ('"' :: text) = some ([(String.ofList key, v)], rest) := by
  rw [readFields?, skipSpaces_cons (by decide)]
  simp only [hkey, Option.bind_some, skipSpaces_cons (by decide : isSpace ':' = false), hv]
  rfl

/-- A field in front of a comma is followed by others. -/
theorem readFields?_cons (hkey : readChars? text = some (key, ':' :: afterKey))
    (hv : readValue? bound afterKey = some (v, ',' :: rest)) :
    readFields? (bound + 1) ('"' :: text) =
      (readFields? bound rest).map fun (fs, rest) => ((String.ofList key, v) :: fs, rest) := by
  rw [readFields?, skipSpaces_cons (by decide)]
  simp only [hkey, Option.bind_some, skipSpaces_cons (by decide : isSpace ':' = false), hv]
  rfl

end Steps

/-! ### Values are read back -/

/-- A value without doubles: its text is exact. -/
def IsExact (v : Json) : Prop := Everywhere (fun w => ∀ x, w ≠ .double x) v

/-- A string holds no double. -/
theorem isExact_string (s : String) : IsExact (.string s) := by
  rintro w ⟨⟩ x
  exact nofun

/-- An array is exact when its elements are. -/
theorem isExact_array_iff {vs : List Json} : IsExact (.array vs) ↔ ∀ v ∈ vs, IsExact v := by
  rw [IsExact, everywhere_array_iff]
  exact and_iff_right fun _ => nofun

/-- An object is exact when the values of its fields are. -/
theorem isExact_object_iff {fs : List (String × Json)} :
    IsExact (.object fs) ↔ ∀ f ∈ fs, IsExact f.2 := by
  rw [IsExact, everywhere_object_iff]
  exact and_iff_right fun _ => nofun

/-- Every word begins with one of three letters. -/
theorem readWord?_of_ne {c : Char} (hn : c ≠ 'n') (ht : c ≠ 't') (hf : c ≠ 'f') (rest : List Char) :
    readWord? (c :: rest) = none := by
  simp [readWord?, List.findSome?, dropStart?, Ne.symm hn, Ne.symm ht, Ne.symm hf]

/-- The text of an integer begins with a minus sign or a digit. -/
theorem signedDecimal_cons (n : Int) :
    ∃ c text, signedDecimal n = c :: text ∧ (c = '-' ∨ c.isDigit = true) := by
  unfold signedDecimal
  split
  · exact ⟨'-', _, rfl, Or.inl rfl⟩
  · obtain ⟨c, text, htext⟩ := List.exists_cons_of_ne_nil (decimal_ne_nil n.natAbs)
    exact ⟨c, text, htext, Or.inr (isDigit_of_mem_decimal (htext ▸ List.mem_cons_self))⟩

/-- A minus sign and the digits are no other characters. -/
theorem ne_of_signed {c d : Char} (hc : c = '-' ∨ c.isDigit = true) (hminus : d ≠ '-')
    (hdigit : d.isDigit = false) : c ≠ d := by
  rintro rfl
  rcases hc with hc | hc
  · exact hminus hc
  · rw [hc] at hdigit
    cases hdigit

/-- An integer does not begin with a blank. -/
theorem isSpace_of_signed {c : Char} (hc : c = '-' ∨ c.isDigit = true) : isSpace c = false := by
  simp [isSpace, ne_of_signed hc]

/-- No value begins with a blank, or with the end of an array. -/
theorem encode_cons {v : Json} (h : IsExact v) :
    ∃ c text, encode v = c :: text ∧ isSpace c = false ∧ c ≠ ']' := by
  cases v with
  | null => exact ⟨'n', _, rfl, by decide, by decide⟩
  | bool b => cases b <;> exact ⟨_, _, rfl, by decide, by decide⟩
  | int n =>
    obtain ⟨c, text, htext, hc⟩ := signedDecimal_cons n
    exact ⟨c, text, htext, isSpace_of_signed hc, ne_of_signed hc (by decide) (by decide)⟩
  | double x => exact absurd rfl (h _ .self x)
  | string s => exact ⟨'"', _, rfl, by decide, by decide⟩
  | array vs => exact ⟨'[', _, rfl, by decide, by decide⟩
  | object fs => exact ⟨'\x7b', _, rfl, by decide, by decide⟩

/-- **The text of an integer is read back** as a value. -/
theorem readValue?_int (n : Int) (bound : Nat) {rest : List Char} (hrest : EndsNumber rest) :
    readValue? (bound + 1) (signedDecimal n ++ rest) = some (.int n, rest) := by
  -- its first character leads past strings, arrays, objects and words
  obtain ⟨c, text, htext, hc⟩ := signedDecimal_cons n
  have hnumber := readNumber?_signedDecimal n hrest
  rw [htext, List.cons_append] at hnumber ⊢
  rw [readValue?_other (isSpace_of_signed hc) (ne_of_signed hc (by decide) (by decide))
    (ne_of_signed hc (by decide) (by decide)) (ne_of_signed hc (by decide) (by decide)),
    readWord?_of_ne (ne_of_signed hc (by decide) (by decide))
      (ne_of_signed hc (by decide) (by decide)) (ne_of_signed hc (by decide) (by decide)), hnumber]
  rfl

/-- **A word is read back** as the value that it stands for. -/
theorem readValue?_word {word : String} {v : Json} (bound : Nat) (rest : List Char)
    (h : (word, v) ∈ [("null", Json.null), ("true", .bool true), ("false", .bool false)]) :
    readValue? (bound + 1) (word.toList ++ rest) = some (v, rest) := by
  simp only [List.mem_cons, List.not_mem_nil, or_false, Prod.mk.injEq] at h
  rcases h with ⟨rfl, rfl⟩ | ⟨rfl, rfl⟩ | ⟨rfl, rfl⟩ <;>
    exact readValue?_other (by decide) (by decide) (by decide) (by decide) _

/-- The text of a string, up to the quote that ends it. -/
theorem encodeString_append (s : String) (rest : List Char) :
    encodeString s ++ rest = '"' :: (s.toList.flatMap escapeChar ++ '"' :: rest) := by
  simp [encodeString]

/-- **The text of a string is read back** as a value. -/
theorem readValue?_encodeString (s : String) (bound : Nat) (rest : List Char) :
    readValue? (bound + 1) (encodeString s ++ rest) = some (.string s, rest) := by
  rw [encodeString_append, readValue?_string, readChars?_escaped]
  show some (Json.string (String.ofList s.toList), rest) = _
  rw [String.ofList_toList]

/-- What stands behind an element or a field belongs to no number. -/
theorem endsNumber_cons {c : Char} (hc : c ∈ [',', ']', '\x7d']) (rest : List Char) :
    EndsNumber (c :: rest) := by
  rintro d ⟨⟩
  simp only [List.mem_cons, List.not_mem_nil, or_false] at hc
  rcases hc with rfl | rfl | rfl <;> decide

/-- The reader reads values back whose text is no longer than its bound. -/
def ReadsValues (bound : Nat) : Prop :=
  ∀ v, IsExact v → ∀ rest, (encode v).length ≤ bound → EndsNumber rest →
    readValue? bound (encode v ++ rest) = some (v, rest)

/-- The reader reads the elements of an array back, whose text is shorter than its bound. -/
def ReadsElements (bound : Nat) : Prop :=
  ∀ v vs, (∀ w ∈ v :: vs, IsExact w) → ∀ rest, (encodeElements (v :: vs)).length < bound →
    readElements? bound (encodeElements (v :: vs) ++ ']' :: rest) = some (v :: vs, rest)

/-- The reader reads the fields of an object back, whose text is shorter than its bound. -/
def ReadsFields (bound : Nat) : Prop :=
  ∀ f fs, (∀ g ∈ f :: fs, IsExact g.2) → ∀ rest, (encodeFields (f :: fs)).length < bound →
    readFields? bound (encodeFields (f :: fs) ++ '\x7d' :: rest) = some (f :: fs, rest)

section Bounds

variable {bound : Nat}

/-- One step on a value.  An array and an object lose a bracket, so what stands in them is short enough
    for the smaller bound. -/
theorem readsValues_succ (helements : ReadsElements bound) (hfields : ReadsFields bound) :
    ReadsValues (bound + 1) := by
  intro v hexact rest hbound hrest
  cases v with
  | null => exact readValue?_word bound rest (by simp)
  | bool b => cases b <;> exact readValue?_word bound rest (by simp)
  | int n => exact readValue?_int n bound hrest
  | double x => exact absurd rfl (hexact _ .self x)
  | string s => exact readValue?_encodeString s bound rest
  | array vs =>
    cases vs with
    | nil => exact readValue?_emptyArray rest
    | cons v vs =>
      simp only [encode, List.length_append, List.length_cons, List.length_nil] at hbound
      have hall := isExact_array_iff.1 hexact
      have hread := helements v vs hall rest (by omega)
      -- the first element does not begin with a bracket that closes the array, so the
      -- reader does not take the array for an empty one
      obtain ⟨c, text, htext, hspace, hend⟩ := encode_cons (hall v List.mem_cons_self)
      obtain ⟨more, hmore⟩ : ∃ more, encodeElements (v :: vs) = c :: more := by
        cases vs <;> simp [encodeElements, htext]
      rw [encode, hmore, List.append_assoc]
      rw [hmore] at hread
      show readValue? (bound + 1) ('[' :: c :: (more ++ ']' :: rest)) = _
      rw [readValue?_array hspace hend, ← List.cons_append, hread]
      rfl
  | object fs =>
    cases fs with
    | nil => exact readValue?_emptyObject rest
    | cons f fs =>
      simp only [encode, List.length_append, List.length_cons, List.length_nil] at hbound
      have hread := hfields f fs (isExact_object_iff.1 hexact) rest (by omega)
      obtain ⟨more, hmore⟩ : ∃ more, encodeFields (f :: fs) = '"' :: more := by
        obtain ⟨key, v⟩ := f
        cases fs <;> simp [encodeFields, encodeString]
      rw [encode, hmore, List.append_assoc]
      rw [hmore] at hread
      show readValue? (bound + 1) ('\x7b' :: '"' :: (more ++ '\x7d' :: rest)) = _
      rw [readValue?_object, ← List.cons_append, hread]
      rfl

/-- One step on the elements of an array.  The comma behind the first element is not read again. -/
theorem readsElements_succ (hvalues : ReadsValues bound) (helements : ReadsElements bound) :
    ReadsElements (bound + 1) := by
  intro v vs hexact rest hbound
  have hv := hvalues v (hexact v List.mem_cons_self)
  cases vs with
  | nil =>
    rw [encodeElements] at hbound ⊢
    exact readElements?_last (hv (']' :: rest) (by omega) (endsNumber_cons (by simp) rest))
  | cons w vs =>
    simp only [encodeElements, List.length_append, List.length_cons] at hbound
    have hrest := helements w vs (fun x hx => hexact x (List.mem_cons_of_mem _ hx)) rest (by omega)
    rw [encodeElements, List.append_assoc, List.cons_append,
      readElements?_cons (hv _ (by omega) (endsNumber_cons (by simp) _)), hrest]
    rfl

/-- One step on the fields of an object: the key, its value, and the fields behind the comma. -/
theorem readsFields_succ (hvalues : ReadsValues bound) (hfields : ReadsFields bound) :
    ReadsFields (bound + 1) := by
  intro f fs hexact rest hbound
  obtain ⟨key, v⟩ := f
  have hv := hvalues v (hexact (key, v) List.mem_cons_self)
  -- the value is read with the smaller bound, which its text fits because the key takes up some of it
  cases fs with
  | nil =>
    simp only [encodeFields, List.length_append, List.length_cons] at hbound
    rw [encodeFields, List.append_assoc, List.cons_append, encodeString_append,
      readFields?_last (readChars?_escaped key.toList _)
        (hv ('\x7d' :: rest) (by omega) (endsNumber_cons (by simp) rest)), String.ofList_toList]
  | cons g fs =>
    simp only [encodeFields, List.length_append, List.length_cons] at hbound
    have hrest := hfields g fs (fun x hx => hexact x (List.mem_cons_of_mem _ hx)) rest (by omega)
    rw [encodeFields, List.append_assoc, List.append_assoc, List.cons_append, List.cons_append,
      encodeString_append, readFields?_cons (readChars?_escaped key.toList _)
        (hv _ (by omega) (endsNumber_cons (by simp) _)), hrest, String.ofList_toList]
    rfl

/-- By induction on the bound: each step of the reader leaves a smaller bound, and a shorter text. -/
theorem reads_all (bound : Nat) : ReadsValues bound ∧ ReadsElements bound ∧ ReadsFields bound := by
  induction bound with
  | zero =>
    refine ⟨?_, fun _ _ _ _ hbound => absurd hbound (Nat.not_lt_zero _),
      fun _ _ _ _ hbound => absurd hbound (Nat.not_lt_zero _)⟩
    intro v hexact rest hbound _
    -- no text is empty, so none fits a bound of zero
    obtain ⟨c, text, htext, -⟩ := encode_cons hexact
    rw [htext] at hbound
    exact absurd hbound (Nat.not_succ_le_zero _)
  | succ bound ih =>
    obtain ⟨hvalues, helements, hfields⟩ := ih
    exact ⟨readsValues_succ helements hfields, readsElements_succ hvalues helements,
      readsFields_succ hvalues hfields⟩

end Bounds

/-- **A value without doubles is read back from its text.** -/
theorem read?_compact {v : Json} (h : IsExact v) : read? v.compact = some v := by
  have hvalue := (reads_all (encode v).length).1 v h [] (Nat.le_refl _) endsNumber_nil
  rw [List.append_nil] at hvalue
  rw [read?, compact, String.toList_ofList, hvalue]
  rfl

end SpanTelemetry.Json
