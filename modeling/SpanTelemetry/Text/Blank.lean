namespace SpanTelemetry.Text

/-!
# Blank characters

* `isBlank` — the characters that count as white space.
* `trim` — a text without the blanks at its ends.
* `cut_trim` — a text is its trimmed form between blanks.
* `isBlank_of_trim_eq` — the trimmed form does not begin with a blank.
-/

/-- Tabs, line ends, separators and spaces of all widths. -/
def isBlank (c : Char) : Bool :=
  let n := c.toNat
  (9 ≤ n && n ≤ 13) || (28 ≤ n && n ≤ 32) || n == 0x85 || n == 0xA0 || n == 0x1680 ||
    (0x2000 ≤ n && n ≤ 0x200A) || n == 0x2028 || n == 0x2029 || n == 0x202F || n == 0x205F ||
    n == 0x3000

/-- Remove the characters of a class from the end of a text. -/
def dropEndWhile (p : Char → Bool) (text : List Char) : List Char :=
  (text.reverse.dropWhile p).reverse

/-- Remove the blanks at both ends of a text. -/
def trim (text : List Char) : List Char :=
  dropEndWhile isBlank (text.dropWhile isBlank)

/-! ### Lemmas -/

theorem dropEndWhile_append (p : Char → Bool) (text : List Char) :
    text = dropEndWhile p text ++ (text.reverse.takeWhile p).reverse := by
  have h := congrArg List.reverse (List.takeWhile_append_dropWhile (p := p) (l := text.reverse))
  simp only [List.reverse_append, List.reverse_reverse] at h
  exact h.symm

/-- A text is its trimmed form between two runs of blanks. -/
theorem cut_trim (text : List Char) :
    ∃ before after, text = before ++ trim text ++ after ∧
      (∀ c ∈ before, isBlank c = true) ∧ ∀ c ∈ after, isBlank c = true := by
  refine ⟨text.takeWhile isBlank, ((text.dropWhile isBlank).reverse.takeWhile isBlank).reverse,
    ?_, fun c hc => ?_, fun c hc => ?_⟩
  · rw [trim, List.append_assoc, ← dropEndWhile_append, List.takeWhile_append_dropWhile]
  · exact List.all_eq_true.1 List.all_takeWhile c hc
  · exact List.all_eq_true.1 List.all_takeWhile c (List.mem_reverse.1 hc)

theorem length_trim_le (text : List Char) : (trim text).length ≤ text.length := by
  have hend := (List.dropWhile_sublist (l := (text.dropWhile isBlank).reverse) isBlank).length_le
  have hstart := (List.dropWhile_sublist (l := text) isBlank).length_le
  simp only [trim, dropEndWhile, List.length_reverse] at hend ⊢
  exact Nat.le_trans hend hstart

/-- A text that is trimmed does not begin with a blank. -/
theorem isBlank_of_trim_eq {c : Char} {text : List Char} (h : trim (c :: text) = c :: text) :
    isBlank c = false := by
  refine Bool.eq_false_iff.2 fun hc => ?_
  -- a blank at the beginning would be gone
  have hdrop : trim (c :: text) = trim text := by simp [trim, hc]
  have hlength := length_trim_le text
  rw [← hdrop, h, List.length_cons] at hlength
  omega

end SpanTelemetry.Text
