import Mathlib.Algebra.Group.Nat.Defs
import SpanTelemetry.Proofs.Text.Numeral
import SpanTelemetry.StackTrace

namespace SpanTelemetry.StackTrace

open Text

/-!
# The lines of a stack trace

* `IsIndented` — lines that name no exception and begin no list of frames.
* `Describes`, `frame?_eq_some_iff`, `frame?_eq_none_iff` — which lines describe a call, and which call.
* `FrameLine.read?_decimal` — the line number of a call is read, unless it has too many digits.
* `cutAtColon_append`, `cutAtColon_of_not_isInfix` — where a line is cut into a type and a message.
-/

/-! ### Indentation -/

/-- A line that begins with a blank. -/
def IsIndented (line : List Char) : Prop := ∃ c ∈ line.head?, isBlank c = true

/-- A header is not indented. -/
theorem isHeader_of_isIndented {line : List Char} (h : IsIndented line) : isHeader line = false := by
  obtain ⟨c, hc, hblank⟩ := h
  refine Bool.eq_false_iff.2 fun hheader => ?_
  obtain ⟨rest, rfl⟩ := beginsWith_eq_true_iff.1 hheader
  obtain rfl : 'T' = c := Option.mem_some.1 hc
  exact absurd hblank (by decide)

/-! ### Calls -/

/-- A call as a line can describe it. -/
structure FrameLine.IsDescribable (f : FrameLine) : Prop where
  file_ne_nil : f.file ≠ []
  quote_not_mem_file : '"' ∉ f.file
  lineDigits_ne_nil : f.lineDigits ≠ []
  isSome_decimalDigit? : ∀ c ∈ f.lineDigits, (decimalDigit? c).isSome = true
  method_ne_nil : f.method ≠ []

/-- The text of a call. -/
def FrameLine.text (f : FrameLine) : List Char :=
  "File \"".toList ++ (f.file ++ '"' :: (", line ".toList ++ (f.lineDigits ++
    (", in ".toList ++ f.method))))

/-- The line describes a call: its text stands behind blanks. -/
def Describes (line : List Char) (f : FrameLine) : Prop :=
  f.IsDescribable ∧ ∃ indent, (∀ c ∈ indent, isBlank c = true) ∧ line = indent ++ f.text

/-- **A line describes a call** iff the call is found in it. -/
theorem frame?_eq_some_iff {line : List Char} {f : FrameLine} :
    frame? line = some f ↔ Describes line f := by
  unfold frame?
  simp only [Option.bind_eq_bind, Option.bind_eq_some_iff, dropStart?_eq_some_iff, Prod.exists,
    cutFirst_eq_some_iff]
  constructor
  · rintro ⟨afterOpening, hopening, file, afterFile, ⟨hfile, hquote⟩, afterLabel, hlabel, method,
      hmethod, h⟩
    split at h
    · cases h
    · rename_i hparts
      cases h
      simp only [Bool.or_eq_true, List.isEmpty_iff, not_or] at hparts
      obtain ⟨⟨hfileNe, hdigitsNe⟩, hmethodNe⟩ := hparts
      refine ⟨⟨hfileNe, hquote, hdigitsNe, fun c hc => ?_, hmethodNe⟩, line.takeWhile isBlank,
        fun c hc => ?_, ?_⟩
      · exact List.all_eq_true.1 List.all_takeWhile c hc
      · exact List.all_eq_true.1 List.all_takeWhile c hc
      · have hline := List.takeWhile_append_dropWhile (p := isBlank) (l := line)
        have hafterLabel := List.takeWhile_append_dropWhile (p := fun c => (decimalDigit? c).isSome)
          (l := afterLabel)
        rw [hmethod] at hafterLabel
        rw [hopening, hfile, hlabel, ← hafterLabel] at hline
        exact hline.symm
  · rintro ⟨hf, indent, hindent, rfl⟩
    have hblanks : (indent ++ f.text).dropWhile isBlank = f.text := by
      rw [List.dropWhile_append_of_pos hindent]
      rfl
    -- the comma behind the line number is no digit
    have hdigits : (f.lineDigits ++ (", in ".toList ++ f.method)).takeWhile
        (fun c => (decimalDigit? c).isSome) = f.lineDigits := by
      rw [List.takeWhile_append_of_pos hf.isSome_decimalDigit?]
      simp [show decimalDigit? ',' = none by decide]
    have hrest : (f.lineDigits ++ (", in ".toList ++ f.method)).dropWhile
        (fun c => (decimalDigit? c).isSome) = ", in ".toList ++ f.method := by
      rw [List.dropWhile_append_of_pos hf.isSome_decimalDigit?]
      simp [show decimalDigit? ',' = none by decide]
    refine ⟨_, hblanks, _, _, ⟨rfl, hf.quote_not_mem_file⟩, _, rfl, _, hrest, ?_⟩
    rw [hdigits]
    simp [hf.file_ne_nil, hf.lineDigits_ne_nil, hf.method_ne_nil]

example : frame? "  File \"a.py\", line 12, in run".toList =
    some ⟨"a.py".toList, "12".toList, "run".toList⟩ := by decide +kernel

/-- A line describes no call iff none is found in it. -/
theorem frame?_eq_none_iff {line : List Char} : frame? line = none ↔ ∀ f, ¬ Describes line f := by
  simp only [Option.eq_none_iff_forall_ne_some, ne_eq, frame?_eq_some_iff]

/-- The line number of a call is read, unless it has too many digits. -/
theorem FrameLine.read?_decimal (file method : List Char) {line : Nat}
    (hline : line < 10 ^ maxLineDigits) (level : Nat) :
    FrameLine.read? ⟨file, decimal line, method⟩ level =
      some { level, method := String.ofList method, fileName := some (String.ofList file),
             line := some (line : Int) } := by
  have hdigits : (decimal line).length ≤ maxLineDigits :=
    (Nat.length_toDigits_le_iff (by decide) (by decide)).2 hline
  simp [FrameLine.read?, hdigits, readDecimal?_decimal]

/-! ### Types and messages -/

/-- A line that does not begin with a colon and a space is cut behind its first character. -/
theorem cutAtColon_cons {c : Char} {rest : List Char} (h : ¬ [':', ' '] <+: c :: rest) :
    cutAtColon (c :: rest) =
      (cutAtColon rest).map fun (before, after) => (c :: before, after) := by
  refine cutAtColon.eq_2 c rest fun rest' hc hrest => h ?_
  subst hc hrest
  exact ⟨rest', rfl⟩

/-- A line is cut at its first colon that a space follows. -/
theorem cutAtColon_append {before : List Char} (h : ¬ [':', ' '] <:+: before) (after : List Char) :
    cutAtColon (before ++ ':' :: ' ' :: after) = some (before, after) := by
  induction before with
  | nil => rfl
  | cons c before ih =>
    rw [List.cons_append, cutAtColon_cons, ih fun hin => h (List.infix_cons hin)]
    · rfl
    · -- a colon at the end of `before` is followed by another one
      intro hbegins
      refine h (List.IsPrefix.isInfix ?_)
      cases before with
      | nil => simp at hbegins
      | cons d before => simpa using hbegins

theorem cutAtColon_of_not_isInfix {line : List Char} (h : ¬ [':', ' '] <:+: line) :
    cutAtColon line = none := by
  induction line with
  | nil => rfl
  | cons c line ih =>
    rw [cutAtColon_cons fun hbegins => h hbegins.isInfix, ih fun hin => h (List.infix_cons hin)]
    rfl

end SpanTelemetry.StackTrace
