import SpanTelemetry.Proofs.Text.Numeral
import SpanTelemetry.Text.Lines

namespace SpanTelemetry.Text

/-!
# Lines that are joined are found again

* `WithinLine` — a text that no line ends in.
* `joinLines` — lines with line feeds between them.
* `lines_append_of_withinLine` — a text within a line stands at the beginning of the first line.
* `lines_joinLines_append` — the lines before the last are found again, whatever follows them.
* `lines_joinLines` — the lines of such a text are these lines, whether a line feed follows the last of
  them or not.
-/

/-- No line ends in the text. -/
def WithinLine (text : List Char) : Prop := ∀ c ∈ text, isLineEnd c = false

instance (text : List Char) : Decidable (WithinLine text) :=
  List.decidableBAll _ text

theorem withinLine_append {xs ys : List Char} :
    WithinLine (xs ++ ys) ↔ WithinLine xs ∧ WithinLine ys :=
  List.forall_mem_append

theorem withinLine_cons {c : Char} {text : List Char} :
    WithinLine (c :: text) ↔ isLineEnd c = false ∧ WithinLine text :=
  List.forall_mem_cons

/-- A number is written within a line. -/
theorem withinLine_decimal (n : Nat) : WithinLine (decimal n) := by
  intro c hc
  obtain ⟨hlow, hhigh⟩ := toNat_of_isDigit (isDigit_of_mem_decimal hc)
  simp only [isLineEnd, Bool.or_eq_false_iff, Bool.and_eq_false_iff, decide_eq_false_iff_not,
    beq_eq_false_iff_ne]
  omega

/-- What ends a line is blank. -/
theorem isBlank_of_isLineEnd {c : Char} (h : isLineEnd c = true) : isBlank c = true := by
  simp only [isLineEnd, isBlank, Bool.or_eq_true, Bool.and_eq_true, decide_eq_true_eq, beq_iff_eq] at h ⊢
  omega

/-- Lines with line feeds between them. -/
def joinLines (ls : List (List Char)) : List Char := ['\n'].intercalate ls

/-! ### One line -/

/-- A character within a line belongs to the first line. -/
theorem lines_cons {c : Char} (hc : isLineEnd c = false) (rest : List Char) :
    lines (c :: rest) = (c :: (lines rest).headD []) :: (lines rest).tail := by
  have hreturn : ∀ rest', c = '\r' → rest = '\n' :: rest' → False := by
    rintro rest' rfl -
    cases hc
  rw [lines.eq_3 c rest hreturn, if_neg (Bool.eq_false_iff.1 hc)]
  cases lines rest <;> rfl

/-- The line before a line feed is the first. -/
theorem lines_append_lineFeed {line : List Char} (h : WithinLine line) (rest : List Char) :
    lines (line ++ '\n' :: rest) = line :: lines rest := by
  induction line with
  | nil => rfl
  | cons c line ih =>
    obtain ⟨hc, hline⟩ := withinLine_cons.1 h
    rw [List.cons_append, lines_cons hc, ih hline]
    rfl

/-- A text that no line ends in belongs to the first line of what it stands before. -/
theorem lines_append_of_withinLine {start : List Char} (h : WithinLine start) (hne : start ≠ [])
    (rest : List Char) :
    lines (start ++ rest) = (start ++ (lines rest).headD []) :: (lines rest).tail := by
  induction start with
  | nil => exact absurd rfl hne
  | cons c start ih =>
    obtain ⟨hc, hstart⟩ := withinLine_cons.1 h
    rw [List.cons_append, lines_cons hc]
    cases start with
    | nil => rfl
    | cons d start =>
      rw [ih hstart (by simp)]
      rfl

/-- A text that no line ends in is one line, unless it is empty. -/
theorem lines_of_withinLine {line : List Char} (h : WithinLine line) (hne : line ≠ []) :
    lines line = [line] := by
  have hline := lines_append_of_withinLine h hne []
  simpa [lines] using hline

/-! ### Joined lines -/

theorem joinLines_cons_append (line : List Char) (ls : List (List Char)) (last : List Char) :
    joinLines (line :: (ls ++ [last])) = line ++ '\n' :: joinLines (ls ++ [last]) := by
  cases ls <;> simp [joinLines, List.intercalate]

/-- The lines before the last are found again, whatever the last one goes on with. -/
theorem lines_joinLines_append {ls : List (List Char)} (h : ∀ line ∈ ls, WithinLine line)
    (last more : List Char) : lines (joinLines (ls ++ [last]) ++ more) = ls ++ lines (last ++ more) := by
  -- by induction on the lines: each but the last stands before a line feed
  induction ls with
  | nil => simp [joinLines, List.intercalate]
  | cons line ls ih =>
    obtain ⟨hline, hls⟩ := List.forall_mem_cons.1 h
    rw [List.cons_append, joinLines_cons_append, List.append_assoc, List.cons_append,
      lines_append_lineFeed hline, ih hls, List.cons_append]

/-- **Lines that are joined are found again**, if the last of them is not empty; a line feed may follow
    it. -/
theorem lines_joinLines {ls : List (List Char)} {last : List Char}
    (h : ∀ line ∈ ls ++ [last], WithinLine line) (hlast : last ≠ []) (endsWithLineFeed : Bool) :
    lines (joinLines (ls ++ [last]) ++ if endsWithLineFeed then ['\n'] else []) = ls ++ [last] := by
  obtain ⟨hls, hwithin⟩ := List.forall_mem_append.1 h
  rw [lines_joinLines_append hls]
  have hone : WithinLine last := hwithin last (by simp)
  cases endsWithLineFeed with
  | false => simpa using lines_of_withinLine hone hlast
  | true => simpa [lines] using lines_append_lineFeed hone []

end SpanTelemetry.Text
