import SpanTelemetry.Proofs.StackTrace.Reading
import SpanTelemetry.Proofs.Text.Lines
import SpanTelemetry.Proofs.Text.Trim

namespace SpanTelemetry.StackTrace

open Text

/-!
# Messages of several lines

Below the calls of a traceback stands the exception: its type, a colon and its message as the program wrote
it, which may go on for several lines. The line that is taken for the one that names the exception is the
last that is not indented. That line may be one of the message, and then it is cut where the program did not
mean to name a type.

* `IsLastUnindented`, `summary_of_isLastUnindented` — the line that is taken.
* `cutAtColon_eq_some_iff`, `cutAtColon_eq_none_iff` — where a line is cut.
* `NamesType`, `splitSummary_fst_eq_iff` — the type that a line names.
* `Raised`, `Raised.lines_text` — calls, and an exception below them with any message.
* `Raised.summary_of_later`, `Raised.summary_of_not_later` — which of its lines is taken.
* `Raised.read_names_last_unindented` — what is read, and when it is the type of the exception.
-/

/-! ### The line that is taken -/

/-- The last line that is neither empty nor indented. -/
def IsLastUnindented (ls : List (List Char)) (line : List Char) : Prop :=
  isUnindented line = true ∧
    ∃ before after, ls = before ++ line :: after ∧ ∀ l ∈ after, isUnindented l = false

/-- Where frames come first, the line that names the exception is the last that is not indented. -/
theorem summary_of_isLastUnindented {ls : List (List Char)} {line : List Char}
    (hheader : framesComeFirst ls = true) (h : IsLastUnindented ls line) : summary ls = line := by
  obtain ⟨hline, before, after, rfl, hafter⟩ := h
  have hfind : (before ++ line :: after).reverse.find? isUnindented = some line := by
    refine List.find?_eq_some_iff_append.2 ⟨hline, after.reverse, before.reverse, by simp, ?_⟩
    intro l hl
    rw [hafter l (List.mem_reverse.1 hl)]
    rfl
  rw [summary, if_pos hheader, hfind, Option.getD_some]

/-- Lines before it change nothing. -/
theorem IsLastUnindented.append {ls : List (List Char)} {line : List Char} (h : IsLastUnindented ls line)
    (earlier : List (List Char)) : IsLastUnindented (earlier ++ ls) line := by
  obtain ⟨hline, before, after, rfl, hafter⟩ := h
  exact ⟨hline, earlier ++ before, after, by rw [List.append_assoc], hafter⟩

/-- There is such a line unless all lines are empty or indented. -/
theorem exists_isLastUnindented {ls : List (List Char)} (h : ∃ line ∈ ls, isUnindented line = true) :
    ∃ line, IsLastUnindented ls line := by
  have hfound : (ls.reverse.find? isUnindented).isSome = true := by
    rw [List.find?_isSome]
    simpa using h
  obtain ⟨line, hline⟩ := Option.isSome_iff_exists.1 hfound
  obtain ⟨hunindented, after, before, hlines, hafter⟩ := List.find?_eq_some_iff_append.1 hline
  have hls := congrArg List.reverse hlines
  simp only [List.reverse_reverse, List.reverse_append, List.reverse_cons, List.append_assoc,
    List.singleton_append] at hls
  exact ⟨line, hunindented, before.reverse, after.reverse, hls, fun l hl =>
    by simpa using hafter l (List.mem_reverse.1 hl)⟩

/-! ### The type that a line names -/

/-- The line names the type before its first colon that a space follows, or as a whole if there is no such
    colon; blanks around the type do not belong to it. -/
def NamesType (line type : List Char) : Prop :=
  (∃ before after, line = before ++ ':' :: ' ' :: after ∧ ¬ [':', ' '] <:+: before ∧
    TrimsTo before type) ∨
  ¬ [':', ' '] <:+: line ∧ TrimsTo line type

/-- There is a first such colon if there is one. -/
theorem exists_before_first_colon {line : List Char} (h : [':', ' '] <:+: line) :
    ∃ before after, line = before ++ ':' :: ' ' :: after ∧ ¬ [':', ' '] <:+: before := by
  -- by induction on the line: the first colon stands at its beginning or is that of the rest
  induction line with
  | nil => simp at h
  | cons c rest ih =>
    by_cases hbegins : [':', ' '] <+: c :: rest
    · obtain ⟨after, hafter⟩ := hbegins
      exact ⟨[], after, hafter.symm, by simp⟩
    · obtain ⟨before, after, rfl, hbefore⟩ := ih ((List.infix_cons_iff.1 h).resolve_left hbegins)
      refine ⟨c :: before, after, rfl, fun hin => ?_⟩
      obtain hstart | hin := List.infix_cons_iff.1 hin
      · exact hbegins (hstart.trans (List.prefix_append (c :: before) _))
      · exact hbefore hin

/-- A line is cut at its first colon with a blank behind it. -/
theorem cutAtColon_eq_some_iff {line before after : List Char} :
    cutAtColon line = some (before, after) ↔
      line = before ++ ':' :: ' ' :: after ∧ ¬ [':', ' '] <:+: before := by
  constructor
  · intro h
    by_cases hcolon : [':', ' '] <:+: line
    · obtain ⟨first, rest, rfl, hfirst⟩ := exists_before_first_colon hcolon
      rw [cutAtColon_append hfirst] at h
      cases h
      exact ⟨rfl, hfirst⟩
    · rw [cutAtColon_of_not_isInfix hcolon] at h
      cases h
  · rintro ⟨rfl, hbefore⟩
    exact cutAtColon_append hbefore after

/-- It is not cut iff there is no such colon. -/
theorem cutAtColon_eq_none_iff {line : List Char} :
    cutAtColon line = none ↔ ¬ [':', ' '] <:+: line := by
  refine ⟨fun h hcolon => ?_, cutAtColon_of_not_isInfix⟩
  obtain ⟨before, after, rfl, hbefore⟩ := exists_before_first_colon hcolon
  cases (cutAtColon_append hbefore after).symm.trans h

/-- **The type that is read from a line** is the one that the line names. -/
theorem splitSummary_fst_eq_iff {line type : List Char} (htype : type ≠ []) :
    (splitSummary line).1 = some (String.ofList type) ↔ NamesType line type := by
  have hnames : NamesType line type ↔
      (∃ before after, cutAtColon line = some (before, after) ∧ trim before = type) ∨
        cutAtColon line = none ∧ trim line = type := by
    simp only [NamesType, cutAtColon_eq_some_iff, cutAtColon_eq_none_iff, trim_eq_iff, and_assoc]
  rw [hnames, splitSummary]
  cases hcut : cutAtColon line with
  | some parts =>
    obtain ⟨before, after⟩ := parts
    simp [String.ofList_inj]
  | none =>
    by_cases hblank : trim line = []
    · simp [hblank, htype.symm]
    · simp [hblank, String.ofList_inj]

/-! ### Exceptions with any message -/

/-- A name: neither a blank nor a colon is in it. -/
def IsName (name : List Char) : Prop := name ≠ [] ∧ ∀ c ∈ name, isBlank c = false ∧ c ≠ ':'

instance (name : List Char) : Decidable (IsName name) :=
  haveI : Decidable (∀ c ∈ name, isBlank c = false ∧ c ≠ ':') := List.decidableBAll _ name
  inferInstanceAs (Decidable (_ ∧ _))

/-- A traceback with an exception as it is written: its type, a colon, a space and its message, which may
    have any number of lines. -/
structure Raised where
  /-- The lines of the calls, with those of their source. -/
  callLines : List (List Char)
  type : List Char
  message : List Char
  withinLine_callLines : ∀ line ∈ callLines, WithinLine line
  isName_type : IsName type

namespace Raised

variable (r : Raised)

/-- Its text. -/
def text : String :=
  String.ofList (joinLines (header :: r.callLines ++ [r.type ++ [':', ' ']]) ++ r.message)

/-- The first line of the message. -/
def firstLine : List Char := (Text.lines r.message).headD []

/-- The later lines of the message. -/
def laterLines : List (List Char) := (Text.lines r.message).tail

/-- The line that names the type. -/
def namingLine : List Char := r.type ++ ':' :: ' ' :: r.firstLine

/-- **Its lines** are a header, those of the calls, the one that names the type, and the later lines of the
    message. -/
theorem lines_text :
    Text.lines r.text.toList = (header :: r.callLines) ++ r.namingLine :: r.laterLines := by
  have hwithin : ∀ line ∈ header :: r.callLines, WithinLine line :=
    List.forall_mem_cons.2 ⟨by decide, r.withinLine_callLines⟩
  have hopening : WithinLine (r.type ++ [':', ' ']) := by
    refine withinLine_append.2 ⟨fun c hc => Bool.eq_false_iff.2 fun hend => ?_, by decide⟩
    exact Bool.eq_false_iff.1 (r.isName_type.2 c hc).1 (isBlank_of_isLineEnd hend)
  rw [text, String.toList_ofList, lines_joinLines_append hwithin,
    lines_append_of_withinLine hopening (by simp), List.append_assoc]
  rfl

/-- The lines of the calls stand in front of those of the message. -/
theorem framesComeFirst_lines : framesComeFirst (Text.lines r.text.toList) = true := by
  have hheader : isHeader header = true := by decide
  rw [lines_text]
  exact hheader

/-- The line that names the type is not indented, because the type does not begin with a blank. -/
theorem isUnindented_namingLine : isUnindented r.namingLine = true := by
  obtain ⟨hne, hname⟩ := r.isName_type
  obtain ⟨c, rest, htype⟩ := List.exists_cons_of_ne_nil hne
  have hblank : isBlank c = false := (hname c (by simp [htype])).1
  simp [namingLine, htype, isUnindented, hblank]

/-- It is cut into the type and the first line of the message. -/
theorem splitSummary_namingLine :
    splitSummary r.namingLine = (some (String.ofList r.type), String.ofList r.firstLine) := by
  obtain ⟨-, hname⟩ := r.isName_type
  have hcolon : ¬ [':', ' '] <:+: r.type := fun hin => (hname ':' (hin.subset (by simp))).2 rfl
  have htrim : trim r.type = r.type := by
    refine trim_eq_iff.2 ⟨[], [], by simp, by simp, by simp, ?_, ?_⟩
    · exact fun c hc => (hname c (List.mem_of_head? hc)).1
    · exact fun c hc => (hname c (List.mem_of_getLast? hc)).1
  simp only [splitSummary, namingLine, cutAtColon_append hcolon, htrim]

/-- The line that is taken for the one that names the exception is the last of the message that is not
    indented, if one of the later ones is not. -/
theorem summary_of_later {line : List Char} (h : IsLastUnindented r.laterLines line) :
    summary (Text.lines r.text.toList) = line := by
  refine summary_of_isLastUnindented r.framesComeFirst_lines ?_
  rw [lines_text, List.append_cons]
  exact h.append _

/-- Otherwise it is the one that names the type. -/
theorem summary_of_not_later (h : ∀ line ∈ r.laterLines, isUnindented line = false) :
    summary (Text.lines r.text.toList) = r.namingLine :=
  summary_of_isLastUnindented r.framesComeFirst_lines
    ⟨r.isUnindented_namingLine, _, _, r.lines_text, h⟩

/-- **The last line that is not indented names the exception.**  So the type that is read of an exception is
    its own iff no later line of its message is taken for the one that names it, or that line names the same
    type. -/
theorem read_names_last_unindented (r : Raised) :
    ((∃ e, read r.text = .error e) ↔ HasLongLineNumber r.text) ∧
    ∀ details, read r.text = .ok details →
      ((∀ line ∈ r.laterLines, isUnindented line = false) →
        details.typeName = some (String.ofList r.type) ∧
          details.message = String.ofList r.firstLine) ∧
      (∀ line, IsLastUnindented r.laterLines line →
        (details.typeName, details.message) = splitSummary line) ∧
      (details.typeName = some (String.ofList r.type) ↔
        ∀ line, IsLastUnindented r.laterLines line → NamesType line r.type) := by
  refine ⟨by simp [read_eq_error_iff], fun details hread => ?_⟩
  have hshort : ¬ HasLongLineNumber r.text := by
    intro hlong
    cases (read_eq_error_iff.2 ⟨hlong, rfl⟩).symm.trans hread
  obtain ⟨parsedStack, -, hdetails⟩ := exists_read hshort
  obtain rfl := Except.ok.inj (hread.symm.trans hdetails)
  have hown (h : ∀ line ∈ r.laterLines, isUnindented line = false) :
      splitSummary (summary (Text.lines r.text.toList)) =
        (some (String.ofList r.type), String.ofList r.firstLine) := by
    rw [r.summary_of_not_later h, r.splitSummary_namingLine]
  have hlater (line : List Char) (h : IsLastUnindented r.laterLines line) :
      splitSummary (summary (Text.lines r.text.toList)) = splitSummary line := by
    rw [r.summary_of_later h]
  -- only what the line is cut into matters from here on
  generalize splitSummary (summary (Text.lines r.text.toList)) = named at hown hlater ⊢
  obtain ⟨hne, -⟩ := r.isName_type
  refine ⟨fun h => Prod.ext_iff.1 (hown h), fun line h => hlater line h, fun htype line h => ?_,
    fun hnames => ?_⟩
  · rwa [hlater line h, splitSummary_fst_eq_iff hne] at htype
  · by_cases hindented : ∀ line ∈ r.laterLines, isUnindented line = false
    · exact congrArg Prod.fst (hown hindented)
    · obtain ⟨line, hline⟩ := exists_isLastUnindented (by simpa using hindented)
      rw [hlater line hline]
      exact (splitSummary_fst_eq_iff hne).2 (hnames line hline)

/-- An exception whose message has a second line. -/
def exampleTwoLines : Raised where
  callLines := ["  File \"a.py\", line 1, in run".toList]
  type := "ValueError".toList
  message := "first line\nsecond line".toList
  withinLine_callLines := by decide +kernel
  isName_type := by decide +kernel

theorem isLastUnindented_twoLines :
    IsLastUnindented exampleTwoLines.laterLines "second line".toList :=
  ⟨by decide +kernel, [], [], by decide +kernel, by simp⟩

/-- The second line is read as its type. -/
theorem read_names_last_unindented_twoLines :
    ∃ details, read exampleTwoLines.text = .ok details ∧
      details.typeName = some "second line" ∧ details.message = "" := by
  have hshort : ¬ HasLongLineNumber exampleTwoLines.text := by
    rw [hasLongLineNumber_iff]
    decide +kernel
  obtain ⟨parsedStack, -, hread⟩ := exists_read hshort
  obtain ⟨-, hlater, -⟩ := exampleTwoLines.read_names_last_unindented.2 _ hread
  have hsplit : splitSummary "second line".toList = (some "second line", "") := by decide +kernel
  have hnamed := (hlater _ isLastUnindented_twoLines).trans hsplit
  exact ⟨_, hread, Prod.mk.inj hnamed⟩

/-- The type of an exception is not always read. -/
theorem type_not_always_read :
    ¬ ∀ r : Raised, ∃ details, read r.text = .ok details ∧
      details.typeName = some (String.ofList r.type) := by
  intro halways
  obtain ⟨details, hread, htype⟩ := halways exampleTwoLines
  have hnamed : (read exampleTwoLines.text).toOption.map (·.typeName) = some (some "second line") := by
    decide +kernel
  rw [hread] at hnamed
  have hsame := (Option.some.inj hnamed).symm.trans htype
  exact absurd (Option.some.inj hsame) (by decide +kernel)

end Raised

end SpanTelemetry.StackTrace
