import SpanTelemetry.Proofs.StackTrace.Summary

namespace SpanTelemetry.StackTrace

open Text

/-!
# Tracebacks are read back

A chain of tracebacks is written down and read again: what is found is the exception that was raised last,
with the calls of its own traceback.

* `ShownCall`, `Traceback`, `Chain` — calls with lines of their source, tracebacks, and tracebacks with
  other lines between them; what is said of their texts is what makes them readable.
* `Chain.text` — the text of a chain.
* `summary_lines`, `splitSummary_summaryLine` — the last line names the exception.
* `isHeader_summaryLine_iff` — when this line could be taken for a header.
* `frameLines_lines` — the calls that are found are those behind the last header.
* `read_chain` — what is read of a chain.
-/

/-! ### Calls -/

/-- A call as a traceback shows it. Below it stand lines of its source, if they are known. -/
structure ShownCall where
  file : List Char
  line : Nat
  method : List Char
  below : List (List Char) := []
  file_ne_nil : file ≠ []
  quote_not_mem_file : '"' ∉ file
  withinLine_file : WithinLine file
  line_lt : line < 10 ^ maxLineDigits
  method_ne_nil : method ≠ []
  withinLine_method : WithinLine method
  withinLine_below : ∀ l ∈ below, WithinLine l
  isIndented_below : ∀ l ∈ below, IsIndented l
  not_describes_below : ∀ l ∈ below, ∀ f, ¬ Describes l f

namespace ShownCall

variable (c : ShownCall)

/-- What its line says. -/
def frameLine : FrameLine := ⟨c.file, decimal c.line, c.method⟩

/-- Its lines. -/
def lines : List (List Char) := (' ' :: ' ' :: c.frameLine.text) :: c.below

/-- The call at a level of the stack. -/
def frame (level : Nat) : StackFrame where
  level
  method := String.ofList c.method
  fileName := some (String.ofList c.file)
  line := some (c.line : Int)

/-- The first line of a call is a line of a frame. -/
theorem describes_frameLine : Describes (' ' :: ' ' :: c.frameLine.text) c.frameLine where
  left := {
    file_ne_nil := c.file_ne_nil
    quote_not_mem_file := c.quote_not_mem_file
    lineDigits_ne_nil := decimal_ne_nil c.line
    isSome_decimalDigit? := fun _ => isSome_decimalDigit?_of_mem_decimal
    method_ne_nil := c.method_ne_nil }
  right := ⟨[' ', ' '], by simp [show isBlank ' ' = true by decide], rfl⟩

/-- The lines of a call are indented. -/
theorem isIndented_lines {l : List Char} (hl : l ∈ c.lines) : IsIndented l := by
  rcases List.mem_cons.1 hl with rfl | hl
  · exact ⟨' ', rfl, by decide⟩
  · exact c.isIndented_below l hl

theorem withinLine_lines {l : List Char} (hl : l ∈ c.lines) : WithinLine l := by
  rcases List.mem_cons.1 hl with rfl | hl
  · -- what stands around the file, the line number and the method holds no line end either
    refine withinLine_cons.2 ⟨by decide, withinLine_cons.2 ⟨by decide, ?_⟩⟩
    refine withinLine_append.2 ⟨by decide, withinLine_append.2 ⟨c.withinLine_file, ?_⟩⟩
    refine withinLine_cons.2 ⟨by decide, withinLine_append.2 ⟨by decide, ?_⟩⟩
    refine withinLine_append.2 ⟨withinLine_decimal c.line, ?_⟩
    exact withinLine_append.2 ⟨by decide, c.withinLine_method⟩
  · exact c.withinLine_below l hl

/-- In the lines of a call there is only this call. -/
theorem filterMap_lines : c.lines.filterMap frame? = [c.frameLine] := by
  have hbelow : c.below.filterMap frame? = [] :=
    List.filterMap_eq_nil_iff.2 fun l hl => frame?_eq_none_iff.2 (c.not_describes_below l hl)
  rw [lines, List.filterMap_cons_some (frame?_eq_some_iff.2 c.describes_frameLine), hbelow]

end ShownCall

/-! ### Tracebacks -/

/-- A traceback: calls, the innermost one last, and the exception that ended them. -/
structure Traceback where
  calls : List ShownCall
  type : List Char
  message : List Char
  type_ne_nil : type ≠ []
  trim_type : trim type = type
  quote_not_mem_type : '"' ∉ type
  colon_not_infix_type : ¬ [':', ' '] <:+: type
  header_not_prefix_type : ¬ header <+: type
  withinLine_type : WithinLine type
  withinLine_message : WithinLine message

namespace Traceback

variable (t : Traceback)

/-- The line that names the exception. -/
def summaryLine : List Char :=
  if t.message = [] then t.type else t.type ++ ':' :: ' ' :: t.message

/-- The lines of its calls. -/
def callLines : List (List Char) := t.calls.flatMap ShownCall.lines

/-- Its lines. -/
def lines : List (List Char) := header :: (t.callLines ++ [t.summaryLine])

/-- Its calls from the innermost one outwards, numbered from 0 on. -/
def frames : List StackFrame := t.calls.reverse.zipIdx.map fun (c, level) => c.frame level

/-- The line that names the exception begins as a header does. -/
def LooksLikeHeader : Prop := t.type ++ [':'] = header ∧ t.message ≠ []

instance : Decidable t.LooksLikeHeader := inferInstanceAs (Decidable (_ ∧ _))

/-- The type stands at the beginning of the line. -/
theorem exists_summaryLine : ∃ rest, t.summaryLine = t.type ++ rest := by
  unfold summaryLine
  split
  · exact ⟨[], (List.append_nil _).symm⟩
  · exact ⟨_, rfl⟩

theorem summaryLine_ne_nil : t.summaryLine ≠ [] := by
  obtain ⟨rest, hrest⟩ := t.exists_summaryLine
  simp [hrest, t.type_ne_nil]

/-- It does not begin with a blank, because the type does not. -/
theorem isUnindented_summaryLine : isUnindented t.summaryLine = true := by
  obtain ⟨rest, hrest⟩ := t.exists_summaryLine
  obtain ⟨c, text, htype⟩ := List.exists_cons_of_ne_nil t.type_ne_nil
  have hblank : isBlank c = false := isBlank_of_trim_eq (htype ▸ t.trim_type)
  rw [hrest, htype]
  simp [isUnindented, hblank]

/-- **The line that names the exception** is cut into its type and its message. -/
theorem splitSummary_summaryLine :
    splitSummary t.summaryLine = (some (String.ofList t.type), String.ofList t.message) := by
  unfold summaryLine
  split
  · rename_i hmessage
    simp [splitSummary, cutAtColon_of_not_isInfix t.colon_not_infix_type, t.trim_type, t.type_ne_nil,
      hmessage]
  · simp [splitSummary, cutAtColon_append t.colon_not_infix_type, t.trim_type]

/-- What the line that names the exception begins with is within the type, or reaches the colon. -/
theorem prefix_summaryLine {start : List Char} (h : start <+: t.summaryLine) :
    start <+: t.type ∨ t.message ≠ [] ∧ ∃ more, start = t.type ++ ':' :: more := by
  obtain ⟨rest, hrest⟩ := h
  unfold summaryLine at hrest
  split at hrest
  · exact Or.inl ⟨rest, hrest⟩
  · rename_i hmessage
    rcases List.append_eq_append_iff.1 hrest with ⟨more, htype, -⟩ | ⟨more, hstart, hmore⟩
    · exact Or.inl ⟨more, htype.symm⟩
    · cases more with
      | nil => exact Or.inl ⟨[], by rw [hstart, List.append_nil, List.append_nil]⟩
      | cons c more =>
        obtain ⟨rfl, -⟩ := List.cons.inj hmore
        exact Or.inr ⟨hmessage, more, hstart⟩

/-- **When the line that names the exception could be taken for a header**: only a colon is missing to its
    type, and the message brings it. -/
theorem isHeader_summaryLine_iff : isHeader t.summaryLine = true ↔ t.LooksLikeHeader := by
  rw [isHeader, beginsWith_eq_true_iff]
  constructor
  · intro h
    rcases t.prefix_summaryLine h with htype | ⟨hmessage, more, hheader⟩
    · exact absurd htype t.header_not_prefix_type
    · -- the only colon of a header is its last character
      have hcolon : ':' ∉ header.dropLast := by decide
      cases more with
      | nil => exact ⟨hheader.symm, hmessage⟩
      | cons c more =>
        rw [hheader, List.dropLast_append_of_ne_nil (by simp)] at hcolon
        simp at hcolon
  · rintro ⟨hheader, hmessage⟩
    rw [summaryLine, if_neg hmessage]
    exact ⟨' ' :: t.message, by rw [← hheader, List.append_assoc]; rfl⟩

/-- This line describes no call: there is no quotation mark before its first colon. -/
theorem frame?_summaryLine : frame? t.summaryLine = none := by
  refine frame?_eq_none_iff.2 ?_
  rintro f ⟨-, indent, hindent, hline⟩
  have hunindented := t.isUnindented_summaryLine
  cases indent with
  | cons c indent => simp [hline, isUnindented, hindent c] at hunindented
  | nil =>
    have hbegins : "File \"".toList <+: t.summaryLine := ⟨_, hline.symm⟩
    rcases t.prefix_summaryLine hbegins with htype | ⟨-, more, hopening⟩
    · exact t.quote_not_mem_type (htype.subset (by decide))
    · have hcolon : ':' ∉ "File \"".toList := by decide
      exact hcolon (by simp [hopening])

/-- No line of its calls is a header. -/
theorem isHeader_callLines {l : List Char} (hl : l ∈ t.callLines) : isHeader l = false := by
  obtain ⟨c, -, hc⟩ := List.mem_flatMap.1 hl
  exact isHeader_of_isIndented (c.isIndented_lines hc)

/-- In the lines of its calls there are its calls. -/
theorem filterMap_callLines : t.callLines.filterMap frame? = t.calls.map ShownCall.frameLine := by
  rw [callLines, List.filterMap_flatMap]
  simp only [ShownCall.filterMap_lines]
  exact List.map_eq_flatMap.symm

/-- Behind its first line there is no header, unless the last one looks like one. -/
theorem not_header_of_mem_tail (hlooks : ¬ t.LooksLikeHeader) {l : List Char} (hl : l ∈ t.lines.tail) :
    ¬ header <+: l := by
  rw [← beginsWith_eq_true_iff, Bool.not_eq_true]
  rcases List.mem_append.1 hl with hl | hl
  · exact t.isHeader_callLines hl
  · obtain rfl := List.mem_singleton.1 hl
    exact Bool.eq_false_iff.2 (mt t.isHeader_summaryLine_iff.1 hlooks)

/-- Its lines show its calls. -/
theorem shows_lines : Shows t.lines (t.calls.map ShownCall.frameLine) := by
  have hheader : frame? header = none := frame?_eq_none_iff.2 (not_describes_of_header List.prefix_rfl)
  rw [shows_iff, lines, List.filterMap_cons_none hheader, List.filterMap_append, t.filterMap_callLines,
    List.filterMap_cons_none t.frame?_summaryLine, List.filterMap_nil, List.append_nil]

theorem withinLine_lines {l : List Char} (hl : l ∈ t.lines) : WithinLine l := by
  rcases List.mem_cons.1 hl with rfl | hl
  · decide
  rcases List.mem_append.1 hl with hl | hl
  · obtain ⟨c, -, hc⟩ := List.mem_flatMap.1 hl
    exact c.withinLine_lines hc
  · obtain rfl := List.mem_singleton.1 hl
    unfold summaryLine
    split
    · exact t.withinLine_type
    · simp only [withinLine_append, withinLine_cons]
      exact ⟨t.withinLine_type, by decide, by decide, t.withinLine_message⟩

/-- Its calls can be read, because their line numbers are short enough. -/
theorem mapM_read? :
    (t.calls.reverse.map ShownCall.frameLine).zipIdx.mapM (fun (f, level) => f.read? level) =
      some t.frames := by
  have hread : (fun (f, level) => FrameLine.read? f level) ∘ Prod.map ShownCall.frameLine id =
      fun e => pure (e.1.frame e.2) :=
    funext fun e => FrameLine.read?_decimal e.1.file e.1.method e.1.line_lt e.2
  rw [List.zipIdx_map, List.mapM_map, hread, List.mapM_pure]
  rfl

end Traceback

/-! ### Chains of tracebacks -/

/-- Tracebacks, the one that was raised last at the end. Behind each of the others stand lines that lead
    on to the next: blank ones, and a sentence on what the two have to do with each other. -/
structure Chain where
  earlier : List (Traceback × List (List Char)) := []
  last : Traceback
  withinLine_earlier : ∀ e ∈ earlier, ∀ l ∈ e.2, WithinLine l

namespace Chain

variable (chain : Chain)

/-- The lines before the last traceback. -/
def earlierLines : List (List Char) := chain.earlier.flatMap fun e => e.1.lines ++ e.2

/-- Its lines. -/
def lines : List (List Char) := chain.earlierLines ++ chain.last.lines

/-- Its text, with a line feed at the end or without. -/
def text (endsWithLineFeed : Bool) : String :=
  String.ofList (joinLines chain.lines ++ if endsWithLineFeed then ['\n'] else [])

/-- The lines before the one that names the exception. -/
def linesBefore : List (List Char) :=
  chain.earlierLines ++ header :: chain.last.callLines

/-- The last line of a chain is the summary of its last traceback. -/
theorem lines_eq : chain.lines = chain.linesBefore ++ [chain.last.summaryLine] := by
  simp [lines, linesBefore, Traceback.lines]

/-- The lines are found in the text. -/
theorem lines_text (endsWithLineFeed : Bool) :
    Text.lines (chain.text endsWithLineFeed).toList = chain.lines := by
  rw [text, String.toList_ofList, lines_eq]
  refine lines_joinLines (fun l hl => ?_) chain.last.summaryLine_ne_nil endsWithLineFeed
  rw [← lines_eq, lines, earlierLines] at hl
  rcases List.mem_append.1 hl with hl | hl
  · obtain ⟨e, he, hl⟩ := List.mem_flatMap.1 hl
    exact (List.mem_append.1 hl).elim e.1.withinLine_lines (chain.withinLine_earlier e he l)
  · exact chain.last.withinLine_lines hl

/-- The first line is a header. -/
theorem framesComeFirst_lines : framesComeFirst chain.lines = true := by
  have hheader : isHeader header = true := by decide
  unfold lines earlierLines
  cases chain.earlier with
  | nil => exact hheader
  | cons e earlier => exact hheader

/-- The line that names the exception is the last one. -/
theorem summary_lines : summary chain.lines = chain.last.summaryLine :=
  summary_of_isLastUnindented chain.framesComeFirst_lines
    ⟨chain.last.isUnindented_summaryLine, chain.linesBefore, [], chain.lines_eq, by simp⟩

/-- **The calls that are found** are those of the last traceback, unless the line behind them looks like
    a header. -/
theorem frameLines_lines :
    frameLines chain.lines =
      if chain.last.LooksLikeHeader then []
      else chain.last.calls.reverse.map ShownCall.frameLine := by
  have hstarts : StartsWithHeader chain.lines :=
    framesComeFirst_eq_true_iff.1 chain.framesComeFirst_lines
  by_cases hlooks : chain.last.LooksLikeHeader
  · -- the line that names the exception is the last header then, and no call stands behind it
    have hheader : header <+: chain.last.summaryLine :=
      beginsWith_eq_true_iff.1 (chain.last.isHeader_summaryLine_iff.2 hlooks)
    have hlast : IsLastTraceback chain.lines chain.linesBefore [chain.last.summaryLine] :=
      ⟨chain.lines_eq, ⟨_, rfl, hheader⟩, by simp⟩
    have hshows : Shows [chain.last.summaryLine] [] := .other (not_describes_of_header hheader) .nil
    rw [if_pos hlooks, frameLines_of_isLastTraceback hstarts hlast hshows, List.reverse_nil]
  · have hlast : IsLastTraceback chain.lines chain.earlierLines chain.last.lines :=
      ⟨rfl, ⟨header, rfl, List.prefix_rfl⟩, fun l hl => chain.last.not_header_of_mem_tail hlooks hl⟩
    rw [if_neg hlooks, frameLines_of_isLastTraceback hstarts hlast chain.last.shows_lines,
      List.map_reverse]

/-! ### Reading -/

/-- **What is read of a chain of tracebacks** is the exception that was raised last, with its type, its
    message and the whole text, and with the calls of its own traceback, the innermost one first.  Only
    where the line that names it looks like a header are its calls not found. -/
theorem read_chain (chain : Chain) (endsWithLineFeed : Bool) :
    read (chain.text endsWithLineFeed) = .ok {
      typeName := some (String.ofList chain.last.type)
      message := String.ofList chain.last.message
      hasFullStack := true
      stack := some (chain.text endsWithLineFeed)
      parsedStack := if chain.last.LooksLikeHeader then [] else chain.last.frames } := by
  have hframes : (frameLines chain.lines).zipIdx.mapM (fun (f, level) => f.read? level) =
      some (if chain.last.LooksLikeHeader then [] else chain.last.frames) := by
    rw [chain.frameLines_lines]
    split
    · rfl
    · exact chain.last.mapM_read?
  simp only [read, chain.lines_text, chain.summary_lines, chain.last.splitSummary_summaryLine, hframes]

/-- A call in a file of the example tracebacks. -/
def exampleShownCall (line : Nat) (hline : line < 10 ^ maxLineDigits) : ShownCall where
  file := "shop.py".toList
  line := line
  method := "pay".toList
  file_ne_nil := by decide
  quote_not_mem_file := by decide
  withinLine_file := by decide
  line_lt := hline
  method_ne_nil := by decide
  withinLine_method := by decide
  withinLine_below := by simp
  isIndented_below := by simp
  not_describes_below := by simp

theorem lt_maxLineDigits {line : Nat} (h : line < 10 ^ 2) : line < 10 ^ maxLineDigits :=
  Nat.lt_of_lt_of_le h (Nat.pow_le_pow_right (by decide) (by decide))

/-- A lookup that failed. -/
def exampleCause : Traceback where
  calls := [exampleShownCall 7 (lt_maxLineDigits (by decide))]
  type := "KeyError".toList
  message := "'cart'".toList
  type_ne_nil := by decide
  trim_type := by decide
  quote_not_mem_type := by decide
  colon_not_infix_type := by decide +kernel
  header_not_prefix_type := by decide
  withinLine_type := by decide
  withinLine_message := by decide

/-- What it came to, two calls further out. -/
def exampleEffect : Traceback where
  calls := [exampleShownCall 31 (lt_maxLineDigits (by decide)),
    exampleShownCall 12 (lt_maxLineDigits (by decide))]
  type := "shop.PaymentError".toList
  message := "no cart: 17".toList
  type_ne_nil := by decide
  trim_type := by decide
  quote_not_mem_type := by decide
  colon_not_infix_type := by decide +kernel
  header_not_prefix_type := by decide
  withinLine_type := by decide
  withinLine_message := by decide

/-- The two of them, with the sentence between them. -/
def exampleChain : Chain where
  earlier := [(exampleCause,
    [[], "During handling of the above exception, another exception occurred:".toList, []])]
  last := exampleEffect
  withinLine_earlier := by decide +kernel

/-- The exception that was raised last is read, with the two calls of its own traceback. -/
theorem read_chain_two :
    ¬ exampleChain.last.LooksLikeHeader ∧
      ∃ details, read (exampleChain.text true) = .ok details ∧
        details.typeName = some "shop.PaymentError" ∧ details.message = "no cart: 17" ∧
        details.parsedStack = [
          { level := 0, method := "pay", fileName := some "shop.py", line := some 12 },
          { level := 1, method := "pay", fileName := some "shop.py", line := some 31 }] := by
  have hlooks : ¬ exampleChain.last.LooksLikeHeader := by decide +kernel
  have hframes : exampleChain.last.frames = [
      { level := 0, method := "pay", fileName := some "shop.py", line := some 12 },
      { level := 1, method := "pay", fileName := some "shop.py", line := some 31 }] := by
    decide +kernel
  refine ⟨hlooks, _, read_chain exampleChain true, by decide +kernel, by decide +kernel, ?_⟩
  rw [if_neg hlooks, hframes]

/-- A traceback with one call whose exception is called like a header without its colon. -/
def exampleLookalike : Traceback where
  calls := [exampleShownCall 1 (lt_maxLineDigits (by decide))]
  type := "Traceback (most recent call last)".toList
  message := "boom".toList
  type_ne_nil := by decide
  trim_type := by decide
  quote_not_mem_type := by decide
  colon_not_infix_type := by decide +kernel
  header_not_prefix_type := by decide
  withinLine_type := by decide
  withinLine_message := by decide

/-- The calls of a chain are not always found: behind such a line none are left. -/
theorem frames_not_always_read :
    ¬ ∀ (chain : Chain) (endsWithLineFeed : Bool),
      read (chain.text endsWithLineFeed) = .ok {
        typeName := some (String.ofList chain.last.type)
        message := String.ofList chain.last.message
        hasFullStack := true
        stack := some (chain.text endsWithLineFeed)
        parsedStack := chain.last.frames } := by
  intro halways
  have hread := halways ⟨[], exampleLookalike, nofun⟩ false
  have hlost : (read (text ⟨[], exampleLookalike, nofun⟩ false)).toOption.map
      (·.parsedStack.length) = some 0 := by decide +kernel
  rw [hread] at hlost
  have hframes : exampleLookalike.frames.length = 1 := by decide +kernel
  simp [Except.toOption, hframes] at hlost

end Chain

end SpanTelemetry.StackTrace
