import SpanTelemetry.Proofs.StackTrace.Line
import SpanTelemetry.Proofs.Traversal

namespace SpanTelemetry.StackTrace

open Text

/-!
# What is read of any text

Nothing is known of the text of a stack trace: it comes from the application. Whatever it is, it is read as
one exception, unless a line number in its last traceback is too long.

* `StartsWithHeader`, `IsLastTraceback` — the lines from the last header on.
* `exists_isLastTraceback`, `frameLines_of_isLastTraceback` — they are there, and the calls are theirs.
* `Shows` — the calls that some lines describe, in their order.
* `FrameLine.read?_eq_none_iff`, `FrameLine.read?_eq_some_iff` — which calls can be read.
* `HasLongLineNumber`, `read_eq_error_iff`, `exists_read` — which texts can be read.
* `read_any_text` — what is read of a text.
-/

/-! ### The last traceback -/

/-- The first line begins with a header. -/
def StartsWithHeader (ls : List (List Char)) : Prop := ∃ first ∈ ls.head?, header <+: first

/-- The lines from the last one on that begins with a header. -/
structure IsLastTraceback (ls before part : List (List Char)) : Prop where
  lines_eq : ls = before ++ part
  startsWithHeader : StartsWithHeader part
  not_header : ∀ line ∈ part.tail, ¬ header <+: line

theorem framesComeFirst_eq_true_iff {ls : List (List Char)} :
    framesComeFirst ls = true ↔ StartsWithHeader ls := by
  cases ls with
  | nil => simp [framesComeFirst, StartsWithHeader]
  | cons first rest => simp [framesComeFirst, StartsWithHeader, isHeader, beginsWith_eq_true_iff]

theorem StartsWithHeader.exists_mem {ls : List (List Char)} (h : StartsWithHeader ls) :
    ∃ line ∈ ls, header <+: line := by
  obtain ⟨first, hfirst, hheader⟩ := h
  exact ⟨first, List.mem_of_head? hfirst, hheader⟩

/-- Where some line begins with a header, there is a last one that does. -/
theorem exists_isLastTraceback {ls : List (List Char)} (h : ∃ line ∈ ls, header <+: line) :
    ∃ before part, IsLastTraceback ls before part := by
  -- by induction on the lines: the first one is the last header only if there is none behind it
  induction ls with
  | nil => simp at h
  | cons first rest ih =>
    by_cases hlater : ∃ line ∈ rest, header <+: line
    · obtain ⟨before, part, hpart⟩ := ih hlater
      exact ⟨first :: before, part, congrArg _ hpart.lines_eq, hpart.startsWithHeader, hpart.not_header⟩
    · obtain ⟨line, hline, hheader⟩ := h
      obtain rfl | hline := List.mem_cons.1 hline
      · exact ⟨[], line :: rest, rfl, ⟨line, rfl, hheader⟩, fun later hmem hlines =>
          hlater ⟨later, hmem, hlines⟩⟩
      · exact absurd ⟨line, hline, hheader⟩ hlater

/-- A line that begins with a header describes no call. -/
theorem not_describes_of_header {line : List Char} (h : header <+: line) (f : FrameLine) :
    ¬ Describes line f := by
  rintro ⟨-, indent, hindent, rfl⟩
  cases indent with
  | nil =>
    have hfile : "File \"".toList <+: [] ++ f.text := List.prefix_append ..
    -- neither of the two texts that the line would begin with begins with the other
    rcases List.prefix_or_prefix_of_prefix h hfile with hstart | hstart
    · exact absurd hstart (by decide)
    · exact absurd hstart (by decide)
  | cons c indent =>
    have hindented : IsIndented (c :: indent ++ f.text) := ⟨c, rfl, hindent c (by simp)⟩
    have hheader : isHeader (c :: indent ++ f.text) = true := beginsWith_eq_true_iff.2 h
    cases hheader.symm.trans (isHeader_of_isIndented hindented)

/-! ### Calls -/

/-- The calls that some lines describe, in their order: one for each line that describes a call. -/
inductive Shows : List (List Char) → List FrameLine → Prop
  | nil : Shows [] []
  | call {line : List Char} {f : FrameLine} {ls : List (List Char)} {calls : List FrameLine}
      (described : Describes line f) (others : Shows ls calls) : Shows (line :: ls) (f :: calls)
  | other {line : List Char} {ls : List (List Char)} {calls : List FrameLine}
      (not_described : ∀ f, ¬ Describes line f) (others : Shows ls calls) : Shows (line :: ls) calls

/-- The calls that are found in the lines are those that the lines show. -/
theorem shows_iff {ls : List (List Char)} {calls : List FrameLine} :
    Shows ls calls ↔ ls.filterMap frame? = calls := by
  constructor
  · intro h
    induction h with
    | nil => rfl
    | call described _ ih => rw [List.filterMap_cons_some (frame?_eq_some_iff.2 described), ih]
    | other not_described _ ih => rw [List.filterMap_cons_none (frame?_eq_none_iff.2 not_described), ih]
  · rintro rfl
    induction ls with
    | nil => exact .nil
    | cons line ls ih =>
      cases hfound : frame? line with
      | none =>
        rw [List.filterMap_cons_none hfound]
        exact .other (frame?_eq_none_iff.1 hfound) ih
      | some f =>
        rw [List.filterMap_cons_some hfound]
        exact .call (frame?_eq_some_iff.1 hfound) ih

theorem Shows.mem_iff {ls : List (List Char)} {calls : List FrameLine} (h : Shows ls calls)
    {f : FrameLine} : f ∈ calls ↔ ∃ line ∈ ls, Describes line f := by
  rw [← shows_iff.1 h]
  simp only [List.mem_filterMap, frame?_eq_some_iff]

section LastTraceback

variable {ls before part : List (List Char)}

/-- **The calls that are found** are those of the last traceback, from the innermost one outwards. -/
theorem frameLines_of_isLastTraceback (h : StartsWithHeader ls) (hlast : IsLastTraceback ls before part)
    {calls : List FrameLine} (hcalls : Shows part calls) : frameLines ls = calls.reverse := by
  obtain ⟨first, hfirst, hheader⟩ := hlast.startsWithHeader
  obtain ⟨rest, rfl⟩ := List.head?_eq_some_iff.1 hfirst
  -- from the end, the lines are gone through up to the last header, which shows no call itself
  have hlines : ls.reverse = rest.reverse ++ first :: before.reverse := by
    rw [hlast.lines_eq, List.reverse_append, List.reverse_cons, List.append_assoc, List.singleton_append]
  have hrest : ∀ line ∈ rest.reverse, (!isHeader line) = true := by
    intro line hline
    rw [Bool.not_eq_true', ← Bool.not_eq_true, isHeader, beginsWith_eq_true_iff]
    exact hlast.not_header line (List.mem_reverse.1 hline)
  have hstop : (first :: before.reverse).takeWhile (fun line => !isHeader line) = [] :=
    List.takeWhile_cons_of_neg (by simp [isHeader, beginsWith_eq_true_iff.2 hheader])
  have hnone : frame? first = none := frame?_eq_none_iff.2 (not_describes_of_header hheader)
  rw [frameLines, if_pos (framesComeFirst_eq_true_iff.2 h), hlines, List.takeWhile_append_of_pos hrest,
    hstop, List.append_nil, List.filterMap_reverse, ← shows_iff.1 hcalls,
    List.filterMap_cons_none hnone]

/-- Elsewhere no calls are found. -/
theorem frameLines_of_not_startsWithHeader (h : ¬ StartsWithHeader ls) : frameLines ls = [] := by
  rw [frameLines, if_neg (mt framesComeFirst_eq_true_iff.1 h)]

end LastTraceback

/-! ### Line numbers -/

section Read

variable {f : FrameLine} (level : Nat)

/-- **The calls that can be read** are those of which the line number is not too long. -/
theorem FrameLine.read?_eq_none_iff (h : f.IsDescribable) :
    f.read? level = none ↔ maxLineDigits < f.lineDigits.length := by
  obtain ⟨n, hn⟩ := exists_readDecimal? h.lineDigits_ne_nil h.isSome_decimalDigit?
  rw [read?, hn]
  split
  · rename_i hshort
    simp [hshort]
  · rename_i hlong
    simp [Nat.lt_of_not_le hlong]

/-- What is read of them. -/
theorem FrameLine.read?_eq_some_iff {frame : StackFrame} :
    f.read? level = some frame ↔
      f.lineDigits.length ≤ maxLineDigits ∧ ∃ n : Nat, readDecimal? f.lineDigits = some n ∧
        frame = { level, method := String.ofList f.method, fileName := some (String.ofList f.file),
                  line := some (n : Int) } := by
  rw [read?]
  split
  · rename_i hshort
    cases readDecimal? f.lineDigits with
    | none => simp
    | some n => simp [hshort, eq_comm]
  · rename_i hlong
    simp [hlong]

end Read

/-! ### Stacks -/

section Stack

variable {calls : List FrameLine}

/-- The calls of a stack can be read as a whole unless the line number of one of them is too long. -/
theorem mapM_read?_eq_none_iff (h : ∀ f ∈ calls, f.IsDescribable) :
    (calls.zipIdx.mapM fun (f, level) => f.read? level) = none ↔
      ∃ f ∈ calls, maxLineDigits < f.lineDigits.length := by
  rw [mapM_eq_none_iff]
  constructor
  · rintro ⟨⟨f, level⟩, hmem, hnone⟩
    have hf : f ∈ calls := List.fst_mem_of_mem_zipIdx hmem
    exact ⟨f, hf, (FrameLine.read?_eq_none_iff level (h f hf)).1 hnone⟩
  · rintro ⟨f, hf, hlong⟩
    obtain ⟨level, hlevel⟩ := List.mem_iff_getElem?.1 hf
    refine ⟨(f, level), List.mk_mem_zipIdx_iff_getElem?.2 hlevel, ?_⟩
    exact (FrameLine.read?_eq_none_iff level (h f hf)).2 hlong

/-- Each level of the stack is the call that stands there. -/
theorem getElem?_of_mapM_read? {frames : List StackFrame}
    (h : (calls.zipIdx.mapM fun (f, level) => f.read? level) = some frames) (level : Nat) :
    (frames[level]?).map some = (calls[level]?).map fun f => f.read? level := by
  have hlevel := congrArg (·[level]?) (mapM_eq_some_iff.1 h)
  simpa [List.getElem?_map, List.getElem?_zipIdx, Function.comp_def] using hlevel.symm

end Stack

/-! ### Any text -/

/-- A line number in the last traceback of a text is too long. -/
def HasLongLineNumber (text : String) : Prop :=
  StartsWithHeader (Text.lines text.toList) ∧
    ∃ before part, IsLastTraceback (Text.lines text.toList) before part ∧
      ∃ line ∈ part, ∃ f, Describes line f ∧ 4300 < f.lineDigits.length

section AnyText

variable {text : String}

/-- The calls that are found in a text are such as a line can describe. -/
theorem isDescribable_of_mem_frameLines {ls : List (List Char)} {f : FrameLine}
    (h : f ∈ frameLines ls) : f.IsDescribable := by
  unfold frameLines at h
  split at h
  · obtain ⟨line, -, hline⟩ := List.mem_filterMap.1 h
    exact (frame?_eq_some_iff.1 hline).1
  · cases h

/-- A line number is too long iff it is that of a call that is found. -/
theorem hasLongLineNumber_iff :
    HasLongLineNumber text ↔
      ∃ f ∈ frameLines (Text.lines text.toList), maxLineDigits < f.lineDigits.length := by
  unfold HasLongLineNumber
  by_cases hstarts : StartsWithHeader (Text.lines text.toList)
  · -- whichever lines are named as the last traceback, the calls that are found are those in them
    have hmem : ∀ {before part}, IsLastTraceback (Text.lines text.toList) before part → ∀ f,
        f ∈ frameLines (Text.lines text.toList) ↔ ∃ line ∈ part, Describes line f := by
      intro before part hlast f
      have hshows : Shows part (part.filterMap frame?) := shows_iff.2 rfl
      rw [frameLines_of_isLastTraceback hstarts hlast hshows, List.mem_reverse, hshows.mem_iff]
    constructor
    · rintro ⟨-, before, part, hlast, line, hline, f, hf, hlong⟩
      exact ⟨f, (hmem hlast f).2 ⟨line, hline, hf⟩, hlong⟩
    · rintro ⟨f, hf, hlong⟩
      obtain ⟨before, part, hlast⟩ := exists_isLastTraceback hstarts.exists_mem
      obtain ⟨line, hline, hdescribes⟩ := (hmem hlast f).1 hf
      exact ⟨hstarts, before, part, hlast, line, hline, f, hdescribes, hlong⟩
  · simp [hstarts, frameLines_of_not_startsWithHeader hstarts]

/-- **Why a text cannot be read.** -/
theorem read_eq_error_iff {e : MappingError} :
    read text = .error e ↔ HasLongLineNumber text ∧ e = .lineNumberTooLong := by
  rw [hasLongLineNumber_iff,
    ← mapM_read?_eq_none_iff fun f hf => isDescribable_of_mem_frameLines hf]
  cases hframes : (frameLines (Text.lines text.toList)).zipIdx.mapM fun (f, level) => f.read? level with
  | none => simp [read, hframes, eq_comm]
  | some frames => simp [read, hframes]

/-- What is read of any other text. -/
theorem exists_read (h : ¬ HasLongLineNumber text) :
    ∃ parsedStack,
      (frameLines (Text.lines text.toList)).zipIdx.mapM (fun (f, level) => f.read? level) =
        some parsedStack ∧
      read text = .ok {
        typeName := (splitSummary (summary (Text.lines text.toList))).1
        message := (splitSummary (summary (Text.lines text.toList))).2
        hasFullStack := true
        stack := some text
        parsedStack } := by
  rw [hasLongLineNumber_iff,
    ← mapM_read?_eq_none_iff fun f hf => isDescribable_of_mem_frameLines hf] at h
  obtain ⟨frames, hframes⟩ := Option.ne_none_iff_exists'.1 h
  refine ⟨frames, hframes, ?_⟩
  rw [read, hframes]

end AnyText

/-- **Any text is read safely.**  It cannot be read iff a line number in its last traceback is too long.
    Otherwise it is read as one exception with the whole text. Its calls are those that the lines from the
    last header on show, the last of them at level 0, and there are none if the text does not start with a
    header. -/
theorem read_any_text (text : String) :
    let ls := Text.lines text.toList
    ((∃ e, read text = .error e) ↔ HasLongLineNumber text) ∧
    (¬ HasLongLineNumber text → ∃ details, read text = .ok details ∧
      details.stack = some text ∧
      (¬ StartsWithHeader ls → details.parsedStack = []) ∧
      (StartsWithHeader ls → ∃ before part calls, IsLastTraceback ls before part ∧ Shows part calls ∧
        details.parsedStack.length = calls.length ∧
        ∀ (level : Nat) (f : FrameLine), calls.reverse[level]? = some f →
          ∃ n : Nat, readDecimal? f.lineDigits = some n ∧
            details.parsedStack[level]? =
              some { level, method := String.ofList f.method, fileName := some (String.ofList f.file),
                     line := some (n : Int) })) := by
  intro ls
  refine ⟨by simp [read_eq_error_iff], fun hshort => ?_⟩
  obtain ⟨frames, hframes, hread⟩ := exists_read hshort
  refine ⟨_, hread, rfl, fun hstarts => ?_, fun hstarts => ?_⟩
  · rw [frameLines_of_not_startsWithHeader hstarts] at hframes
    exact (Option.some.inj hframes).symm
  · obtain ⟨before, part, hlast⟩ := exists_isLastTraceback hstarts.exists_mem
    have hshows : Shows part (part.filterMap frame?) := shows_iff.2 rfl
    rw [frameLines_of_isLastTraceback hstarts hlast hshows] at hframes
    -- each call has been read at its own level, so there are as many levels as calls
    have hlength := congrArg List.length (mapM_eq_some_iff.1 hframes)
    refine ⟨before, part, _, hlast, hshows, by simpa using hlength.symm, fun level f hf => ?_⟩
    have hlevel := getElem?_of_mapM_read? hframes level
    rw [hf] at hlevel
    obtain ⟨frame, hframe, hsome⟩ := Option.map_eq_some_iff.1 hlevel
    obtain ⟨-, n, hn, rfl⟩ := (FrameLine.read?_eq_some_iff level).1 hsome.symm
    exact ⟨n, hn, hframe⟩

/-- A text with two headers, of which the second stands before two calls. -/
def exampleTwoHeaders : String :=
  "Traceback (most recent call last):\n File \"a\", line 1, in f\nKeyError: 1\n\n" ++
    "Traceback (most recent call last):\n File \"b\", line 2, in g\n File \"c\", line 33, in h\nTypeError"

/-- The innermost call behind the second header is at level 0. -/
theorem read_any_text_twoHeaders :
    ¬ HasLongLineNumber exampleTwoHeaders ∧
      ∃ details, read exampleTwoHeaders = .ok details ∧ details.stack = some exampleTwoHeaders ∧
        details.parsedStack =
          [{ level := 0, method := "h", fileName := some "c", line := some 33 },
            { level := 1, method := "g", fileName := some "b", line := some 2 }] := by
  have hframes : (read exampleTwoHeaders).toOption.map (·.parsedStack) =
      some [{ level := 0, method := "h", fileName := some "c", line := some 33 },
        { level := 1, method := "g", fileName := some "b", line := some 2 }] := by
    decide +kernel
  obtain ⟨herror, hread⟩ := read_any_text exampleTwoHeaders
  have hshort : ¬ HasLongLineNumber exampleTwoHeaders := by
    intro hlong
    obtain ⟨e, he⟩ := herror.2 hlong
    rw [he] at hframes
    cases hframes
  obtain ⟨details, hdetails, hstack, -⟩ := hread hshort
  rw [hdetails] at hframes
  exact ⟨hshort, details, hdetails, hstack, Option.some.inj hframes⟩

end SpanTelemetry.StackTrace
