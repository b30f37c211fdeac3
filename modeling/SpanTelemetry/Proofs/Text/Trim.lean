import SpanTelemetry.Text.Blank

namespace SpanTelemetry.Text

/-!
# What a trimmed text is

* `IsTrimmed` — a text that neither begins nor ends with a blank.
* `TrimsTo` — a text is another one between blanks.
* `trim_eq_iff` — trimming finds the one trimmed text that a text is made of.
* `trim_eq_nil_iff` — nothing is left of blanks.
* `exists_trim_append` — a character that is no blank keeps the blanks next to it.
-/

/-- A text that neither begins nor ends with a blank. -/
structure IsTrimmed (text : List Char) : Prop where
  head : ∀ c, text.head? = some c → isBlank c = false
  last : ∀ c, text.getLast? = some c → isBlank c = false

/-- A text is `core` between blanks. -/
def TrimsTo (text core : List Char) : Prop :=
  ∃ before after, text = before ++ core ++ after ∧ (∀ c ∈ before, isBlank c = true) ∧
    (∀ c ∈ after, isBlank c = true) ∧ IsTrimmed core

/-! ### Trimming -/

theorem isTrimmed_nil : IsTrimmed [] := ⟨by simp, by simp⟩

/-- What is left behind the blanks at the beginning does not begin with a blank. -/
theorem isBlank_of_head?_dropWhile {text : List Char} {c : Char}
    (h : (text.dropWhile isBlank).head? = some c) : isBlank c = false := by
  have hnot := List.head?_dropWhile_not isBlank text
  rw [h] at hnot
  exact hnot

/-- Blanks go up to what does not begin with one. -/
theorem dropWhile_blanks {blanks rest : List Char} (hblanks : ∀ c ∈ blanks, isBlank c = true)
    (hrest : ∀ c, rest.head? = some c → isBlank c = false) :
    (blanks ++ rest).dropWhile isBlank = rest := by
  rw [List.dropWhile_append_of_pos hblanks]
  cases rest with
  | nil => rfl
  | cons c tail =>
    have hc : isBlank c = false := hrest c rfl
    simp [hc]

/-- What is trimmed is found again between blanks. -/
theorem trim_append {before core after : List Char} (hbefore : ∀ c ∈ before, isBlank c = true)
    (hafter : ∀ c ∈ after, isBlank c = true) (hcore : IsTrimmed core) :
    trim (before ++ core ++ after) = core := by
  by_cases hnil : core = []
  · -- nothing but blanks, all of which go from the beginning
    have hall : ∀ c ∈ before ++ after, isBlank c = true := by
      intro c hc
      rcases List.mem_append.1 hc with hc | hc
      · exact hbefore c hc
      · exact hafter c hc
    have hnone : (before ++ after ++ []).dropWhile isBlank = [] := dropWhile_blanks hall (by simp)
    rw [List.append_nil] at hnone
    rw [hnil, List.append_nil, trim, hnone]
    rfl
  · obtain ⟨c, rest, rfl⟩ := List.exists_cons_of_ne_nil hnil
    have hstart : (before ++ (c :: rest ++ after)).dropWhile isBlank = c :: rest ++ after :=
      dropWhile_blanks hbefore fun d hd => hcore.head d hd
    have hend : (after.reverse ++ (c :: rest).reverse).dropWhile isBlank = (c :: rest).reverse := by
      apply dropWhile_blanks
      · intro d hd
        exact hafter d (List.mem_reverse.1 hd)
      · intro d hd
        rw [List.head?_reverse] at hd
        exact hcore.last d hd
    rw [List.append_assoc, trim, hstart, dropEndWhile, List.reverse_append, hend,
      List.reverse_reverse]

/-- A text that is trimmed has no blanks at its ends. -/
theorem isTrimmed_trim (text : List Char) : IsTrimmed (trim text) := by
  constructor
  · intro c hc
    -- what is cut at the end leaves the beginning as it is
    have hsplit : text.dropWhile isBlank = trim text ++ _ :=
      dropEndWhile_append isBlank (text.dropWhile isBlank)
    have hhead : (text.dropWhile isBlank).head? = some c := by
      rw [hsplit, List.head?_append, hc]
      rfl
    exact isBlank_of_head?_dropWhile hhead
  · intro c hc
    rw [trim, dropEndWhile, List.getLast?_reverse] at hc
    exact isBlank_of_head?_dropWhile hc

/-- **Trimming** finds the one trimmed text that stands between blanks. -/
theorem trim_eq_iff {text core : List Char} : trim text = core ↔ TrimsTo text core := by
  constructor
  · rintro rfl
    obtain ⟨before, after, htext, hbefore, hafter⟩ := cut_trim text
    exact ⟨before, after, htext, hbefore, hafter, isTrimmed_trim text⟩
  · rintro ⟨before, after, rfl, hbefore, hafter, hcore⟩
    exact trim_append hbefore hafter hcore

theorem trimsTo_trim (text : List Char) : TrimsTo text (trim text) := trim_eq_iff.1 rfl

/-- More blanks around a text leave it what it is trimmed to. -/
theorem TrimsTo.between {text core before after : List Char} (h : TrimsTo text core)
    (hbefore : ∀ c ∈ before, isBlank c = true) (hafter : ∀ c ∈ after, isBlank c = true) :
    TrimsTo (before ++ text ++ after) core := by
  obtain ⟨first, last, rfl, hfirst, hlast, hcore⟩ := h
  refine ⟨before ++ first, last ++ after, by simp, ?_, ?_, hcore⟩
  · intro c hc
    rcases List.mem_append.1 hc with hc | hc
    · exact hbefore c hc
    · exact hfirst c hc
  · intro c hc
    rcases List.mem_append.1 hc with hc | hc
    · exact hlast c hc
    · exact hafter c hc

/-- A character that is no blank stops the blanks. -/
theorem dropWhile_append_cons {c : Char} (hc : isBlank c = false) (left right : List Char) :
    (left ++ c :: right).dropWhile isBlank = left.dropWhile isBlank ++ c :: right := by
  have hsplit : left ++ c :: right =
      left.takeWhile isBlank ++ (left.dropWhile isBlank ++ c :: right) := by
    rw [← List.append_assoc, List.takeWhile_append_dropWhile]
  rw [hsplit]
  apply dropWhile_blanks
  · intro d hd
    exact List.all_eq_true.1 List.all_takeWhile d hd
  · intro d hd
    rw [List.head?_append] at hd
    cases hleft : (left.dropWhile isBlank).head? with
    | none =>
      rw [hleft] at hd
      obtain rfl : c = d := by simpa using hd
      exact hc
    | some first =>
      rw [hleft] at hd
      obtain rfl : first = d := by simpa using hd
      exact isBlank_of_head?_dropWhile hleft

/-- What stands in front of a character that is no blank loses blanks only at its beginning, and what
    stands behind it only at its end. -/
theorem exists_trim_append {c : Char} (hc : isBlank c = false) (left right : List Char) :
    ∃ left' right', trim (left ++ c :: right) = left' ++ c :: right' ∧ left' <:+ left ∧
      trim left' = trim left ∧ trim right' = trim right := by
  have hblank (text : List Char) : ∀ d ∈ text.takeWhile isBlank, isBlank d = true :=
    fun d hd => List.all_eq_true.1 List.all_takeWhile d hd
  refine ⟨left.dropWhile isBlank, dropEndWhile isBlank right, ?_, List.dropWhile_suffix isBlank,
    ?_, ?_⟩
  · -- the end of a text is the beginning of the reversed text
    rw [trim, dropWhile_append_cons hc, dropEndWhile, List.reverse_append, List.reverse_cons,
      List.append_assoc, List.singleton_append, dropWhile_append_cons hc]
    simp [dropEndWhile]
  · have hkept : TrimsTo (left.takeWhile isBlank ++ left.dropWhile isBlank ++ [])
        (trim (left.dropWhile isBlank)) := (trimsTo_trim _).between (hblank left) (by simp)
    rw [List.takeWhile_append_dropWhile, List.append_nil] at hkept
    exact (trim_eq_iff.2 hkept).symm
  · have hend : ∀ d ∈ (right.reverse.takeWhile isBlank).reverse, isBlank d = true :=
      fun d hd => hblank right.reverse d (List.mem_reverse.1 hd)
    have hkept : TrimsTo ([] ++ dropEndWhile isBlank right ++
        (right.reverse.takeWhile isBlank).reverse) (trim (dropEndWhile isBlank right)) :=
      (trimsTo_trim _).between (by simp) hend
    rw [List.nil_append, ← dropEndWhile_append] at hkept
    exact (trim_eq_iff.2 hkept).symm

/-- Trimming adds no character. -/
theorem trim_subset {text : List Char} : trim text ⊆ text := by
  intro c hc
  obtain ⟨before, after, htext, -⟩ := trimsTo_trim text
  rw [htext]
  simp [hc]

/-- Nothing is left of blanks, and of nothing else. -/
theorem trim_eq_nil_iff {text : List Char} : trim text = [] ↔ ∀ c ∈ text, isBlank c = true := by
  rw [trim_eq_iff]
  constructor
  · rintro ⟨before, after, rfl, hbefore, hafter, -⟩ c hc
    rw [List.append_nil] at hc
    rcases List.mem_append.1 hc with hc | hc
    · exact hbefore c hc
    · exact hafter c hc
  · intro hblank
    exact ⟨text, [], by simp, hblank, by simp, isTrimmed_nil⟩

end SpanTelemetry.Text
