import SpanTelemetry.Text.Cut

namespace SpanTelemetry.Text

/-!
# Cutting at a mark

* `cut_unique` — a text has one first mark.
* `prefix_append_mark_iff` — a text without the mark that begins one with it stands before the mark.
* `cutLast_append` — what follows a mark and holds none is behind the last one.
* `afterLast_append`, `afterLast_of_not_mem` — what follows the last mark.
* `afterLast_suffix`, `not_mem_afterLast` — it is an end of the text without the mark.
* `afterLast_eq_nil_iff` — nothing follows a mark at the end.
* `dropEnd?_append` — an ending that begins with the only mark in it is all that follows the last mark.
* `pieces_eq_iff` — the pieces of a text are the texts without a mark that it joins.
-/

variable {mark : Char}

/-! ### The first mark -/

/-- A text is cut at its first mark in one way only. -/
theorem cut_unique {before after before' after' : List Char} (h : mark ∉ before)
    (h' : mark ∉ before') (htext : before ++ mark :: after = before' ++ mark :: after') :
    before = before' ∧ after = after' := by
  have hcut : cutFirst mark (before ++ mark :: after) = some (before, after) :=
    cutFirst_eq_some_iff.2 ⟨rfl, h⟩
  rw [cutFirst_eq_some_iff.2 ⟨htext, h'⟩, Option.some.injEq, Prod.mk.injEq] at hcut
  exact ⟨hcut.1.symm, hcut.2.symm⟩

/-- What holds no mark begins a text with a mark iff it begins what stands before the mark. -/
theorem prefix_append_mark_iff {start before after : List Char} (h : mark ∉ start) :
    start <+: before ++ mark :: after ↔ start <+: before := by
  induction start generalizing before with
  | nil => simp
  | cons c rest ih =>
    obtain ⟨hc, hrest⟩ := not_or.1 (mt List.mem_cons.2 h)
    cases before with
    | nil => simp [List.cons_prefix_cons, Ne.symm hc]
    | cons d more =>
      rw [List.cons_append, List.cons_prefix_cons, List.cons_prefix_cons, ih hrest]

/-! ### The last mark -/

/-- A text is cut at a mark that no other one follows. -/
theorem cutLast_append {after : List Char} (h : mark ∉ after) (before : List Char) :
    cutLast mark (before ++ mark :: after) = some (before, after) := by
  induction before with
  | nil => rw [List.nil_append, cutLast, cutLast_eq_none_iff.2 h, if_pos rfl]
  | cons c before ih => rw [List.cons_append, cutLast, ih]

/-- What follows the last mark. -/
theorem afterLast_append {after : List Char} (h : mark ∉ after) (before : List Char) :
    afterLast mark (before ++ mark :: after) = after := by
  rw [afterLast, cutLast_append h]

/-- Without a mark that is all of the text. -/
theorem afterLast_of_not_mem {text : List Char} (h : mark ∉ text) : afterLast mark text = text := by
  rw [afterLast, cutLast_eq_none_iff.2 h]

/-- A text without the mark is all that follows it; otherwise the text ends in the mark and what
    follows it. -/
theorem afterLast_cases (mark : Char) (text : List Char) :
    (mark ∉ text ∧ afterLast mark text = text) ∨
      ∃ before after, text = before ++ mark :: after ∧ mark ∉ after ∧
        afterLast mark text = after := by
  cases hcut : cutLast mark text with
  | none =>
    have hmark := cutLast_eq_none_iff.1 hcut
    exact Or.inl ⟨hmark, afterLast_of_not_mem hmark⟩
  | some parts =>
    obtain ⟨before, after⟩ := parts
    obtain ⟨htext, hafter⟩ := cutLast_eq_some hcut
    exact Or.inr ⟨before, after, htext, hafter, by rw [htext, afterLast_append hafter]⟩

/-- What follows the last mark is an end of the text. -/
theorem afterLast_suffix (mark : Char) (text : List Char) : afterLast mark text <:+ text := by
  rcases afterLast_cases mark text with ⟨-, h⟩ | ⟨before, after, htext, -, h⟩
  · simp only [h, List.suffix_rfl]
  · rw [h]
    exact ⟨before ++ [mark], by simp [htext]⟩

/-- The mark does not occur in it. -/
theorem not_mem_afterLast (mark : Char) (text : List Char) : mark ∉ afterLast mark text := by
  rcases afterLast_cases mark text with ⟨hmark, h⟩ | ⟨before, after, -, hmark, h⟩
  · rwa [h]
  · rwa [h]

/-- Nothing follows the last mark iff it stands at the end. -/
theorem afterLast_eq_nil_iff {text : List Char} (hne : text ≠ []) :
    afterLast mark text = [] ↔ text.getLast? = some mark := by
  rcases afterLast_cases mark text with ⟨hmark, h⟩ | ⟨before, after, rfl, hmark, h⟩
  · rw [h]
    refine ⟨fun hnil => absurd hnil hne, fun hlast => ?_⟩
    exact absurd (List.mem_of_getLast? hlast) hmark
  · rw [h, List.append_cons, List.getLast?_append]
    cases hlast : after.getLast? with
    | none => simp [List.getLast?_eq_none_iff.1 hlast]
    | some c =>
      -- the last character is one of those behind the mark
      have hc : c ∈ after := List.mem_of_getLast? hlast
      have hne : c ≠ mark := fun heq => hmark (heq ▸ hc)
      simp [hne, List.ne_nil_of_mem hc]

/-! ### Endings -/

/-- An ending that begins with a mark and holds no other one is all that follows the last mark. -/
theorem dropEnd?_append {finish after : List Char} (hfinish : mark ∉ finish) (hafter : mark ∉ after)
    (before : List Char) :
    dropEnd? (mark :: finish) (before ++ mark :: after) =
      if after = finish then some before else none := by
  split
  · rename_i h
    exact dropEnd?_eq_some_iff.2 (by rw [h])
  · rename_i h
    refine Option.eq_none_iff_forall_ne_some.2 fun rest hrest => h ?_
    -- both texts are cut at the same last mark
    have hcut := cutLast_append hafter before
    rw [dropEnd?_eq_some_iff.1 hrest, cutLast_append hfinish, Option.some.injEq, Prod.mk.injEq] at hcut
    exact hcut.2.symm

/-- A text without the mark has no ending that begins with it. -/
theorem dropEnd?_of_not_mem {finish text : List Char} (h : mark ∉ text) :
    dropEnd? (mark :: finish) text = none := by
  refine Option.eq_none_iff_forall_ne_some.2 fun rest hrest => h ?_
  rw [dropEnd?_eq_some_iff.1 hrest]
  simp

/-! ### Pieces -/

theorem pieces_eq_splitOn (text : List Char) : pieces mark text = text.splitOn mark := by
  induction text with
  | nil => rfl
  | cons c rest ih =>
    rw [List.splitOn_cons_eq_if_modifyHead]
    by_cases hc : c = mark
    · simp [pieces, hc, ih]
    · simp only [pieces, hc, if_false, ih, beq_iff_eq]
      cases h : rest.splitOn mark with
      | nil => exact absurd h (List.splitOn_ne_nil _ _)
      | cons piece more => rfl

/-- No mark is left in a piece. -/
theorem not_mem_of_mem_pieces {text piece : List Char} (h : piece ∈ pieces mark text) :
    mark ∉ piece := by
  induction text generalizing piece with
  | nil =>
    obtain rfl := List.mem_singleton.1 h
    exact List.not_mem_nil
  | cons c rest ih =>
    simp only [pieces] at h
    by_cases hc : c = mark
    · rw [if_pos hc] at h
      rcases List.mem_cons.1 h with rfl | h
      · exact List.not_mem_nil
      · exact ih h
    · rw [if_neg hc] at h
      cases hrest : pieces mark rest with
      | nil =>
        rw [hrest] at h
        obtain rfl := List.mem_singleton.1 h
        simpa using Ne.symm hc
      | cons first more =>
        rw [hrest] at h ih
        -- only the first piece has become longer
        rcases List.mem_cons.1 h with rfl | h
        · simp [Ne.symm hc, ih List.mem_cons_self]
        · exact ih (List.mem_cons_of_mem _ h)

/-- The pieces are what stands between the marks. -/
theorem pieces_spec (mark : Char) (text : List Char) :
    pieces mark text ≠ [] ∧ (∀ part ∈ pieces mark text, mark ∉ part) ∧
      text = [mark].intercalate (pieces mark text) := by
  refine ⟨?_, fun part hpart => not_mem_of_mem_pieces hpart, ?_⟩
  · rw [pieces_eq_splitOn]
    exact List.splitOn_ne_nil _ _
  · rw [pieces_eq_splitOn, List.intercalate_splitOn]

/-- **Pieces.**  The pieces of a text are the texts without a mark that it joins with marks. -/
theorem pieces_eq_iff {text : List Char} {parts : List (List Char)} :
    pieces mark text = parts ↔
      parts ≠ [] ∧ (∀ part ∈ parts, mark ∉ part) ∧ text = [mark].intercalate parts := by
  constructor
  · rintro rfl
    exact pieces_spec mark text
  · rintro ⟨hne, hparts, rfl⟩
    rw [pieces_eq_splitOn, List.splitOn_intercalate mark hparts hne]

end SpanTelemetry.Text
