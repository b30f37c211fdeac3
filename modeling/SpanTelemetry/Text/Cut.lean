namespace SpanTelemetry.Text

/-!
# Cutting text at a character

Text is cut as a list of characters.

* `cutFirst`, `cutLast` — the parts before and after the first or last occurrence of a mark.
* `afterLast` — what follows the last occurrence of a mark, or everything.
* `pieces` — the parts between all occurrences of a mark.
* `dropStart?`, `dropEnd?` — remove a given beginning or ending.
-/

/-- The parts before and after the first `mark`; `none` if there is none. -/
def cutFirst (mark : Char) : List Char → Option (List Char × List Char)
  | [] => none
  | c :: rest =>
      if c = mark then some ([], rest)
      else (cutFirst mark rest).map fun (before, after) => (c :: before, after)

/-- The parts before and after the last `mark`; `none` if there is none. -/
def cutLast (mark : Char) : List Char → Option (List Char × List Char)
  | [] => none
  | c :: rest =>
      match cutLast mark rest with
      | some (before, after) => some (c :: before, after)
      | none => if c = mark then some ([], rest) else none

/-- What follows the last `mark`, or the whole text if there is none. -/
def afterLast (mark : Char) (text : List Char) : List Char :=
  match cutLast mark text with
  | some (_, after) => after
  | none => text

/-- The parts between the occurrences of `mark`, one more than there are marks. -/
def pieces (mark : Char) : List Char → List (List Char)
  | [] => [[]]
  | c :: rest =>
      if c = mark then [] :: pieces mark rest
      else
        match pieces mark rest with
        | [] => [[c]]
        | piece :: more => (c :: piece) :: more

/-- The rest of a text that begins with `start`. -/
def dropStart? : List Char → List Char → Option (List Char)
  | [], text => some text
  | _ :: _, [] => none
  | s :: start, c :: text => if s = c then dropStart? start text else none

/-- The rest of a text that ends with `finish`. -/
def dropEnd? (finish text : List Char) : Option (List Char) :=
  (dropStart? finish.reverse text.reverse).map List.reverse

/-- Whether a text begins with `start`. -/
def beginsWith (start text : List Char) : Bool := (dropStart? start text).isSome

/-! ### Cuts put together again -/

/-- A text is cut at the first mark. -/
theorem cutFirst_eq_some_iff {mark : Char} {text before after : List Char} :
    cutFirst mark text = some (before, after) ↔
      text = before ++ mark :: after ∧ mark ∉ before := by
  induction text generalizing before with
  | nil => simp [cutFirst]
  | cons c rest ih =>
    by_cases hc : c = mark
    · subst hc
      cases before with
      | nil => simp [cutFirst, eq_comm]
      | cons b before =>
        simp only [cutFirst, if_true, Option.some.injEq, Prod.mk.injEq, List.cons_append,
          List.cons.injEq, List.mem_cons, not_or]
        constructor
        · rintro ⟨h, _⟩
          cases h
        · rintro ⟨⟨h, _⟩, hne, _⟩
          exact absurd h hne
    · cases before with
      | nil => simp [cutFirst, hc]
      | cons b before =>
        simp only [cutFirst, hc, if_false, Option.map_eq_some_iff, Prod.exists, Prod.mk.injEq,
          List.cons.injEq, List.cons_append, List.mem_cons, not_or]
        constructor
        · rintro ⟨x, y, h, ⟨rfl, rfl⟩, rfl⟩
          obtain ⟨h1, h2⟩ := ih.1 h
          exact ⟨⟨rfl, h1⟩, fun h => hc h.symm, h2⟩
        · rintro ⟨⟨rfl, h1⟩, _, h2⟩
          exact ⟨before, after, ih.2 ⟨h1, h2⟩, ⟨rfl, rfl⟩, rfl⟩

/-- It is not cut iff there is no mark. -/
theorem cutFirst_eq_none_iff {mark : Char} {text : List Char} :
    cutFirst mark text = none ↔ mark ∉ text := by
  induction text with
  | nil => simp [cutFirst]
  | cons c rest ih =>
    by_cases hc : c = mark
    · simp [cutFirst, hc]
    · simp [cutFirst, hc, ih, Ne.symm hc]

/-- The same holds for the last mark. -/
theorem cutLast_eq_none_iff {mark : Char} {text : List Char} :
    cutLast mark text = none ↔ mark ∉ text := by
  induction text with
  | nil => simp [cutLast]
  | cons c rest ih =>
    simp only [cutLast]
    cases hr : cutLast mark rest with
    | some p =>
      have : mark ∈ rest := by
        by_cases hm : mark ∈ rest
        · exact hm
        · rw [ih.2 hm] at hr
          cases hr
      simp [this]
    | none =>
      have hm := ih.1 hr
      by_cases hc : c = mark
      · simp [hc]
      · simp [hc, hm, Ne.symm hc]

/-- Behind the last mark there is none. -/
theorem cutLast_eq_some {mark : Char} {text before after : List Char}
    (h : cutLast mark text = some (before, after)) :
    text = before ++ mark :: after ∧ mark ∉ after := by
  induction text generalizing before with
  | nil => simp [cutLast] at h
  | cons c rest ih =>
    simp only [cutLast] at h
    cases hr : cutLast mark rest with
    | some p =>
      obtain ⟨x, y⟩ := p
      simp only [hr, Option.some.injEq, Prod.mk.injEq] at h
      obtain ⟨rfl, rfl⟩ := h
      obtain ⟨h1, h2⟩ := ih hr
      exact ⟨by simp [h1], h2⟩
    | none =>
      simp only [hr] at h
      split at h
      · rename_i hc
        simp only [Option.some.injEq, Prod.mk.injEq] at h
        obtain ⟨rfl, rfl⟩ := h
        exact ⟨by simp [hc], cutLast_eq_none_iff.1 hr⟩
      · cases h

/-- A start is dropped iff it is there. -/
theorem dropStart?_eq_some_iff {start text rest : List Char} :
    dropStart? start text = some rest ↔ text = start ++ rest := by
  induction start generalizing text with
  | nil => simp [dropStart?]
  | cons s start ih =>
    cases text with
    | nil => simp [dropStart?]
    | cons c text =>
      by_cases h : s = c
      · subst h
        simp [dropStart?, ih]
      · simp [dropStart?, h, Ne.symm h]

/-- A text begins with its prefixes. -/
theorem beginsWith_eq_true_iff {start text : List Char} :
    beginsWith start text = true ↔ start <+: text := by
  rw [beginsWith, Option.isSome_iff_exists]
  constructor
  · rintro ⟨rest, h⟩
    exact ⟨rest, (dropStart?_eq_some_iff.1 h).symm⟩
  · rintro ⟨rest, h⟩
    exact ⟨rest, dropStart?_eq_some_iff.2 h.symm⟩

/-- An end is dropped iff it is there. -/
theorem dropEnd?_eq_some_iff {finish text rest : List Char} :
    dropEnd? finish text = some rest ↔ text = rest ++ finish := by
  simp only [dropEnd?, Option.map_eq_some_iff, dropStart?_eq_some_iff]
  constructor
  · rintro ⟨r, h, rfl⟩
    have := congrArg List.reverse h
    simpa using this
  · rintro rfl
    exact ⟨rest.reverse, by simp, by simp⟩

end SpanTelemetry.Text
