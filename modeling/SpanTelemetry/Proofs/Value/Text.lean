import SpanTelemetry.Proofs.Text.Numeral
import SpanTelemetry.Proofs.Traversal
import SpanTelemetry.Value.Basic

namespace SpanTelemetry

/-!
# The texts of attributes

* `Value.HasText` — the texts of values, without reference to how they are found or whether they can be
  written.
* `Value.HasLongInteger` — the attributes that have no text because an integer has too many digits.
* `Value.text?_cases` — the three shapes of a value: a scalar, a sequence of scalars, or neither.
* `Value.text?_eq_none_iff`, `Value.text?_eq_ok_iff`, `Value.exists_text?_eq_error_iff` — what comes of the
  text of a value.
-/

/-! ### Scalars -/

/-- The text of a scalar, where integers of any size have one. -/
def Scalar.fullText : Scalar → String
  | .string s => s
  | .int n => Text.integer n
  | .bool true => "true"
  | .bool false => "false"
  | .double x => x.text

/-- An integer that has too many digits to be written. -/
def Scalar.IsLong (s : Scalar) : Prop := ∃ n, s = .int n ∧ 10 ^ Text.maxDigits ≤ n.natAbs

namespace Scalar

variable {s : Scalar} {ss : List Scalar}

theorem isLong_int_iff {n : Int} : (Scalar.int n).IsLong ↔ 10 ^ Text.maxDigits ≤ n.natAbs := by
  simp [IsLong]

/-- A scalar is written unless it is such an integer. -/
theorem text_eq_ok_iff {text : String} : s.text = .ok text ↔ ¬ s.IsLong ∧ s.fullText = text := by
  cases s with
  | int n => rw [isLong_int_iff, Nat.not_le]; exact Text.ofInt_eq_ok_iff
  | bool b => cases b <;> simp [Scalar.text, fullText, IsLong]
  | _ => simp [Scalar.text, fullText, IsLong]

/-- Only such an integer cannot be written. -/
theorem exists_text_eq_error_iff : (∃ e, s.text = .error e) ↔ s.IsLong := by
  cases htext : s.text with
  | ok text => simpa using (text_eq_ok_iff.1 htext).1
  | error e =>
    refine iff_of_true ⟨e, rfl⟩ (Classical.not_not.1 fun hlong => ?_)
    rw [text_eq_ok_iff.2 ⟨hlong, rfl⟩] at htext
    cases htext

/-- A row of scalars is written iff each of them is. -/
theorem mapM_text_eq_ok_iff {texts : List String} :
    ss.mapM text = .ok texts ↔ (∀ s ∈ ss, ¬ s.IsLong) ∧ ss.map fullText = texts := by
  rw [mapM_eq_ok_iff]
  induction ss generalizing texts with
  | nil => cases texts <;> simp
  | cons s rest ih => cases texts <;> simp [text_eq_ok_iff, ih, and_assoc, and_left_comm]

/-- A row of scalars cannot be written iff one of them cannot. -/
theorem exists_mapM_text_eq_error_iff : (∃ e, ss.mapM text = .error e) ↔ ∃ s ∈ ss, s.IsLong := by
  cases htexts : ss.mapM text with
  | ok texts => simpa using (mapM_text_eq_ok_iff.1 htexts).1
  | error e =>
    refine iff_of_true ⟨e, rfl⟩ (Classical.byContradiction fun hshort => ?_)
    rw [mapM_text_eq_ok_iff.2 ⟨by simpa using hshort, rfl⟩] at htexts
    cases htexts

end Scalar

/-! ### Values -/

/-- The text of a value that is a valid attribute: a scalar, or a sequence of nothing but scalars. -/
inductive Value.HasText : Value → String → Prop where
  | string (s : String) : HasText (.scalar (.string s)) s
  | int (n : Int) : HasText (.scalar (.int n)) (Text.integer n)
  | yes : HasText (.scalar (.bool true)) "true"
  | no : HasText (.scalar (.bool false)) "false"
  | double (x : Binary64) : HasText (.scalar (.double x)) x.text
  | list (elements : List Scalar) :
      HasText (.list (elements.map .scalar)) (", ".intercalate (elements.map Scalar.fullText))
  | tuple (elements : List Scalar) :
      HasText (.tuple (elements.map .scalar)) (", ".intercalate (elements.map Scalar.fullText))

/-- A valid attribute with an integer that has too many digits to be written. -/
inductive Value.HasLongInteger : Value → Prop where
  | int {n : Int} (hlong : 10 ^ Text.maxDigits ≤ n.natAbs) : HasLongInteger (.scalar (.int n))
  | list {elements : List Scalar} {n : Int} (hmem : .int n ∈ elements)
      (hlong : 10 ^ Text.maxDigits ≤ n.natAbs) : HasLongInteger (.list (elements.map .scalar))
  | tuple {elements : List Scalar} {n : Int} (hmem : .int n ∈ elements)
      (hlong : 10 ^ Text.maxDigits ≤ n.natAbs) : HasLongInteger (.tuple (elements.map .scalar))

namespace Value

variable {v : Value}

theorem scalar?_eq_some_iff {s : Scalar} : v.scalar? = some s ↔ v = .scalar s := by
  cases v <;> simp [scalar?]

/-- A sequence is one of scalars iff each of its elements is one. -/
theorem mapM_scalar?_eq_some_iff {elements : List Value} {scalars : List Scalar} :
    elements.mapM scalar? = some scalars ↔ elements = scalars.map .scalar := by
  rw [mapM_eq_some_iff, ← List.forall₂_eq_eq_eq, ← List.forall₂_eq_eq_eq, List.forall₂_map_left_iff,
    List.forall₂_map_right_iff, List.forall₂_map_right_iff]
  simp only [scalar?_eq_some_iff]

/-! ### Shapes of values -/

/-- A scalar has its own text, and no other. -/
theorem hasText_scalar_iff {s : Scalar} {text : String} :
    HasText (.scalar s) text ↔ s.fullText = text := by
  constructor
  · intro h
    cases h <;> rfl
  · rintro rfl
    cases s with
    | string s => exact .string s
    | int n => exact .int n
    | double x => exact .double x
    | bool b =>
      cases b
      · exact .no
      · exact .yes

/-- A scalar has an integer with too many digits iff it is one. -/
theorem hasLongInteger_scalar_iff {s : Scalar} : HasLongInteger (.scalar s) ↔ s.IsLong := by
  constructor
  · rintro ⟨hlong⟩
    exact ⟨_, rfl, hlong⟩
  · rintro ⟨n, rfl, hlong⟩
    exact .int hlong

/-- A value that is a sequence of the given scalars. -/
inductive IsSequence : Value → List Scalar → Prop where
  | list (ss : List Scalar) : IsSequence (.list (ss.map .scalar)) ss
  | tuple (ss : List Scalar) : IsSequence (.tuple (ss.map .scalar)) ss

/-- A value is a sequence of scalars iff these are its elements. -/
theorem isSequence_iff {ss : List Scalar} :
    v.IsSequence ss ↔ v.elements?.bind (·.mapM scalar?) = some ss := by
  simp only [Option.bind_eq_some_iff, mapM_scalar?_eq_some_iff]
  constructor
  · intro h
    cases h with
    | list => exact ⟨_, rfl, rfl⟩
    | tuple => exact ⟨_, rfl, rfl⟩
  · rintro ⟨elements, helements, rfl⟩
    cases v with
    | list => exact Option.some.inj helements ▸ .list ss
    | tuple => exact Option.some.inj helements ▸ .tuple ss
    | _ => cases helements

/-- The values with a text are the scalars and the sequences of scalars. -/
theorem hasText_iff {text : String} :
    v.HasText text ↔ (∃ s, v = .scalar s ∧ s.fullText = text) ∨
      ∃ ss, v.IsSequence ss ∧ ", ".intercalate (ss.map Scalar.fullText) = text := by
  constructor
  · intro h
    cases h with
    | list ss => exact Or.inr ⟨ss, .list ss, rfl⟩
    | tuple ss => exact Or.inr ⟨ss, .tuple ss, rfl⟩
    | _ => exact Or.inl ⟨_, rfl, rfl⟩
  · rintro (⟨s, rfl, rfl⟩ | ⟨ss, hss, rfl⟩)
    · exact hasText_scalar_iff.2 rfl
    · cases hss with
      | list => exact .list ss
      | tuple => exact .tuple ss

/-- An integer with too many digits is the value itself, or stands in a sequence of scalars. -/
theorem hasLongInteger_iff :
    v.HasLongInteger ↔ (∃ s, v = .scalar s ∧ s.IsLong) ∨
      ∃ ss, v.IsSequence ss ∧ ∃ s ∈ ss, s.IsLong := by
  constructor
  · intro h
    cases h with
    | int hlong => exact Or.inl ⟨_, rfl, _, rfl, hlong⟩
    | list hmem hlong => exact Or.inr ⟨_, .list _, _, hmem, _, rfl, hlong⟩
    | tuple hmem hlong => exact Or.inr ⟨_, .tuple _, _, hmem, _, rfl, hlong⟩
  · rintro (⟨s, rfl, hlong⟩ | ⟨ss, hss, s, hmem, n, rfl, hlong⟩)
    · exact hasLongInteger_scalar_iff.2 hlong
    · cases hss with
      | list => exact .list hmem hlong
      | tuple => exact .tuple hmem hlong

namespace IsSequence

variable {ss ss' : List Scalar}

/-- A sequence has its scalars, and no others. -/
theorem unique (h : v.IsSequence ss) (h' : v.IsSequence ss') : ss' = ss :=
  Option.some.inj ((isSequence_iff.1 h').symm.trans (isSequence_iff.1 h))

/-- A sequence is no scalar. -/
theorem ne_scalar (h : v.IsSequence ss) (s : Scalar) : v ≠ .scalar s := by
  cases h <;> nofun

/-- A sequence of scalars has their texts, and no other text. -/
theorem hasText_iff (h : v.IsSequence ss) {text : String} :
    v.HasText text ↔ ", ".intercalate (ss.map Scalar.fullText) = text := by
  rw [Value.hasText_iff]
  constructor
  · rintro (⟨s, hs, -⟩ | ⟨ss', hss', rfl⟩)
    · exact absurd hs (h.ne_scalar s)
    · rw [h.unique hss']
  · exact fun htext => Or.inr ⟨ss, h, htext⟩

/-- A sequence has an integer with too many digits iff one of its scalars is one. -/
theorem hasLongInteger_iff (h : v.IsSequence ss) : v.HasLongInteger ↔ ∃ s ∈ ss, s.IsLong := by
  rw [Value.hasLongInteger_iff]
  constructor
  · rintro (⟨s, hs, -⟩ | ⟨ss', hss', hlong⟩)
    · exact absurd hs (h.ne_scalar s)
    · rwa [h.unique hss'] at hlong
  · exact fun hlong => Or.inr ⟨ss, h, hlong⟩

end IsSequence

/-- **The shapes of a value**: a scalar, a sequence of scalars, or one without a text. -/
theorem text?_cases (v : Value) :
    (∃ s, v = .scalar s ∧ v.text? = some s.text) ∨
    (∃ ss, v.IsSequence ss ∧ v.text? = some ((ss.mapM Scalar.text).map (", ".intercalate ·))) ∨
    (v.text? = none ∧ (∀ text, ¬ v.HasText text) ∧ ¬ v.HasLongInteger) := by
  cases hs : v.scalar? with
  | some s =>
    obtain rfl := scalar?_eq_some_iff.1 hs
    exact Or.inl ⟨s, rfl, rfl⟩
  | none =>
    have htext : v.text? = (v.elements?.bind (·.mapM scalar?)).map fun ss =>
        (ss.mapM Scalar.text).map (", ".intercalate ·) := by
      cases helements : v.elements? <;> simp [text?, hs, helements]
    cases hss : v.elements?.bind (·.mapM scalar?) with
    | some ss => exact Or.inr (Or.inl ⟨ss, isSequence_iff.2 hss, by rw [htext, hss]; rfl⟩)
    | none =>
      have hscalar : ∀ s, v ≠ .scalar s := by
        rintro s rfl
        cases hs
      have hsequence : ∀ ss, ¬ v.IsSequence ss := by
        intro ss h
        rw [isSequence_iff.1 h] at hss
        cases hss
      refine Or.inr (Or.inr ⟨by rw [htext, hss]; rfl, fun text h => ?_, fun h => ?_⟩)
      · obtain ⟨s, hv, -⟩ | ⟨ss, hv, -⟩ := hasText_iff.1 h
        · exact hscalar s hv
        · exact hsequence ss hv
      · obtain ⟨s, hv, -⟩ | ⟨ss, hv, -⟩ := hasLongInteger_iff.1 h
        · exact hscalar s hv
        · exact hsequence ss hv

/-! ### What comes of a text -/

/-- A value has no text at all iff its type is not that of an attribute. -/
theorem text?_eq_none_iff : v.text? = none ↔ ∀ text, ¬ v.HasText text := by
  obtain ⟨s, rfl, htext⟩ | ⟨ss, hss, htext⟩ | ⟨htext, hnone, -⟩ := text?_cases v <;> rw [htext]
  · exact iff_of_false nofun fun h => h _ (hasText_scalar_iff.2 rfl)
  · exact iff_of_false nofun fun h => h _ (hss.hasText_iff.2 rfl)
  · exact iff_of_true rfl hnone

/-- **A text is written** unless an integer in it has too many digits. -/
theorem text?_eq_ok_iff {text : String} :
    v.text? = some (.ok text) ↔ v.HasText text ∧ ¬ v.HasLongInteger := by
  obtain ⟨s, rfl, htext⟩ | ⟨ss, hss, htext⟩ | ⟨htext, hnone, -⟩ := text?_cases v <;> rw [htext]
  · rw [hasText_scalar_iff, hasLongInteger_scalar_iff, Option.some.injEq, Scalar.text_eq_ok_iff,
      and_comm]
  · rw [hss.hasText_iff, hss.hasLongInteger_iff, Option.some.injEq]
    cases htexts : ss.mapM Scalar.text with
    | ok texts =>
      obtain ⟨hshort, rfl⟩ := Scalar.mapM_text_eq_ok_iff.1 htexts
      simpa [Except.map] using fun _ => hshort
    | error e =>
      have hlong := Scalar.exists_mapM_text_eq_error_iff.1 ⟨e, htexts⟩
      exact iff_of_false nofun fun h => h.2 hlong
  · exact iff_of_false nofun fun h => hnone text h.1

/-- The text of an attribute cannot be written iff an integer in it has too many digits. -/
theorem exists_text?_eq_error_iff : (∃ e, v.text? = some (.error e)) ↔ v.HasLongInteger := by
  obtain ⟨s, rfl, htext⟩ | ⟨ss, hss, htext⟩ | ⟨htext, -, hshort⟩ := text?_cases v <;> rw [htext]
  · simp only [hasLongInteger_scalar_iff, Option.some.injEq, Scalar.exists_text_eq_error_iff]
  · rw [hss.hasLongInteger_iff, ← Scalar.exists_mapM_text_eq_error_iff]
    cases ss.mapM Scalar.text <;> simp [Except.map]
  · exact iff_of_false nofun hshort

end Value

end SpanTelemetry
