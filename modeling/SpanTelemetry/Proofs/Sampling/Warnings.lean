import Mathlib.Data.Finset.Card
import SpanTelemetry.Proofs.Sampling

namespace SpanTelemetry.Sampling

/-!
# The sampling cache shows in its warnings only

A text that is no number is reported when it is read. So it is reported once for as long as it is
remembered, and nothing is forgotten while no more texts are asked for than the cache remembers.

* `askedTexts` — the texts that a row of queries asks for.
* `IsAnswer` — what a query is answered with, stated without a cache.
* `Reports` — the texts that are reported in the course of a row of queries.
* `Cache.warnings_read`, `Cache.texts_read` — what one reading reports, and what is remembered then.
* `Cache.reports_percentages` — what a row of queries reports that the cache has room for.
* `Cache.percentages_uncached` — hence the cache is invisible, repeated warnings apart.
-/

/-! ### Queries -/

/-- The texts that a row of queries asks for, each as often as it is asked for. -/
def askedTexts (queries : List (Option TraceState × Quantity)) : List String :=
  queries.filterMap fun q => text? q.1

/-- What a query is answered with: the number in its trace state, or what it falls back on. -/
inductive IsAnswer : Option TraceState × Quantity → Quantity → Prop where
  | noState (fallback : Quantity) : IsAnswer (none, fallback) fallback
  | noText {state : TraceState} (fallback : Quantity) (htext : state.get? traceStateKey = none) :
      IsAnswer (some state, fallback) fallback
  | noNumber {state : TraceState} {text : String} (fallback : Quantity)
      (htext : state.get? traceStateKey = some text) (hread : Binary64.read? text = none) :
      IsAnswer (some state, fallback) fallback
  | number {state : TraceState} {text : String} {x : Binary64} (fallback : Quantity)
      (htext : state.get? traceStateKey = some text) (hread : Binary64.read? text = some x) :
      IsAnswer (some state, fallback) (Quantity.double x)

/-- A query has one answer, the percentage of its trace state. -/
theorem isAnswer_iff {query : Option TraceState × Quantity} {value : Quantity} :
    IsAnswer query value ↔ percentage query.1 query.2 = value := by
  constructor
  · rintro (_ | ⟨_, htext⟩ | ⟨_, htext, hread⟩ | ⟨_, htext, hread⟩)
    · rfl
    · simp [percentage, text?, htext]
    · simp [percentage, text?, htext, hread]
    · simp [percentage, text?, htext, hread, Quantity.double]
  · rintro rfl
    obtain ⟨_ | state, fallback⟩ := query
    · exact .noState fallback
    · cases htext : state.get? traceStateKey with
      | none => simpa [percentage, text?, htext] using IsAnswer.noText fallback htext
      | some text =>
        cases hread : Binary64.read? text with
        | none =>
          simpa [percentage, text?, htext, hread] using IsAnswer.noNumber fallback htext hread
        | some x =>
          simpa [percentage, text?, htext, hread, Quantity.double] using
            IsAnswer.number fallback htext hread

/-! ### Reports -/

/-- What is reported when texts are asked for of which some are known: of the others those that are no
    number, each once and in the order in which they are first asked for. -/
structure Reports (known asked reported : List String) : Prop where
  mem_iff : ∀ text, text ∈ reported ↔ text ∈ asked ∧ text ∉ known ∧ Binary64.read? text = none
  ordered : reported.Pairwise fun a b => asked.idxOf a < asked.idxOf b

namespace Reports

variable {known known' rest reported : List String} {text : String}

theorem nil : Reports known [] [] where
  mem_iff := by simp
  ordered := List.Pairwise.nil

/-- Asking for one more text first moves the others back. -/
theorem ordered_cons (h : reported.Pairwise fun a b => rest.idxOf a < rest.idxOf b)
    (hne : ∀ t ∈ reported, t ≠ text) :
    reported.Pairwise fun a b => (text :: rest).idxOf a < (text :: rest).idxOf b := by
  refine h.imp_of_mem fun {a b} ha hb hlt => ?_
  rw [List.idxOf_cons_ne _ (hne a ha).symm, List.idxOf_cons_ne _ (hne b hb).symm]
  exact Nat.succ_lt_succ hlt

/-- A text that is asked for is reported at once if it is neither known nor a number, and is known from
    then on. -/
theorem cons (hknown : ∀ t, t ∈ known' ↔ t = text ∨ t ∈ known) (h : Reports known' rest reported) :
    Reports known (text :: rest)
      ((if text ∉ known ∧ Binary64.read? text = none then [text] else []) ++ reported) := by
  have hmem (t : String) : t ∈ reported ↔
      t ∈ rest ∧ t ≠ text ∧ t ∉ known ∧ Binary64.read? t = none := by
    simp only [h.mem_iff, hknown, not_or, and_assoc]
  have hne : ∀ t ∈ reported, t ≠ text := fun t ht => ((hmem t).1 ht).2.1
  have hordered := ordered_cons h.ordered hne
  constructor
  · intro t
    by_cases ht : t = text
    · subst ht
      split <;> simp_all
    · split <;> simp_all
  · split
    · refine List.pairwise_cons.2 ⟨fun t ht => ?_, hordered⟩
      rw [List.idxOf_cons_self, List.idxOf_cons_ne _ (hne t ht).symm]
      exact Nat.succ_pos _
    · exact hordered

end Reports

namespace Cache

variable (cache : Cache) (text : String)

/-! ### One reading -/

/-- The texts that are remembered. -/
def texts : List String := cache.entries.map CacheEntry.text

theorem find?_eq_none_iff :
    (cache.entries.find? fun e => e.text = text) = none ↔ text ∉ cache.texts := by
  simp [texts, List.find?_eq_none]

/-- **A reading reports** a text that is not remembered and no number. -/
theorem warnings_read : (cache.read text).warnings =
    if text ∉ cache.texts ∧ Binary64.read? text = none then [.badSamplingPercentage text] else [] := by
  have hnone := find?_eq_none_iff cache text
  unfold read
  split
  · rename_i e he
    have hmem : text ∈ cache.texts := by
      by_contra hnot
      rw [hnone.2 hnot] at he
      cases he
    simp [hmem]
  · rename_i hfind
    simp [hnone.1 hfind]

/-- **What is remembered after a reading** that there is room for: the text, and all others as before. -/
theorem texts_read (h : text ∈ cache.texts ∨ cache.texts.length < capacity) :
    (cache.read text).cache.texts = text :: cache.texts.filter fun t => t ≠ text := by
  have hnone := find?_eq_none_iff cache text
  unfold read
  split
  · rename_i e he
    have htext : e.text = text := by simpa using List.find?_some he
    simp [texts, htext, List.filter_map, Function.comp_def]
  · rename_i hfind
    have hnot := hnone.1 hfind
    have hroom : cache.entries.length < capacity := by
      simpa [texts] using h.resolve_left hnot
    have hkept : (cache.texts.filter fun t => t ≠ text) = cache.texts :=
      List.filter_eq_self.2 fun t ht => by
        simpa using fun hsame : t = text => hnot (hsame ▸ ht)
    rw [hkept]
    simp [texts, List.take_of_length_le, Nat.succ_le_of_lt hroom]

/-! ### Room for texts -/

/-- A cache has room for texts if it can remember all of them besides the ones that it remembers. -/
structure HasRoomFor (asked : List String) : Prop where
  nodup : cache.texts.Nodup
  card_le : (cache.texts ++ asked).toFinset.card ≤ capacity

variable {cache text} {asked : List String}

namespace HasRoomFor

/-- A cache that has room for a text that it does not remember is not full. -/
theorem length_lt (h : cache.HasRoomFor (text :: asked)) (hnew : text ∉ cache.texts) :
    cache.texts.length < capacity := by
  have hsubset : insert text cache.texts.toFinset ⊆ (cache.texts ++ text :: asked).toFinset := by
    intro t ht
    simp only [Finset.mem_insert, List.mem_toFinset, List.mem_append, List.mem_cons] at ht ⊢
    tauto
  calc cache.texts.length + 1
      = (insert text cache.texts.toFinset).card := by
        rw [Finset.card_insert_of_notMem (by simpa using hnew),
          List.toFinset_card_of_nodup h.nodup]
    _ ≤ (cache.texts ++ text :: asked).toFinset.card := Finset.card_le_card hsubset
    _ ≤ capacity := h.card_le

/-- After a reading that there was room for, the text is remembered besides all others. -/
theorem texts_read (h : cache.HasRoomFor (text :: asked)) :
    (cache.read text).cache.texts = text :: cache.texts.filter fun t => t ≠ text := by
  apply Cache.texts_read
  by_cases hmem : text ∈ cache.texts
  · exact Or.inl hmem
  · exact Or.inr (h.length_lt hmem)

theorem mem_texts_read (h : cache.HasRoomFor (text :: asked)) (t : String) :
    t ∈ (cache.read text).cache.texts ↔ t = text ∨ t ∈ cache.texts := by
  rw [h.texts_read]
  by_cases ht : t = text <;> simp [ht]

/-- **Step.**  A cache that reads the first of the texts that it has room for has room for the others. -/
theorem read (h : cache.HasRoomFor (text :: asked)) : (cache.read text).cache.HasRoomFor asked where
  nodup := by
    rw [h.texts_read]
    exact List.nodup_cons.2 ⟨by simp, h.nodup.filter _⟩
  card_le := by
    have hsame : ((cache.read text).cache.texts ++ asked).toFinset =
        (cache.texts ++ text :: asked).toFinset := by
      ext t
      simp only [List.mem_toFinset, List.mem_append, List.mem_cons, h.mem_texts_read]
      tauto
    rw [hsame]
    exact h.card_le

end HasRoomFor

/-! ### Rows of queries -/

/-- The percentages of a row of queries are the same with a cache and without. -/
theorem percentages_value (queries : List (Option TraceState × Quantity)) (cache : Cache) :
    (cache.percentages queries).value = queries.map fun q => Sampling.percentage q.1 q.2 := by
  induction queries generalizing cache with
  | nil => rfl
  | cons q rest ih => simp [percentages, ih]

/-- **Run.**  A row of queries that the cache has room for reports what is neither remembered nor a
    number. -/
theorem reports_percentages (queries : List (Option TraceState × Quantity)) {cache : Cache}
    (h : cache.HasRoomFor (askedTexts queries)) :
    ∃ reported, (cache.percentages queries).warnings = reported.map .badSamplingPercentage ∧
      Reports cache.texts (askedTexts queries) reported := by
  -- by induction on the queries: each leaves a cache with room for the texts of the others
  induction queries generalizing cache with
  | nil => exact ⟨[], rfl, Reports.nil⟩
  | cons q rest ih =>
    obtain ⟨state, fallback⟩ := q
    cases htext : text? state with
    | none =>
      have hasked : askedTexts ((state, fallback) :: rest) = askedTexts rest := by
        simp [askedTexts, htext]
      rw [hasked] at h ⊢
      obtain ⟨reported, hwarnings, hreports⟩ := ih h
      refine ⟨reported, ?_, hreports⟩
      simpa [percentages, percentage, htext] using hwarnings
    | some text =>
      have hasked : askedTexts ((state, fallback) :: rest) = text :: askedTexts rest := by
        simp [askedTexts, htext]
      rw [hasked] at h ⊢
      obtain ⟨reported, hwarnings, hreports⟩ := ih h.read
      refine ⟨_, ?_, Reports.cons h.mem_texts_read hreports⟩
      simp only [percentages, percentage, htext, hwarnings, warnings_read, List.map_append]
      split <;> rfl

/-- **The cache is invisible, repeated warnings apart.**  A row of queries that starts with an empty cache,
    and asks for no more texts than the cache remembers, is answered as it is without a cache: each query
    by the number in its own trace state, or by its own fallback.  What is reported are the texts that are
    no number, each once and in the order in which they are first asked for. -/
theorem percentages_uncached (queries : List (Option TraceState × Quantity))
    (h : (askedTexts queries).toFinset.card ≤ capacity) :
    (Cache.empty.percentages queries).value = queries.map (fun q => Sampling.percentage q.1 q.2) ∧
    List.Forall₂ IsAnswer queries (Cache.empty.percentages queries).value ∧
    ∃ reported : List String,
      (Cache.empty.percentages queries).warnings = reported.map .badSamplingPercentage ∧
      reported.Nodup ∧
      (∀ text, text ∈ reported ↔ text ∈ askedTexts queries ∧ Binary64.read? text = none) ∧
      reported.Pairwise fun a b => (askedTexts queries).idxOf a < (askedTexts queries).idxOf b := by
  have hvalue := percentages_value queries Cache.empty
  have hroom : Cache.empty.HasRoomFor (askedTexts queries) := ⟨List.nodup_nil, h⟩
  obtain ⟨reported, hwarnings, hreports⟩ := reports_percentages queries hroom
  refine ⟨hvalue, ?_, reported, hwarnings, ?_, fun text => ?_, hreports.ordered⟩
  · rw [hvalue, List.forall₂_map_right_iff, List.forall₂_same]
    exact fun q _ => isAnswer_iff.2 rfl
  · -- of two equal texts neither is first asked for before the other
    refine hreports.ordered.imp fun hlt hsame => ?_
    rw [hsame] at hlt
    exact Nat.lt_irrefl _ hlt
  · simpa [texts, Cache.empty] using hreports.mem_iff text

end Cache

/-- Queries of which two ask for the same text that is no number, with different fallbacks. -/
def exampleQueries : List (Option TraceState × Quantity) :=
  let state (text : String) : Option TraceState := some (.ofList [(traceStateKey, text)])
  [(state "often", Quantity.int 25), (none, Quantity.int 100), (state " 12.5", Quantity.int 100),
    (some ∅, Quantity.int 50), (state "rarely", none), (state "often", Quantity.int 75),
    (state " 12.5", Quantity.int 10)]

/-- Each falls back on its own number, and the text is reported once. -/
theorem percentages_uncached_repeated :
    (askedTexts exampleQueries).toFinset.card ≤ Cache.capacity ∧
    (Cache.empty.percentages exampleQueries).value =
      [Quantity.int 25, Quantity.int 100, (Binary64.read? "12.5").map .double, Quantity.int 50, none,
        Quantity.int 75, (Binary64.read? "12.5").map .double] ∧
    (Cache.empty.percentages exampleQueries).warnings =
      [.badSamplingPercentage "often", .badSamplingPercentage "rarely"] := by
  have hfew : (askedTexts exampleQueries).toFinset.card ≤ Cache.capacity := by decide +kernel
  refine ⟨hfew, ?_, by decide +kernel⟩
  rw [(Cache.percentages_uncached exampleQueries hfew).1]
  decide +kernel

end SpanTelemetry.Sampling
