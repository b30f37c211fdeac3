import Mathlib.Data.List.Induction
import SpanTelemetry.Table

namespace SpanTelemetry.Table

/-!
# Going through the entries of a table

Every key occurs once, so the order in which the entries are gone through does not show in what one
key decides.

* `frame_foldl` — what no step changes is unchanged at the end.
* `view_foldl` — what only the entry of one key can set is set by that entry.
* `foldl_filter_of_idle` — entries that do nothing may be left out.
* `get?_insert_eq_some_iff` — what an insertion maps to what.
* `get?_insertList_of_ne` — a key that is not inserted is mapped as before.
* `get?_insertList`, `get?_ofList` — what entries with different keys map a key to.
* `lookup_eq_some_of_mem`, `lookup_eq_none_of_not_mem` — what a list of entries maps a key to.
* `isSome_get?_insertList` — a key that is inserted is there at the end.
* `get?_ofList_eq_some_iff` — of entries with equal keys the last one counts.
* `get?_ofList_eq_getLast?` — entries of other keys do not count at all.
-/

variable {α β σ : Type}

/-- **Frame rule.**  What no step changes is unchanged at the end. -/
theorem frame_foldl (t : Table α) (view : σ → β) {f : σ → String → α → σ}
    (hstep : ∀ s k v, view (f s k v) = view s) (s : σ) :
    view (t.entries.foldl (fun s e => f s e.1 e.2) s) = view s := by
  induction t.entries generalizing s with
  | nil => rfl
  | cons e rest ih => rw [List.foldl_cons, ih, hstep]

/-- The key of an entry occurs in no later one. -/
theorem findEntry_of_cons {e : String × α} {rest : List (String × α)}
    (h : (e :: rest).Pairwise (fun a b => a.1 < b.1)) : findEntry e.1 rest = none :=
  findEntry_eq_none fun d hd => (List.pairwise_cons.1 h).1 d hd

/-- **One key decides.**  Where only the entry of one key can set a view, and each step else leaves
    it as it was, the view at the end is what that entry sets, or what it was at the start. -/
theorem view_foldl (t : Table α) (view : σ → Option β) (key : String) (read : α → Option β)
    {f : σ → String → α → σ}
    (hstep : ∀ s k v, view (f s k v) = (if k = key then read v else none).or (view s)) (s : σ) :
    view (t.entries.foldl (fun s e => f s e.1 e.2) s) = ((t.get? key).bind read).or (view s) := by
  obtain ⟨es, hes⟩ := t
  simp only [get?]
  -- by induction on the entries: the entry of the key, if it comes first, is the only one
  induction es generalizing s with
  | nil => rfl
  | cons e rest ih =>
    rw [List.foldl_cons, ih _ (List.pairwise_cons.1 hes).2, hstep]
    by_cases hk : e.1 = key
    · have hnone : findEntry key rest = none := hk ▸ findEntry_of_cons hes
      simp [findEntry, hk, hnone]
    · simp [findEntry, hk, Ne.symm hk]

/-- Entries that change nothing may be left out. -/
theorem foldl_filter_of_idle {f : σ → String → α → σ} {keep : String → α → Bool}
    (h : ∀ s k v, keep k v = false → f s k v = s) (t : Table α) (s : σ) :
    (t.filter keep).entries.foldl (fun s e => f s e.1 e.2) s =
      t.entries.foldl (fun s e => f s e.1 e.2) s := by
  simp only [filter]
  induction t.entries generalizing s with
  | nil => rfl
  | cons e rest ih =>
    cases hkeep : keep e.1 e.2 with
    | true => simp [hkeep, ih]
    | false => simp [hkeep, ih, h s e.1 e.2 hkeep]

/-- An insertion maps its key to its value, and all other keys as before. -/
theorem get?_insert_eq_some_iff {t : Table α} {k j : String} {v w : α} :
    (t.insert k v).get? j = some w ↔ (j = k ∧ w = v) ∨ (t.get? j = some w ∧ j ≠ k) := by
  rw [get?_insert]
  by_cases h : j = k <;> simp [h, eq_comm]

/-- A key that is not inserted is mapped to what it was mapped to before. -/
theorem get?_insertList_of_ne {key : String} {es : List (String × α)} (t : Table α)
    (h : ∀ e ∈ es, e.1 ≠ key) : (t.insertList es).get? key = t.get? key := by
  unfold insertList
  induction es generalizing t with
  | nil => rfl
  | cons e rest ih =>
    have hne : key ≠ e.1 := Ne.symm (h e List.mem_cons_self)
    rw [List.foldl_cons, ih _ fun d hd => h d (List.mem_cons_of_mem _ hd), get?_insert, if_neg hne]

/-- A key that no entry has is not found. -/
theorem lookup_eq_none_of_not_mem {es : List (String × α)} {key : String}
    (h : key ∉ es.map Prod.fst) : es.lookup key = none := by
  apply List.lookup_eq_none_iff.2
  intro e he
  apply bne_iff_ne.2
  rintro rfl
  exact h (List.mem_map_of_mem he)

/-- Of entries with different keys each one is found. -/
theorem lookup_eq_some_of_mem {es : List (String × α)} (h : (es.map Prod.fst).Nodup)
    {e : String × α} (he : e ∈ es) : es.lookup e.1 = some e.2 := by
  induction es with
  | nil => cases he
  | cons d rest ih =>
    obtain ⟨k, v⟩ := d
    obtain ⟨hfirst, hrest⟩ := List.nodup_cons.1 h
    rcases List.mem_cons.1 he with rfl | hmem
    · exact List.lookup_cons_self
    · have hne : (e.1 == k) = false := by
        apply beq_eq_false_iff_ne.2
        intro hsame
        exact hfirst (List.mem_map.2 ⟨e, hmem, hsame⟩)
      simp only [List.lookup_cons, hne]
      exact ih hrest hmem

/-- Entries with different keys are found again; the other keys are mapped as before. -/
theorem get?_insertList {es : List (String × α)} (h : (es.map Prod.fst).Nodup) (t : Table α)
    (key : String) : (t.insertList es).get? key = (es.lookup key).or (t.get? key) := by
  unfold insertList
  -- by induction on the entries: a later one has another key and leaves the first as it is
  induction es generalizing t with
  | nil => rfl
  | cons e rest ih =>
    obtain ⟨k, v⟩ := e
    obtain ⟨hfirst, hrest⟩ := List.nodup_cons.1 h
    rw [List.foldl_cons, ih hrest, get?_insert]
    by_cases hkey : key = k
    · subst hkey
      rw [lookup_eq_none_of_not_mem hfirst, List.lookup_cons_self, if_pos rfl]
      rfl
    · have hbeq : (key == k) = false := beq_eq_false_iff_ne.2 hkey
      simp only [List.lookup_cons, hbeq, if_neg hkey]

/-- A table of entries with different keys is looked up as their list is. -/
theorem get?_ofList {es : List (String × α)} (h : (es.map Prod.fst).Nodup) (key : String) :
    (ofList es).get? key = es.lookup key := by
  rw [ofList, get?_insertList h]
  exact Option.or_none

/-- A key that is inserted, or that was there before, is there at the end, whatever else is inserted. -/
theorem isSome_get?_insertList {key : String} {es : List (String × α)} (t : Table α)
    (h : (∃ value, (key, value) ∈ es) ∨ (t.get? key).isSome = true) :
    ((t.insertList es).get? key).isSome = true := by
  unfold insertList
  induction es generalizing t with
  | nil =>
    obtain ⟨value, hvalue⟩ | h := h
    · cases hvalue
    · exact h
  | cons e rest ih =>
    refine ih (t.insert e.1 e.2) ?_
    obtain ⟨value, hvalue⟩ | h := h
    · rcases List.mem_cons.1 hvalue with rfl | hrest
      · exact Or.inr (by simp)
      · exact Or.inl ⟨value, hrest⟩
    · refine Or.inr ?_
      rw [get?_insert]
      split
      · rfl
      · exact h

/-! ### The last entry of a key -/

theorem ofList_concat (es : List (String × α)) (e : String × α) :
    ofList (es ++ [e]) = (ofList es).insert e.1 e.2 := by
  rw [ofList, insertList, List.foldl_append]
  rfl

/-- **Of entries with equal keys the last one counts.** -/
theorem get?_ofList_eq_some_iff {es : List (String × α)} {key : String} {value : α} :
    (ofList es).get? key = some value ↔
      ∃ before after, es = before ++ (key, value) :: after ∧ ∀ e ∈ after, e.1 ≠ key := by
  constructor
  · -- by induction from the end: the last entry is the one that counts, or has another key
    induction es using List.reverseRecOn with
    | nil => simp [ofList, insertList, get?, empty, findEntry]
    | append_singleton es e ih =>
      intro h
      rw [ofList_concat, get?_insert] at h
      by_cases hkey : key = e.1
      · rw [if_pos hkey, Option.some.injEq] at h
        exact ⟨es, [], by rw [hkey, ← h], by simp⟩
      · rw [if_neg hkey] at h
        obtain ⟨before, after, rfl, hafter⟩ := ih h
        refine ⟨before, after ++ [e], by simp, fun d hd => ?_⟩
        rcases List.mem_append.1 hd with hd | hd
        · exact hafter d hd
        · obtain rfl := List.mem_singleton.1 hd
          exact Ne.symm hkey
  · rintro ⟨before, after, rfl, hafter⟩
    have hlast : ofList (before ++ (key, value) :: after) =
        ((ofList before).insert key value).insertList after := by
      rw [ofList, insertList, List.foldl_append]
      rfl
    rw [hlast, get?_insertList_of_ne _ hafter, get?_insert, if_pos rfl]

/-- **The entries of other keys do not count**, nor do earlier ones of the same key. -/
theorem get?_ofList_eq_getLast? (es : List (String × α)) (key : String) :
    (ofList es).get? key = (es.filter fun e => e.1 = key).getLast?.map Prod.snd := by
  induction es using List.reverseRecOn with
  | nil => rfl
  | append_singleton es e ih =>
    rw [ofList_concat, get?_insert, List.filter_append]
    by_cases hkey : key = e.1
    · simp [hkey]
    · simp [hkey, Ne.symm hkey, ih]

end SpanTelemetry.Table
