import Mathlib.Data.List.Nodup
import SpanTelemetry.PrefixTrie
import SpanTelemetry.Text.Basic

namespace SpanTelemetry

/-!
# Prefix tries as maps

A trie is described by the value that it holds under each text.

* `PrefixTrie.valueAtChars?_insertChars` — registration changes the value under one text only.
* `PrefixTrie.lookupChars_eq` — look-up gives the value under the longest beginning of a key that
  has one.
* `PrefixTrie.isSome_lookup_ofList_iff` — hence a key is found iff it begins with a registered text.
* `PrefixTrie.IsLongestBeginning` — the longest registered text that a key begins with.
* `PrefixTrie.lookup_longest` — hence the value of that text is found, in whatever order the texts are
  registered.
-/

namespace PrefixTrie

variable {α : Type}

/-! ### Registration -/

@[simp] theorem child?_empty (c : Char) : (empty : PrefixTrie α).child? c = none := rfl

@[simp] theorem valueAtChars?_empty (text : List Char) :
    valueAtChars? text (empty : PrefixTrie α) = none := by
  cases text <;> rfl

private theorem lookup_cons (d c : Char) (t : PrefixTrie α) (rest : List (Char × PrefixTrie α)) :
    ((c, t) :: rest).lookup d = if d = c then some t else rest.lookup d := by
  by_cases h : d = c
  · simp [h]
  · have hbeq : (d == c) = false := by simpa using h
    rw [List.lookup_cons, hbeq, if_neg h]

theorem lookup_updateChild (c d : Char) (f : PrefixTrie α → PrefixTrie α)
    (children : List (Char × PrefixTrie α)) :
    (updateChild c f children).lookup d =
      if d = c then some (f ((children.lookup d).getD empty)) else children.lookup d := by
  induction children with
  | nil => simp [updateChild, lookup_cons]
  | cons e rest ih =>
    obtain ⟨b, t⟩ := e
    by_cases hb : c = b
    · subst hb
      by_cases hd : d = c <;> simp [updateChild, lookup_cons, hd]
    · by_cases hd : d = b
      · subst hd
        simp [updateChild, hb, Ne.symm hb]
      · simp [updateChild, lookup_cons, hb, hd, ih]

/-- **Registration** sets the value under one text and leaves all others alone. -/
theorem valueAtChars?_insertChars (value : α) (registered text : List Char) (t : PrefixTrie α) :
    valueAtChars? text (insertChars value registered t) =
      if text = registered then some value else valueAtChars? text t := by
  induction registered generalizing text t with
  | nil =>
    obtain ⟨v, children⟩ := t
    cases text with
    | nil => rfl
    | cons d more => rfl
  | cons c rest ih =>
    obtain ⟨v, children⟩ := t
    cases text with
    | nil => rfl
    | cons d more =>
      simp only [insertChars, valueAtChars?, child?, PrefixTrie.children, lookup_updateChild]
      by_cases hd : d = c
      · subst hd
        simp only [if_true, Option.bind_some, ih, List.cons.injEq, true_and]
        cases children.lookup d <;> simp
      · simp [hd]

/-- **Of registrations under one text the last one counts.** -/
theorem valueAtChars?_ofList (entries : List (String × α)) (text : List Char) :
    valueAtChars? text (ofList entries) =
      (entries.reverse.find? fun e => e.1.toList = text).map Prod.snd := by
  have h (t : PrefixTrie α) :
      valueAtChars? text (entries.foldl (fun t e => t.insert e.1 e.2) t) =
        ((entries.reverse.find? fun e => e.1.toList = text).map Prod.snd).or
          (valueAtChars? text t) := by
    induction entries generalizing t with
    | nil => rfl
    | cons e rest ih =>
      rw [List.foldl_cons, ih, insert, valueAtChars?_insertChars, List.reverse_cons,
        List.find?_append]
      cases rest.reverse.find? fun e => e.1.toList = text with
      | some last => rfl
      | none =>
        by_cases he : text = e.1.toList
        · simp [he]
        · simp [he, Ne.symm he]
  rw [ofList, h, valueAtChars?_empty, Option.or_none]

/-- Under a text there is a value iff one was registered there. -/
theorem isSome_valueAtChars?_ofList_iff (entries : List (String × α)) (text : List Char) :
    (valueAtChars? text (ofList entries)).isSome ↔ ∃ e ∈ entries, e.1.toList = text := by
  simp [valueAtChars?_ofList]

/-- Where no text is registered twice, a text has the value that is registered under it. -/
theorem valueAtChars?_ofList_eq_some_iff {entries : List (String × α)}
    (h : (entries.map Prod.fst).Nodup) {text : String} {value : α} :
    valueAtChars? text.toList (ofList entries) = some value ↔ (text, value) ∈ entries := by
  rw [valueAtChars?_ofList, Option.map_eq_some_iff]
  constructor
  · rintro ⟨e, he, rfl⟩
    have htext : e.1 = text := String.toList_inj.1 (by simpa using List.find?_some he)
    exact htext ▸ List.mem_reverse.1 (List.mem_of_find?_eq_some he)
  · intro hmem
    have hfound : (entries.reverse.find? fun e => e.1.toList = text.toList).isSome :=
      List.find?_isSome.2 ⟨(text, value), List.mem_reverse.2 hmem, by simp⟩
    obtain ⟨e, he⟩ := Option.isSome_iff_exists.1 hfound
    have htext : e.1 = text := String.toList_inj.1 (by simpa using List.find?_some he)
    -- the texts differ, so that the registration that is found is the one under the text
    have hsame : e = (text, value) :=
      List.inj_on_of_nodup_map h (List.mem_reverse.1 (List.mem_of_find?_eq_some he)) hmem htext
    exact ⟨e, he, by rw [hsame]⟩

/-! ### Look-up -/

/-- The value under the longest non-empty beginning of a key that has one. -/
def longestValue? (key : List Char) (t : PrefixTrie α) : Option α :=
  (List.range key.length).reverse.findSome? fun n => valueAtChars? (key.take (n + 1)) t

/-- The longest beginning of a key leads on below the child under its first character, or it is that
    character alone. -/
theorem longestValue?_cons (c : Char) (rest : List Char) (t : PrefixTrie α) :
    longestValue? (c :: rest) t =
      (t.child? c).bind fun sub => (longestValue? rest sub).or sub.value? := by
  have hstep (n : Nat) : valueAtChars? ((c :: rest).take (n + 1)) t =
      (t.child? c).bind (valueAtChars? (rest.take n)) := rfl
  unfold longestValue?
  rw [List.length_cons, List.range_succ_eq_map, List.reverse_cons, List.findSome?_append,
    ← List.map_reverse, List.findSome?_map]
  simp only [hstep, Function.comp_def]
  cases t.child? c with
  | none => simp
  | some sub => simp [valueAtChars?]

/-- **Look-up** gives the value under the longest beginning of the key that has one, or what was
    found before. -/
theorem lookupChars_eq (key : List Char) (t : PrefixTrie α) (found : Option α) :
    lookupChars key t found = (longestValue? key t).or found := by
  induction key generalizing t found with
  | nil => rfl
  | cons c rest ih =>
    rw [longestValue?_cons]
    unfold lookupChars
    cases t.child? c with
    | none => rfl
    | some sub =>
      simp only
      rw [ih, Option.bind_some, Option.or_assoc]

/-- **A key is found** iff it begins with a registered text that is not empty. -/
theorem isSome_lookup_ofList_iff (entries : List (String × α)) (key : String) :
    ((ofList entries).lookup key).isSome ↔
      ∃ e ∈ entries, e.1 ≠ "" ∧ Text.startsWith key e.1 = true := by
  unfold lookup
  rw [lookupChars_eq, Option.or_none, longestValue?, List.findSome?_isSome_iff]
  simp only [List.mem_reverse, List.mem_range, isSome_valueAtChars?_ofList_iff]
  simp only [Text.startsWith_eq_true_iff]
  constructor
  · rintro ⟨n, hn, e, he, htext⟩
    refine ⟨e, he, ?_, htext ▸ List.take_prefix _ _⟩
    rintro hempty
    have hlength := congrArg List.length htext
    simp only [hempty, List.length_take] at hlength
    simp at hlength
    omega
  · rintro ⟨e, he, hne, rest, hkey⟩
    have hpos : 0 < e.1.toList.length := List.length_pos_iff.2 (by simpa using hne)
    refine ⟨e.1.toList.length - 1, ?_, e, he, ?_⟩
    · simp only [← hkey, List.length_append]
      omega
    · rw [Nat.sub_add_cancel hpos, ← hkey, List.take_left]

/-! ### The longest beginning -/

/-- The longest of the registered texts that a key begins with, and its value. The empty text does not
    count. -/
structure IsLongestBeginning (entries : List (String × α)) (key text : String) (value : α) : Prop where
  registered : (text, value) ∈ entries
  ne_empty : text ≠ ""
  begins : Text.startsWith key text = true
  longest : ∀ e ∈ entries, Text.startsWith key e.1 = true → e.1.length ≤ text.length

/-- In a range that is gone through from its end, the largest number with a value decides. -/
theorem findSome?_range_reverse_eq_some_iff {k : Nat} {f : Nat → Option α} {value : α} :
    (List.range k).reverse.findSome? f = some value ↔
      ∃ n < k, f n = some value ∧ ∀ m < k, n < m → f m = none := by
  induction k with
  | zero => simp
  | succ k ih =>
    rw [List.range_succ, List.reverse_append, List.reverse_singleton, List.singleton_append,
      List.findSome?_cons]
    cases hk : f k with
    | some other =>
      constructor
      · intro hvalue
        exact ⟨k, Nat.lt_succ_self k, hk.trans hvalue, fun m hm hlt => by omega⟩
      · rintro ⟨n, hn, hvalue, hlast⟩
        rcases Nat.lt_succ_iff_lt_or_eq.1 hn with hlt | rfl
        · cases hk.symm.trans (hlast k (Nat.lt_succ_self k) hlt)
        · exact hk.symm.trans hvalue
    | none =>
      rw [ih]
      constructor
      · rintro ⟨n, hn, hvalue, hlast⟩
        refine ⟨n, Nat.lt_succ_of_lt hn, hvalue, fun m hm hlt => ?_⟩
        rcases Nat.lt_succ_iff_lt_or_eq.1 hm with hm | rfl
        · exact hlast m hm hlt
        · exact hk
      · rintro ⟨n, hn, hvalue, hlast⟩
        rcases Nat.lt_succ_iff_lt_or_eq.1 hn with hn | rfl
        · exact ⟨n, hn, hvalue, fun m hm hlt => hlast m (Nat.lt_succ_of_lt hm) hlt⟩
        · cases hk.symm.trans hvalue

/-- A text that a key begins with is the beginning of the key of its length. -/
theorem take_of_startsWith {key text : String} (h : Text.startsWith key text = true) :
    key.toList.take text.length = text.toList := by
  rw [← String.length_toList]
  exact (List.prefix_iff_eq_take.1 (Text.startsWith_eq_true_iff.1 h)).symm

/-- **A value is found** iff it is that of the longest registered text that the key begins with. -/
theorem lookup_ofList_eq_some_iff {entries : List (String × α)} (h : (entries.map Prod.fst).Nodup)
    {key : String} {value : α} :
    (ofList entries).lookup key = some value ↔ ∃ text, IsLongestBeginning entries key text value := by
  unfold lookup
  rw [lookupChars_eq, Option.or_none, longestValue?, findSome?_range_reverse_eq_some_iff]
  constructor
  · rintro ⟨n, hn, hvalue, hlast⟩
    have htext : (String.ofList (key.toList.take (n + 1))).toList = key.toList.take (n + 1) :=
      String.toList_ofList
    have hlength : (String.ofList (key.toList.take (n + 1))).length = n + 1 := by
      rw [← String.length_toList, htext, List.length_take]
      omega
    refine ⟨String.ofList (key.toList.take (n + 1)), ?_, ?_, ?_, fun e he hbegins => ?_⟩
    · rw [← valueAtChars?_ofList_eq_some_iff h, htext]
      exact hvalue
    · rintro hempty
      rw [hempty] at hlength
      cases hlength
    · rw [Text.startsWith_eq_true_iff, htext]
      exact List.take_prefix _ _
    · rw [hlength]
      by_contra hlonger
      -- a longer text would have been met behind the one that is found
      have hfits : e.1.length ≤ key.toList.length := by
        rw [← String.length_toList]
        exact (Text.startsWith_eq_true_iff.1 hbegins).length_le
      have hnone := hlast (e.1.length - 1) (by omega) (by omega)
      rw [Nat.sub_add_cancel (by omega), take_of_startsWith hbegins] at hnone
      have hsome := (isSome_valueAtChars?_ofList_iff entries e.1.toList).2 ⟨e, he, rfl⟩
      rw [hnone] at hsome
      cases hsome
  · rintro ⟨text, hregistered, hne, hbegins, hlongest⟩
    have hpos : 0 < text.length := by
      rw [Nat.pos_iff_ne_zero, ← String.length_toList, Ne, List.length_eq_zero_iff]
      simpa using hne
    have hfits : text.length ≤ key.toList.length := by
      rw [← String.length_toList]
      exact (Text.startsWith_eq_true_iff.1 hbegins).length_le
    refine ⟨text.length - 1, by omega, ?_, fun m hm hlt => ?_⟩
    · rw [Nat.sub_add_cancel hpos, take_of_startsWith hbegins,
        valueAtChars?_ofList_eq_some_iff h]
      exact hregistered
    · rw [← Option.not_isSome_iff_eq_none, isSome_valueAtChars?_ofList_iff]
      rintro ⟨e, he, htake⟩
      have hshort := hlongest e he
        (Text.startsWith_eq_true_iff.2 (htake ▸ List.take_prefix _ _))
      have hlength : e.1.length = m + 1 := by
        rw [← String.length_toList, htake, List.length_take]
        omega
      omega

/-- The order of the registrations does not decide which text is the longest. -/
theorem isLongestBeginning_iff_of_perm {entries built : List (String × α)} (h : built.Perm entries)
    {key text : String} {value : α} :
    IsLongestBeginning built key text value ↔ IsLongestBeginning entries key text value := by
  constructor
  · rintro ⟨hregistered, hne, hbegins, hlongest⟩
    exact ⟨h.mem_iff.1 hregistered, hne, hbegins, fun e he => hlongest e (h.mem_iff.2 he)⟩
  · rintro ⟨hregistered, hne, hbegins, hlongest⟩
    exact ⟨h.mem_iff.2 hregistered, hne, hbegins, fun e he => hlongest e (h.mem_iff.1 he)⟩

/-- **Look-up finds the longest beginning.**  In a trie of different texts, registered in any order, a key
    has the value of the longest non-empty text that it begins with, and what is fallen back on if there
    is no such text. -/
theorem lookup_longest (entries built : List (String × α)) (h : (entries.map Prod.fst).Nodup)
    (hbuilt : built.Perm entries) (key : String) (fallback value : α) :
    ((ofList built).lookup key).getD fallback = value ↔
      (∃ text, IsLongestBeginning entries key text value) ∨
        ((∀ e ∈ entries, e.1 ≠ "" → Text.startsWith key e.1 = false) ∧ fallback = value) := by
  have hnodup : (built.map Prod.fst).Nodup := (hbuilt.map Prod.fst).nodup_iff.2 h
  have hfound : (ofList built).lookup key = some value ↔
      ∃ text, IsLongestBeginning entries key text value := by
    simp only [lookup_ofList_eq_some_iff hnodup, isLongestBeginning_iff_of_perm hbuilt]
  have hmissing : (ofList built).lookup key = none ↔
      ∀ e ∈ entries, e.1 ≠ "" → Text.startsWith key e.1 = false := by
    rw [← Option.not_isSome_iff_eq_none, isSome_lookup_ofList_iff]
    simp [hbuilt.mem_iff]
  rw [← hfound, ← hmissing]
  cases (ofList built).lookup key <;> simp

/-- Texts of which some begin with others; the empty one is registered too, and one has no value. -/
def exampleEntries : List (String × Option Nat) :=
  [("http.", some 1), ("http.request.header.", none), ("", some 9), ("h", some 3)]

/-- The longest text has no value, which counts more than the values of the others; a key that only the
    empty text begins falls back. -/
theorem lookup_longest_header :
    (exampleEntries.map Prod.fst).Nodup ∧ exampleEntries.reverse.Perm exampleEntries ∧
    ((ofList exampleEntries.reverse).lookup "http.request.header.host").getD (some 0) = none ∧
    ((ofList exampleEntries.reverse).lookup "http.method").getD (some 0) = some 1 ∧
    ((ofList exampleEntries.reverse).lookup "rpc.system").getD (some 0) = some 0 := by
  have hnodup : (exampleEntries.map Prod.fst).Nodup := by decide
  have hperm := List.reverse_perm exampleEntries
  refine ⟨hnodup, hperm, ?_, ?_, ?_⟩
  · refine (lookup_longest _ _ hnodup hperm _ _ _).2 (Or.inl ⟨"http.request.header.", ?_⟩)
    exact ⟨by decide, by decide, by decide, by decide⟩
  · refine (lookup_longest _ _ hnodup hperm _ _ _).2 (Or.inl ⟨"http.", ?_⟩)
    exact ⟨by decide, by decide, by decide, by decide⟩
  · exact (lookup_longest _ _ hnodup hperm _ _ _).2 (Or.inr ⟨by decide, rfl⟩)

end PrefixTrie

end SpanTelemetry
