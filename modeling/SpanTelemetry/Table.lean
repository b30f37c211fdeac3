namespace SpanTelemetry

/-!
# Tables keyed by text

A `Table α` maps finitely many keys to values.  Its entries are stored with strictly
increasing keys, so a table is determined by what it maps each key to.

* `Table.get?` — the view: every other operation is described by what it does to `get?`.
* `Table.insert`, `Table.filter`, `Table.ofList` — the ways to make a table.
* `Table.ext_get?` — two tables with the same view are equal.
* `Table.ofList_entries` — the entries of a table rebuild it.
-/

/-- A finite map from keys to values, kept as entries with strictly increasing keys. -/
structure Table (α : Type) where
  /-- The entries, in the order of their keys. -/
  entries : List (String × α)
  /-- No key occurs twice, and keys increase. -/
  increasing : entries.Pairwise (fun a b => a.1 < b.1)
  deriving DecidableEq, Repr

namespace Table

variable {α β : Type}

/-! ### Sorted entries -/

/-- Put a value at its key's place, replacing the entry of that key if there is one. -/
def insertEntry (k : String) (v : α) : List (String × α) → List (String × α)
  | [] => [(k, v)]
  | e :: rest =>
      if k < e.1 then (k, v) :: e :: rest
      else if k = e.1 then (k, v) :: rest
      else e :: insertEntry k v rest

/-- The value stored under a key. -/
def findEntry (k : String) : List (String × α) → Option α
  | [] => none
  | e :: rest => if k = e.1 then some e.2 else findEntry k rest

/-- An entry of the new list is the inserted one, or one of the old list. -/
theorem mem_insertEntry {k : String} {v : α} {es : List (String × α)} {e : String × α}
    (h : e ∈ insertEntry k v es) : e = (k, v) ∨ e ∈ es := by
  induction es with
  | nil => simpa [insertEntry] using h
  | cons d rest ih =>
    simp only [insertEntry] at h
    split at h
    · simpa using h
    · split at h
      · rcases List.mem_cons.1 h with h | h
        · exact Or.inl h
        · exact Or.inr (List.mem_cons_of_mem _ h)
      · rcases List.mem_cons.1 h with h | h
        · exact Or.inr (h ▸ List.mem_cons_self)
        · exact (ih h).imp_right (List.mem_cons_of_mem _)

/-- The keys stay in their order. -/
theorem insertEntry_increasing (k : String) (v : α) {es : List (String × α)}
    (h : es.Pairwise (fun a b => a.1 < b.1)) :
    (insertEntry k v es).Pairwise (fun a b => a.1 < b.1) := by
  induction es with
  | nil => simp [insertEntry]
  | cons d rest ih =>
    obtain ⟨hd, hrest⟩ := List.pairwise_cons.1 h
    simp only [insertEntry]
    split
    · rename_i hlt
      refine List.pairwise_cons.2 ⟨fun e he => ?_, h⟩
      rcases List.mem_cons.1 he with rfl | he
      · exact hlt
      · exact String.lt_trans hlt (hd e he)
    · split
      · rename_i heq
        exact List.pairwise_cons.2 ⟨fun e he => heq ▸ hd e he, hrest⟩
      · rename_i hlt hne
        refine List.pairwise_cons.2 ⟨fun e he => ?_, ih hrest⟩
        rcases mem_insertEntry he with rfl | he
        · exact Std.lt_of_le_of_ne (String.not_lt.1 hlt) (Ne.symm hne)
        · exact hd e he

/-- An inserted entry is found, and all others as before. -/
theorem findEntry_insertEntry (k j : String) (v : α) (es : List (String × α)) :
    findEntry j (insertEntry k v es) = if j = k then some v else findEntry j es := by
  induction es with
  | nil => simp [insertEntry, findEntry]
  | cons d rest ih =>
    simp only [insertEntry]
    split
    · simp [findEntry]
    · split
      · rename_i heq
        by_cases hj : j = k <;> simp [findEntry, hj, ← heq]
      · rename_i hne
        by_cases hj : j = k
        · subst hj
          simp [findEntry, ih, hne]
        · simp [findEntry, ih, hj]

/-- A key in front of all entries is not found. -/
theorem findEntry_eq_none {k : String} {es : List (String × α)} (h : ∀ e ∈ es, k < e.1) :
    findEntry k es = none := by
  induction es with
  | nil => rfl
  | cons d rest ih =>
    have hd := String.ne_of_lt (h d List.mem_cons_self)
    simp [findEntry, hd, ih fun e he => h e (List.mem_cons_of_mem _ he)]

/-- In their order, entries are known by what is found among them. -/
theorem entries_eq_of_findEntry {es fs : List (String × α)}
    (hes : es.Pairwise (fun a b => a.1 < b.1)) (hfs : fs.Pairwise (fun a b => a.1 < b.1))
    (h : ∀ k, findEntry k es = findEntry k fs) : es = fs := by
  induction es generalizing fs with
  | nil =>
    cases fs with
    | nil => rfl
    | cons f rest => simpa [findEntry] using h f.1
  | cons e rest ih =>
    obtain ⟨he, hrest⟩ := List.pairwise_cons.1 hes
    cases fs with
    | nil => simpa [findEntry] using h e.1
    | cons f tail =>
      obtain ⟨hf, htail⟩ := List.pairwise_cons.1 hfs
      have hkey : e.1 = f.1 := by
        apply String.le_antisymm
        · apply String.not_lt.1
          intro hlt
          have hnone : findEntry f.1 (e :: rest) = none := findEntry_eq_none fun x hx => by
            rcases List.mem_cons.1 hx with rfl | hx
            · exact hlt
            · exact String.lt_trans hlt (he x hx)
          have := h f.1
          rw [hnone] at this
          simp [findEntry] at this
        · apply String.not_lt.1
          intro hlt
          have hnone : findEntry e.1 (f :: tail) = none := findEntry_eq_none fun x hx => by
            rcases List.mem_cons.1 hx with rfl | hx
            · exact hlt
            · exact String.lt_trans hlt (hf x hx)
          have := h e.1
          rw [hnone] at this
          simp [findEntry] at this
      have hval : e.2 = f.2 := by simpa [findEntry, hkey] using h e.1
      have hsame : e = f := Prod.ext hkey hval
      subst hsame
      congr 1
      refine ih hrest htail fun k => ?_
      by_cases hk : k = e.1
      · subst hk
        rw [findEntry_eq_none he, findEntry_eq_none hf]
      · simpa [findEntry, hk] using h k

/-! ### Operations -/

/-- The table without entries. -/
def empty : Table α where
  entries := []
  increasing := List.Pairwise.nil

instance : EmptyCollection (Table α) := ⟨empty⟩

instance : Inhabited (Table α) := ⟨empty⟩

/-- What the table maps a key to. -/
def get? (t : Table α) (k : String) : Option α := findEntry k t.entries

/-- Map a key to a value, whatever it was mapped to before. -/
def insert (t : Table α) (k : String) (v : α) : Table α where
  entries := insertEntry k v t.entries
  increasing := insertEntry_increasing k v t.increasing

/-- Insert the given entries one after the other; the last entry of a key wins. -/
def insertList (t : Table α) (es : List (String × α)) : Table α :=
  es.foldl (fun t e => t.insert e.1 e.2) t

/-- The table of the given entries; the last entry of a key wins. -/
def ofList (es : List (String × α)) : Table α := insertList empty es

/-- Keep the entries that pass a test. -/
def filter (p : String → α → Bool) (t : Table α) : Table α where
  entries := t.entries.filter (fun e => p e.1 e.2)
  increasing := t.increasing.sublist List.filter_sublist

/-- Whether the table has no entry. -/
def isEmpty (t : Table α) : Bool := t.entries.isEmpty

/-! ### The view -/

@[simp] theorem get?_empty (k : String) : (∅ : Table α).get? k = none := rfl

@[simp] theorem get?_insert (t : Table α) (k j : String) (v : α) :
    (t.insert k v).get? j = if j = k then some v else t.get? j :=
  findEntry_insertEntry k j v t.entries

/-- Two tables that map every key alike are the same table. -/
theorem ext_get? {s t : Table α} (h : ∀ k, s.get? k = t.get? k) : s = t := by
  cases s; cases t
  congr 1
  exact entries_eq_of_findEntry ‹_› ‹_› h

/-- The entries are what is found under their keys. -/
theorem mem_entries_iff (t : Table α) (k : String) (v : α) :
    (k, v) ∈ t.entries ↔ t.get? k = some v := by
  obtain ⟨es, hes⟩ := t
  simp only [get?]
  induction es with
  | nil => simp [findEntry]
  | cons e rest ih =>
    obtain ⟨he, hrest⟩ := List.pairwise_cons.1 hes
    by_cases hk : k = e.1
    · subst hk
      have hnot : (e.1, v) ∉ rest := fun hm => String.lt_irrefl e.1 (he (e.1, v) hm)
      simp only [List.mem_cons, hnot, or_false, findEntry, if_true, Option.some.injEq]
      exact ⟨fun h => (congrArg Prod.snd h).symm, fun h => h ▸ rfl⟩
    · have hne : (k, v) ≠ e := fun h => hk (congrArg Prod.fst h)
      simp [findEntry, hk, hne, ih hrest]

/-- A filter drops the values that it does not let through. -/
theorem get?_filter (p : String → α → Bool) (t : Table α) (k : String) :
    (t.filter p).get? k = (t.get? k).filter (p k) := by
  apply Option.ext
  intro v
  rw [← mem_entries_iff, Option.filter_eq_some_iff, ← mem_entries_iff]
  simp [filter, List.mem_filter]

/-- A key behind all others is added at the end. -/
theorem insertEntry_of_lt {k : String} {v : α} {es : List (String × α)}
    (h : ∀ e ∈ es, e.1 < k) : insertEntry k v es = es ++ [(k, v)] := by
  induction es with
  | nil => rfl
  | cons e rest ih =>
    have hlt := h e List.mem_cons_self
    have hrest := ih fun d hd => h d (List.mem_cons_of_mem _ hd)
    simp [insertEntry, String.lt_asymm hlt, Ne.symm (String.ne_of_lt hlt), hrest]

/-- So is a list of entries behind all others. -/
theorem insertList_entries (t : Table α) (es : List (String × α))
    (h : (t.entries ++ es).Pairwise (fun a b => a.1 < b.1)) :
    (t.insertList es).entries = t.entries ++ es := by
  induction es generalizing t with
  | nil => simp [insertList]
  | cons e rest ih =>
    have hlt : ∀ d ∈ t.entries, d.1 < e.1 := fun d hd =>
      (List.pairwise_append.1 h).2.2 d hd e List.mem_cons_self
    have hstep : (t.insert e.1 e.2).entries = t.entries ++ [e] := insertEntry_of_lt hlt
    have := ih (t.insert e.1 e.2) (by rw [hstep]; simpa using h)
    simp only [insertList, List.foldl_cons] at this ⊢
    rw [this, hstep]
    simp

/-- The entries of a table rebuild it. -/
theorem ofList_entries (t : Table α) : ofList t.entries = t := by
  obtain ⟨es, hes⟩ := t
  have h := insertList_entries (empty : Table α) es (by simpa [empty] using hes)
  simp only [ofList]
  cases hT : insertList empty es
  simp_all [empty]

end Table

end SpanTelemetry
