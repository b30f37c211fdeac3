import Mathlib.Data.List.Forall2
import SpanTelemetry.Configuration
import SpanTelemetry.Proofs.Table
import SpanTelemetry.Proofs.Text.Cut
import SpanTelemetry.Proofs.Text.Trim
import SpanTelemetry.Proofs.Traversal

namespace SpanTelemetry

open Text

/-!
# Connection strings are accepted exactly by their grammar

A connection string joins entries with semicolons.  The grammar says which entries are settings, and which
value they give to a key; it is stated here without reference to how a connection string is read.

* `ConnectionString.HasEntries` — the entries of a connection string.
* `ConnectionString.IsSetting`, `ConnectionString.Sets` — an entry is a setting, and what it sets.
* `ConnectionString.LastSets` — of the entries that set a key the last one counts.
* `ConnectionString.Spells` — the ways to write down a row of settings.
* `readSegment_eq_ok_iff`, `readSegment_eq_error_iff` — an entry is read iff it is a setting.
* `Configuration.connectionString_grammar` — which connection strings are refused, with which error, and
  which instrumentation key the others name.
-/

namespace ConnectionString

/-! ### The grammar -/

/-- The entries of a connection string are what stands between its semicolons, without the blanks around
    it, as far as anything is left. -/
def HasEntries (text : String) (entries : List (List Char)) : Prop :=
  ∃ parts cores : List (List Char), parts ≠ [] ∧ (∀ part ∈ parts, ';' ∉ part) ∧
    text.toList = [';'].intercalate parts ∧ List.Forall₂ TrimsTo parts cores ∧
    entries = cores.filter fun core => core ≠ []

/-- An entry is a setting if it has an equals sign, and more than blanks in front of the first one. -/
def IsSetting (entry : List Char) : Prop :=
  ∃ left right, entry = left ++ '=' :: right ∧ '=' ∉ left ∧ ∃ c ∈ left, isBlank c = false

/-- An entry sets a key, which it writes in any case, to a value.  Blanks around the two do not count. -/
def Sets (entry key value : List Char) : Prop :=
  ∃ left right written, entry = left ++ '=' :: right ∧ '=' ∉ left ∧
    TrimsTo left written ∧ lowercase written = key ∧ TrimsTo right value

/-- The last of the entries that set a key sets it to a value. -/
def LastSets (entries : List (List Char)) (key value : List Char) : Prop :=
  ∃ before entry after, entries = before ++ entry :: after ∧ Sets entry key value ∧
    ∀ later ∈ after, ∀ other, ¬ Sets later key other

/-- The parts of a connection string spell settings, in their order: each part is blank or a setting. -/
inductive Spells : List (List Char) → List (List Char × List Char) → Prop where
  | nil : Spells [] []
  | blank {part : List Char} {parts : List (List Char)} {settings : List (List Char × List Char)}
      (hblank : ∀ c ∈ part, isBlank c = true) (hparts : Spells parts settings) :
      Spells (part :: parts) settings
  | setting {part key value : List Char} {parts : List (List Char)}
      {settings : List (List Char × List Char)} (hsetting : IsSetting part)
      (hsets : Sets part key value) (hparts : Spells parts settings) :
      Spells (part :: parts) ((key, value) :: settings)

/-- A connection string spells settings. -/
def Spelled (text : String) (settings : List (List Char × List Char)) : Prop :=
  ∃ parts : List (List Char), parts ≠ [] ∧ (∀ part ∈ parts, ';' ∉ part) ∧
    text.toList = [';'].intercalate parts ∧ Spells parts settings

/-! ### Entries -/

/-- Parts are trimmed one by one. -/
theorem forall₂_trimsTo_iff {parts cores : List (List Char)} :
    List.Forall₂ TrimsTo parts cores ↔ parts.map trim = cores := by
  induction parts generalizing cores with
  | nil => simp [eq_comm]
  | cons part rest ih =>
    cases cores with
    | nil => simp
    | cons core more => simp [trim_eq_iff, ih]

/-- A connection string has the entries that are read. -/
theorem hasEntries_iff {text : String} {entries : List (List Char)} :
    HasEntries text entries ↔ entries = segments text := by
  have hread : segments text = ((pieces ';' text.toList).map trim).filter fun core => core ≠ [] := by
    unfold segments
    congr 1
    ext core
    cases core <;> rfl
  constructor
  · rintro ⟨parts, cores, hne, hparts, htext, hcores, rfl⟩
    rw [hread, pieces_eq_iff.2 ⟨hne, hparts, htext⟩, forall₂_trimsTo_iff.1 hcores]
  · rintro rfl
    obtain ⟨hne, hparts, htext⟩ := pieces_spec ';' text.toList
    exact ⟨_, _, hne, hparts, htext, forall₂_trimsTo_iff.2 rfl, hread⟩

/-! ### Settings -/

section Cut

variable {left right key value : List Char}

/-- A segment with an equals sign is a setting iff something but blanks stands in front of it. -/
theorem isSetting_append_iff (h : '=' ∉ left) :
    IsSetting (left ++ '=' :: right) ↔ trim left ≠ [] := by
  have hblank : trim left ≠ [] ↔ ∃ c ∈ left, isBlank c = false := by
    simp [trim_eq_nil_iff]
  rw [hblank]
  constructor
  · rintro ⟨left', right', htext, hleft', hnot⟩
    obtain ⟨rfl, -⟩ := cut_unique h hleft' htext
    exact hnot
  · intro hnot
    exact ⟨left, right, rfl, h, hnot⟩

/-- What a segment sets, by its first equals sign. -/
theorem sets_append_iff (h : '=' ∉ left) :
    Sets (left ++ '=' :: right) key value ↔ lowercase (trim left) = key ∧ trim right = value := by
  constructor
  · rintro ⟨left', right', written, htext, hleft', hwritten, hkey, hvalue⟩
    obtain ⟨rfl, rfl⟩ := cut_unique h hleft' htext
    rw [trim_eq_iff.2 hwritten, trim_eq_iff.2 hvalue]
    exact ⟨hkey, rfl⟩
  · rintro ⟨rfl, rfl⟩
    exact ⟨left, right, trim left, rfl, h, trimsTo_trim left, rfl, trimsTo_trim right⟩

/-- Only an entry with an equals sign sets anything. -/
theorem Sets.mem {entry : List Char} (h : Sets entry key value) : '=' ∈ entry := by
  obtain ⟨left, right, written, rfl, -⟩ := h
  simp

/-- A setting has an equals sign. -/
theorem IsSetting.mem {entry : List Char} (h : IsSetting entry) : '=' ∈ entry := by
  obtain ⟨left, right, rfl, -⟩ := h
  simp

end Cut

variable {entry : List Char}

/-- **An entry is read** iff it is a setting, and as what it sets. -/
theorem readSegment_eq_ok_iff {key value : String} :
    readSegment entry = .ok (key, value) ↔ IsSetting entry ∧ Sets entry key.toList value.toList := by
  cases hcut : cutFirst '=' entry with
  | none =>
    have hmark := cutFirst_eq_none_iff.1 hcut
    simp only [readSegment, hcut, reduceCtorEq, false_iff]
    exact fun h => hmark h.1.mem
  | some halves =>
    obtain ⟨left, right⟩ := halves
    obtain ⟨rfl, hleft⟩ := cutFirst_eq_some_iff.1 hcut
    rw [isSetting_append_iff hleft, sets_append_iff hleft]
    by_cases hkey : trim left = []
    · simp [readSegment, hcut, hkey]
    · simp [readSegment, hcut, hkey, ← String.toList_inj]

/-- **An entry is refused** iff it is no setting, and the error names it. -/
theorem readSegment_eq_error_iff {e : ConnectionStringError} :
    readSegment entry = .error e ↔
      ¬ IsSetting entry ∧ e = .invalidSegment (String.ofList entry) := by
  cases hcut : cutFirst '=' entry with
  | none =>
    have hmark : ¬ IsSetting entry := fun h => cutFirst_eq_none_iff.1 hcut h.mem
    simp only [readSegment, hcut, Except.error.injEq]
    exact ⟨fun h => ⟨hmark, h.symm⟩, fun h => h.2.symm⟩
  | some halves =>
    obtain ⟨left, right⟩ := halves
    obtain ⟨rfl, hleft⟩ := cutFirst_eq_some_iff.1 hcut
    rw [isSetting_append_iff hleft]
    by_cases hkey : trim left = []
    · simp only [readSegment, hcut, hkey, List.isEmpty_nil, if_true, Except.error.injEq,
        ne_eq, not_true_eq_false, not_false_eq_true, true_and]
      exact eq_comm
    · simp [readSegment, hcut, hkey]

/-- A segment is read iff it is a setting. -/
theorem exists_readSegment_iff : (∃ setting, readSegment entry = .ok setting) ↔ IsSetting entry := by
  constructor
  · rintro ⟨setting, hsetting⟩
    exact (readSegment_eq_ok_iff.1 hsetting).1
  · intro hsetting
    cases hread : readSegment entry with
    | ok setting => exact ⟨setting, rfl⟩
    | error e => exact absurd hsetting (readSegment_eq_error_iff.1 hread).1

/-! ### What is set -/

section Read

variable {entries : List (List Char)} {settings : List (String × String)}

/-- The first entry that is no setting is what a row of entries is refused for. -/
theorem mapM_readSegment_eq_error_iff {e : ConnectionStringError} :
    entries.mapM readSegment = .error e ↔ ∃ before entry after,
      entries = before ++ entry :: after ∧ (∀ b ∈ before, IsSetting b) ∧ ¬ IsSetting entry ∧
        e = .invalidSegment (String.ofList entry) := by
  simp only [mapM_eq_error_iff, exists_readSegment_iff, readSegment_eq_error_iff]

/-- All segments are read iff all of them are settings. -/
theorem exists_mapM_readSegment_iff :
    (∃ settings, entries.mapM readSegment = .ok settings) ↔ ∀ e ∈ entries, IsSetting e := by
  constructor
  · rintro ⟨settings, hread⟩ e he
    have hmem := List.mem_map_of_mem (f := readSegment) he
    rw [mapM_eq_ok_iff.1 hread] at hmem
    obtain ⟨setting, -, hsetting⟩ := List.mem_map.1 hmem
    exact exists_readSegment_iff.1 ⟨setting, hsetting.symm⟩
  · intro hall
    cases hread : entries.mapM readSegment with
    | ok settings => exact ⟨settings, rfl⟩
    | error e =>
      -- the entry that is refused would be no setting
      obtain ⟨before, entry, after, rfl, -, hentry, -⟩ := mapM_readSegment_eq_error_iff.1 hread
      exact absurd (hall entry (by simp)) hentry

/-- **The last entry of a key counts** in what is read. -/
theorem get?_ofList_iff_lastSets (hread : entries.mapM readSegment = .ok settings)
    {key value : String} :
    (Table.ofList settings).get? key = some value ↔ LastSets entries key.toList value.toList := by
  have hall := exists_mapM_readSegment_iff.1 ⟨settings, hread⟩
  have hmap := mapM_eq_ok_iff.1 hread
  rw [Table.get?_ofList_eq_some_iff]
  constructor
  · rintro ⟨before, after, rfl, hafter⟩
    rw [List.map_append, List.map_cons] at hmap
    obtain ⟨first, rest, rfl, -, hrest⟩ := List.map_eq_append_iff.1 hmap
    obtain ⟨entry, later, rfl, hentry, hlater⟩ := List.map_eq_cons_iff.1 hrest
    refine ⟨first, entry, later, rfl, (readSegment_eq_ok_iff.1 hentry).2, ?_⟩
    intro e he other hsets
    -- a later entry of the key would be read as one
    have hsetting : readSegment e = .ok (key, String.ofList other) :=
      readSegment_eq_ok_iff.2 ⟨hall e (by simp [he]), by rwa [String.toList_ofList]⟩
    have hmem := List.mem_map_of_mem (f := readSegment) he
    rw [hlater, hsetting] at hmem
    obtain ⟨setting, hmem, hsame⟩ := List.mem_map.1 hmem
    obtain rfl := Except.ok.inj hsame
    exact hafter _ hmem rfl
  · rintro ⟨first, entry, later, rfl, hsets, hlater⟩
    have hentry : readSegment entry = .ok (key, value) :=
      readSegment_eq_ok_iff.2 ⟨hall entry (by simp), hsets⟩
    rw [List.map_append, List.map_cons, hentry] at hmap
    obtain ⟨before, rest, rfl, -, hrest⟩ := List.map_eq_append_iff.1 hmap.symm
    obtain ⟨setting, after, rfl, hsetting, hafter⟩ := List.map_eq_cons_iff.1 hrest
    obtain rfl := Except.ok.inj hsetting
    refine ⟨before, after, rfl, ?_⟩
    intro d hd hkey
    have hmem := List.mem_map_of_mem (f := (Except.ok : _ → Except ConnectionStringError _)) hd
    rw [hafter] at hmem
    obtain ⟨e, he, hsame⟩ := List.mem_map.1 hmem
    have hread : IsSetting e ∧ Sets e d.1.toList d.2.toList := readSegment_eq_ok_iff.1 hsame
    rw [hkey] at hread
    exact hlater e he _ hread.2

end Read

/-! ### The instrumentation key -/

section Key

variable {text : String} {settings : List (String × String)}

/-- A segment that is no setting fails the whole string. -/
theorem readInstrumentationKey_of_error {e : ConnectionStringError}
    (h : (segments text).mapM readSegment = .error e) : readInstrumentationKey text = .error e := by
  rw [readInstrumentationKey, read, h]
  rfl

/-- The instrumentation key is what is set, unless that is nothing. -/
theorem readInstrumentationKey_of_ok (h : (segments text).mapM readSegment = .ok settings) :
    readInstrumentationKey text =
      let key := ((Table.ofList settings).get? instrumentationKey).getD ""
      if key = "" then .error .missingInstrumentationKey else .ok key := by
  rw [readInstrumentationKey, read, h]
  simp only [Except.map, bind, Except.bind]
  cases (Table.ofList settings).get? instrumentationKey with
  | none => rfl
  | some key => simp

/-- The last setting of a key is the one that a table of the settings has. -/
theorem lastSets_iff_get?_eq (h : (segments text).mapM readSegment = .ok settings)
    {value : List Char} : LastSets (segments text) instrumentationKey.toList value ↔
      (Table.ofList settings).get? instrumentationKey = some (String.ofList value) := by
  have hvalue : (String.ofList value).toList = value := String.toList_ofList
  rw [get?_ofList_iff_lastSets h, hvalue]

/-- Where all entries are settings, the last one of the instrumentation key names it. -/
theorem readInstrumentationKey_eq_ok_iff (h : (segments text).mapM readSegment = .ok settings)
    (key : String) : readInstrumentationKey text = .ok key ↔
      ∃ value, value ≠ [] ∧ LastSets (segments text) instrumentationKey.toList value ∧
        key = String.ofList value := by
  simp only [lastSets_iff_get?_eq h]
  rw [readInstrumentationKey_of_ok h]
  cases (Table.ofList settings).get? instrumentationKey with
  | none => simp
  | some last =>
    obtain ⟨set, rfl⟩ : ∃ set, last = String.ofList set := ⟨last.toList, by simp⟩
    have hempty : (String.ofList set = "") ↔ set = [] := @String.ofList_inj set []
    by_cases hset : set = []
    · simp only [Option.getD_some, hset, if_true, reduceCtorEq, false_iff,
        Option.some.injEq, String.ofList_inj]
      rintro ⟨value, hvalue, rfl, -⟩
      exact hvalue rfl
    · simp [hempty, hset, String.ofList_inj, eq_comm]

/-- Where all entries are settings, an instrumentation key is missing if the last one is blank or there is
    none. -/
theorem readInstrumentationKey_eq_error_iff
    (h : (segments text).mapM readSegment = .ok settings) (e : ConnectionStringError) :
    readInstrumentationKey text = .error e ↔
      (∀ value, LastSets (segments text) instrumentationKey.toList value → value = []) ∧
        e = .missingInstrumentationKey := by
  simp only [lastSets_iff_get?_eq h]
  rw [readInstrumentationKey_of_ok h]
  cases (Table.ofList settings).get? instrumentationKey with
  | none => simp [eq_comm]
  | some last =>
    obtain ⟨set, rfl⟩ : ∃ set, last = String.ofList set := ⟨last.toList, by simp⟩
    have hempty : (String.ofList set = "") ↔ set = [] := @String.ofList_inj set []
    simp only [Option.getD_some, hempty, Option.some.injEq, String.ofList_inj, forall_eq']
    by_cases hset : set = []
    · simp [hset, eq_comm]
    · simp [hset]

end Key

/-! ### Spellings -/

/-- A setting is read behind and in front of blanks, too. -/
theorem readSegment_trim {part key value : List Char} (hsetting : IsSetting part)
    (hsets : Sets part key value) :
    trim part ≠ [] ∧ readSegment (trim part) = .ok (String.ofList key, String.ofList value) := by
  obtain ⟨left, right, rfl, hleft, -⟩ := id hsetting
  rw [isSetting_append_iff hleft] at hsetting
  rw [sets_append_iff hleft] at hsets
  obtain ⟨left', right', htrim, hsuffix, hleft', hright'⟩ :=
    exists_trim_append (by decide : isBlank '=' = false) left right
  have hmark : '=' ∉ left' := fun hmem => hleft (hsuffix.subset hmem)
  rw [htrim]
  refine ⟨by simp, readSegment_eq_ok_iff.2 ?_⟩
  rw [isSetting_append_iff hmark, sets_append_iff hmark, hleft', hright', String.toList_ofList,
    String.toList_ofList]
  exact ⟨hsetting, hsets⟩

/-- What stands around an equals sign spells a setting. -/
theorem Spells.cut (left right : List Char) {parts : List (List Char)}
    {settings : List (List Char × List Char)} (hmark : '=' ∉ left) (hkey : trim left ≠ [])
    (hparts : Spells parts settings) :
    Spells ((left ++ '=' :: right) :: parts) ((lowercase (trim left), trim right) :: settings) :=
  .setting ((isSetting_append_iff hmark).2 hkey) ((sets_append_iff hmark).2 ⟨rfl, rfl⟩) hparts

/-- Parts that spell settings are read as these. -/
theorem Spells.mapM_readSegment {parts : List (List Char)}
    {settings : List (List Char × List Char)} (h : Spells parts settings) :
    ((parts.map trim).filter fun core => !core.isEmpty).mapM readSegment =
      .ok (settings.map fun s => (String.ofList s.1, String.ofList s.2)) := by
  rw [mapM_eq_ok_iff]
  induction h with
  | nil => rfl
  | blank hblank _ ih => simpa [trim_eq_nil_iff.2 hblank] using ih
  | setting hsetting hsets _ ih =>
    obtain ⟨hne, hread⟩ := readSegment_trim hsetting hsets
    simpa [hne, hread] using ih

/-- Blanks around a setting do not count. -/
theorem exists_sets_of_trim {part : List Char} (h : IsSetting (trim part)) :
    IsSetting part ∧ ∃ key value, Sets part key value := by
  have hmem : '=' ∈ part := trim_subset h.mem
  obtain ⟨left, right, rfl, hleft⟩ := List.eq_append_cons_of_mem hmem
  obtain ⟨left', right', htrim, hsuffix, hleft', -⟩ :=
    exists_trim_append (by decide : isBlank '=' = false) left right
  have hmark : '=' ∉ left' := fun hmem => hleft (hsuffix.subset hmem)
  rw [htrim, isSetting_append_iff hmark, hleft'] at h
  exact ⟨(isSetting_append_iff hleft).2 h, _, _, (sets_append_iff hleft).2 ⟨rfl, rfl⟩⟩

/-- Every connection string without an entry that is no setting spells settings. -/
theorem exists_spelled_iff {text : String} :
    (∃ settings, Spelled text settings) ↔ ∀ entry ∈ segments text, IsSetting entry := by
  constructor
  · rintro ⟨settings, parts, hne, hparts, htext, hspells⟩
    rw [← exists_mapM_readSegment_iff, segments, pieces_eq_iff.2 ⟨hne, hparts, htext⟩]
    exact ⟨_, hspells.mapM_readSegment⟩
  · intro hall
    obtain ⟨hne, hparts, htext⟩ := pieces_spec ';' text.toList
    rw [segments] at hall
    -- one part after the other, a part that is not blank is a setting
    have hspells : ∀ parts : List (List Char),
        (∀ entry ∈ (parts.map trim).filter fun core => !core.isEmpty, IsSetting entry) →
          ∃ settings, Spells parts settings := by
      intro parts
      induction parts with
      | nil => exact fun _ => ⟨[], .nil⟩
      | cons part rest ih =>
        intro hentries
        obtain ⟨settings, hrest⟩ := ih fun entry hentry => hentries entry (by
          rw [List.map_cons, List.filter_cons]
          split
          · exact List.mem_cons_of_mem _ hentry
          · exact hentry)
        by_cases hblank : trim part = []
        · exact ⟨settings, .blank (trim_eq_nil_iff.1 hblank) hrest⟩
        · obtain ⟨hsetting, key, value, hsets⟩ :=
            exists_sets_of_trim (hentries (trim part) (by simp [hblank]))
          exact ⟨(key, value) :: settings, .setting hsetting hsets hrest⟩
    obtain ⟨settings, h⟩ := hspells _ hall
    exact ⟨settings, _, hne, hparts, htext, h⟩

/-- **Only the last setting of the instrumentation key counts**, however it is spelled and whatever else is
    set. -/
theorem Spelled.readInstrumentationKey_eq {text : String} {settings : List (List Char × List Char)}
    (h : Spelled text settings) :
    readInstrumentationKey text =
      let key := ((settings.filter fun s => s.1 = instrumentationKey.toList).getLast?.map
        fun s => String.ofList s.2).getD ""
      if key = "" then .error .missingInstrumentationKey else .ok key := by
  obtain ⟨parts, hne, hparts, htext, hspells⟩ := h
  have hread : (segments text).mapM readSegment =
      .ok (settings.map fun s => (String.ofList s.1, String.ofList s.2)) := by
    rw [segments, pieces_eq_iff.2 ⟨hne, hparts, htext⟩]
    exact hspells.mapM_readSegment
  have hkey : ∀ s : List Char × List Char,
      String.ofList s.1 = instrumentationKey ↔ s.1 = instrumentationKey.toList := by
    intro s
    rw [← String.toList_inj, String.toList_ofList]
  have hlast : (Table.ofList (settings.map fun s => (String.ofList s.1, String.ofList s.2))).get?
      instrumentationKey =
        (settings.filter fun s => s.1 = instrumentationKey.toList).getLast?.map
          fun s => String.ofList s.2 := by
    rw [Table.get?_ofList_eq_getLast?, List.filter_map, List.getLast?_map, Option.map_map]
    simp only [Function.comp_def, hkey]
  rw [readInstrumentationKey_of_ok hread, hlast]

end ConnectionString

/-! ### Configurations -/

namespace Configuration

open ConnectionString

/-- The instrumentation key that settings with a connection string resolve to, or why they are refused. -/
def keyFor (given : GivenSettings) (around : Surroundings) (text : String) :
    Except ConnectionStringError (Option String) :=
  (resolve { given with connectionString := some (some text) } around).map
    Configuration.instrumentationKey

variable (given : GivenSettings) (around : Surroundings)

/-- An empty connection string has no key, and is not read. -/
theorem keyFor_eq (text : String) :
    keyFor given around text =
      if text = "" then .ok none else (readInstrumentationKey text).map some := by
  by_cases htext : text = ""
  · subst htext
    rfl
  · have hgiven : nonEmpty? (some text) = some text := by simp [nonEmpty?, Option.filter, htext]
    rw [if_neg htext, keyFor, resolve]
    simp only [Option.getD_some, hgiven, Option.mapM_some, bind, Except.bind, Functor.map]
    cases readInstrumentationKey text <;> rfl

section Outcome

variable {given around} {text : String}

/-- A connection string is refused for its first entry that is no setting, or else if no instrumentation key
    is set, or to nothing in the end. -/
theorem keyFor_eq_error_iff {e : ConnectionStringError} :
    keyFor given around text = .error e ↔ text ≠ "" ∧
      ((∃ before entry after, segments text = before ++ entry :: after ∧
          (∀ b ∈ before, IsSetting b) ∧ ¬ IsSetting entry ∧
          e = .invalidSegment (String.ofList entry)) ∨
        ((∀ entry ∈ segments text, IsSetting entry) ∧
          (∀ value, LastSets (segments text) ConnectionString.instrumentationKey.toList value →
            value = []) ∧
          e = .missingInstrumentationKey)) := by
  rw [keyFor_eq, ← mapM_readSegment_eq_error_iff, ← exists_mapM_readSegment_iff]
  by_cases htext : text = ""
  · simp [htext]
  · rw [if_neg htext]
    cases hread : (segments text).mapM readSegment with
    | error e' => simp [readInstrumentationKey_of_error hread, Except.map, htext]
    | ok settings =>
      have hkey := readInstrumentationKey_eq_error_iff hread e
      cases hres : readInstrumentationKey text with
      | error e' => simpa [hres, htext, Except.map] using hkey
      | ok key => simpa [hres, htext, Except.map] using hkey

/-- Any other connection string names the instrumentation key that is set last. -/
theorem keyFor_eq_ok_iff {key : Option String} :
    keyFor given around text = .ok key ↔ (text = "" ∧ key = none) ∨
      (text ≠ "" ∧ (∀ entry ∈ segments text, IsSetting entry) ∧
        ∃ value, value ≠ [] ∧
          LastSets (segments text) ConnectionString.instrumentationKey.toList value ∧
          key = some (String.ofList value)) := by
  rw [keyFor_eq, ← exists_mapM_readSegment_iff]
  by_cases htext : text = ""
  · simp [htext, eq_comm]
  · rw [if_neg htext]
    cases hread : (segments text).mapM readSegment with
    | error e' => simp [readInstrumentationKey_of_error hread, Except.map, htext]
    | ok settings =>
      have hkey := readInstrumentationKey_eq_ok_iff hread
      cases hres : readInstrumentationKey text with
      | error e =>
        have hnone : ∀ value, value ≠ [] →
            ¬ LastSets (segments text) ConnectionString.instrumentationKey.toList value := by
          intro value hvalue hlast
          have hnamed := (hkey _).2 ⟨value, hvalue, hlast, rfl⟩
          rw [hres] at hnamed
          cases hnamed
        simp only [Except.map, reduceCtorEq, htext, false_and, false_or, false_iff]
        rintro ⟨-, -, value, hvalue, hlast, -⟩
        exact hnone value hvalue hlast
      | ok name =>
        rw [hres] at hkey
        cases key with
        | none => simp [Except.map, htext]
        | some other => simpa [Except.map, htext] using hkey other

end Outcome

/-- **Connection strings are accepted exactly by their grammar.**  Given one that is not empty, a
    configuration is refused for its first entry that is no setting; otherwise for the instrumentation key,
    if no entry sets it or the last that does sets it to nothing.  Any other connection string names the
    instrumentation key that is set last, the empty one names none.  Connection strings without a wrong
    entry are those that spell settings; whatever the blanks, the empty parts, the case of the keys and the
    other settings, and whatever else is given or found around the program, those that agree on the last
    setting of the instrumentation key come to the same. -/
theorem connectionString_grammar :
    (∀ text : String, ∃ entries, (∀ others, HasEntries text others ↔ others = entries) ∧
      (∀ e, keyFor given around text = .error e ↔ text ≠ "" ∧
        ((∃ before entry after, entries = before ++ entry :: after ∧
            (∀ b ∈ before, IsSetting b) ∧ ¬ IsSetting entry ∧
            e = .invalidSegment (String.ofList entry) ∧
            e.message = "Invalid connection string segment: " ++ String.ofList entry) ∨
          ((∀ entry ∈ entries, IsSetting entry) ∧
            (∀ value, LastSets entries "instrumentationkey".toList value → value = []) ∧
            e = .missingInstrumentationKey ∧
            e.message = "Connection string is missing the InstrumentationKey"))) ∧
      (∀ key, keyFor given around text = .ok key ↔ (text = "" ∧ key = none) ∨
        (text ≠ "" ∧ (∀ entry ∈ entries, IsSetting entry) ∧
          ∃ value, value ≠ [] ∧ LastSets entries "instrumentationkey".toList value ∧
            key = some (String.ofList value))) ∧
      ((∃ settings, Spelled text settings) ↔ ∀ entry ∈ entries, IsSetting entry)) ∧
    (∀ (text other : String) (settings others : List (List Char × List Char)),
      Spelled text settings → Spelled other others → text ≠ "" → other ≠ "" →
      (settings.filter fun s => s.1 = "instrumentationkey".toList).getLast? =
        (others.filter fun s => s.1 = "instrumentationkey".toList).getLast? →
      ∀ others' around', keyFor given around text = keyFor others' around' other) := by
  constructor
  · intro text
    refine ⟨segments text, fun _ => hasEntries_iff, ?_, fun _ => keyFor_eq_ok_iff,
      exists_spelled_iff⟩
    intro e
    rw [keyFor_eq_error_iff]
    -- the errors determine their messages
    constructor
    · rintro ⟨htext, ⟨before, entry, after, hsplit, hbefore, hentry, rfl⟩ | ⟨hall, hempty, rfl⟩⟩
      · exact ⟨htext, Or.inl ⟨before, entry, after, hsplit, hbefore, hentry, rfl, rfl⟩⟩
      · exact ⟨htext, Or.inr ⟨hall, hempty, rfl, rfl⟩⟩
    · rintro ⟨htext, ⟨before, entry, after, hsplit, hbefore, hentry, he, -⟩ | ⟨hall, hempty, he, -⟩⟩
      · exact ⟨htext, Or.inl ⟨before, entry, after, hsplit, hbefore, hentry, he⟩⟩
      · exact ⟨htext, Or.inr ⟨hall, hempty, he⟩⟩
  · intro text other settings others htext hother hne hne' hlast given' around'
    rw [keyFor_eq, keyFor_eq, if_neg hne, if_neg hne', htext.readInstrumentationKey_eq,
      hother.readInstrumentationKey_eq, hlast]

/-- Blanks, empty parts, other settings and earlier ones of the key do not count, nor does its case. -/
theorem connectionString_grammar_respelled :
    Spelled " Url=h ;InstrumentationKey=old;;INSTRUMENTATIONKEY =  a=b "
      [("url".toList, "h".toList), ("instrumentationkey".toList, "old".toList),
        ("instrumentationkey".toList, "a=b".toList)] ∧
    Spelled "instrumentationkey=a=b" [("instrumentationkey".toList, "a=b".toList)] ∧
    keyFor {} { hostName := "host" } " Url=h ;InstrumentationKey=old;;INSTRUMENTATIONKEY =  a=b " =
      keyFor { roleName := some (some "role") } { hostName := "other" } "instrumentationkey=a=b" := by
  have htext : Spelled " Url=h ;InstrumentationKey=old;;INSTRUMENTATIONKEY =  a=b "
      [("url".toList, "h".toList), ("instrumentationkey".toList, "old".toList),
        ("instrumentationkey".toList, "a=b".toList)] := by
    refine ⟨[" Url=h ".toList, "InstrumentationKey=old".toList, [],
      "INSTRUMENTATIONKEY =  a=b ".toList], by simp, by decide +kernel, by decide +kernel, ?_⟩
    have hlast := Spells.cut "INSTRUMENTATIONKEY ".toList "  a=b ".toList
      (by decide +kernel) (by decide +kernel) .nil
    have hempty : Spells ([] :: _) _ := .blank (by simp) hlast
    have hold := Spells.cut "InstrumentationKey".toList "old".toList
      (by decide +kernel) (by decide +kernel) hempty
    exact Spells.cut " Url".toList "h ".toList (by decide +kernel) (by decide +kernel) hold
  have hother : Spelled "instrumentationkey=a=b" [("instrumentationkey".toList, "a=b".toList)] := by
    refine ⟨["instrumentationkey=a=b".toList], by simp, by decide +kernel, by decide +kernel, ?_⟩
    exact Spells.cut "instrumentationkey".toList "a=b".toList
      (by decide +kernel) (by decide +kernel) .nil
  refine ⟨htext, hother, ?_⟩
  apply (connectionString_grammar _ _).2 _ _ _ _ htext hother
  · decide +kernel
  · decide +kernel
  · -- the last of the keys is the only one of the other text
    decide +kernel

end Configuration

end SpanTelemetry
