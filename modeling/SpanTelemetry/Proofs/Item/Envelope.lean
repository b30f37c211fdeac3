import Mathlib.Tactic.ByContra
import SpanTelemetry.Proofs.Item.Decoder
import SpanTelemetry.Proofs.Json.Within

namespace SpanTelemetry

/-!
# Envelopes lose nothing

Every item can be read back from its envelope.  What is left out of an envelope is what has no value, and
the collections without members.

* `Json.Modest` — a property that nothing but `null`, or an empty collection in an envelope, can lack.
* `Item.everywhere_envelope` — such a property holds everywhere in an envelope, unless `null` lacks it
  and a measurement is not known.
* `Item.envelope_lossless` — envelopes lose nothing, and hold no more than they have to.
-/

namespace Json

/-! ### Fields -/

/-- What holds of all values within a field, if it is there. -/
def EverywhereIn (P : Json → Prop) (field : Option Json) : Prop := ∀ v ∈ field, Everywhere P v

/-- The keys under which envelopes hold collections that are left out if they are empty. -/
def collectionKeys : List String := ["properties", "measurements", "parsedStack"]

/-- A value that is no empty collection. -/
def HasContent (v : Json) : Prop := v ≠ .object [] ∧ v ≠ .array []

/-- A field that is left out, or no empty collection. -/
def HasContentIn (field : Option Json) : Prop := ∀ v ∈ field, HasContent v

/-- A property that nothing can lack but `null`, and an object with an empty collection that is to be left
    out. -/
structure Modest (P : Json → Prop) : Prop where
  string (s : String) : P (.string s)
  bool (b : Bool) : P (.bool b)
  int (n : Int) : P (.int n)
  double (x : Binary64) : P (.double x)
  array (elements : List Json) : P (.array elements)
  object (fields : List (String × Json))
    (hcontent : ∀ f ∈ fields, f.1 ∈ collectionKeys → HasContent f.2) : P (.object fields)

namespace Modest

variable {P : Json → Prop} (h : Modest P)

include h

@[simp] theorem everywhere_string (s : String) : Everywhere P (.string s) := by
  rintro w ⟨⟩
  exact h.string s

@[simp] theorem everywhere_bool (b : Bool) : Everywhere P (.bool b) := by
  rintro w ⟨⟩
  exact h.bool b

@[simp] theorem everywhere_int (n : Int) : Everywhere P (.int n) := by
  rintro w ⟨⟩
  exact h.int n

@[simp] theorem everywhere_scalar (s : Scalar) : Everywhere P s.toJson := by
  cases s with
  | string s => exact h.everywhere_string s
  | int n => exact h.everywhere_int n
  | bool b => exact h.everywhere_bool b
  | double x =>
    rintro w ⟨⟩
    exact h.double x

@[simp] theorem everywhere_quantity (q : Quantity) :
    Everywhere P q.toJson ↔ (q = none → P .null) := by
  cases q with
  | none =>
    constructor
    · exact fun hnull _ => hnull _ .self
    · rintro hnull w ⟨⟩
      exact hnull rfl
  | some s => simpa [Quantity.toJson] using h.everywhere_scalar s

@[simp] theorem everywhere_array (elements : List Json) :
    Everywhere P (.array elements) ↔ ∀ v ∈ elements, Everywhere P v := by
  rw [everywhere_array_iff]
  exact and_iff_right (h.array elements)

/-- Within an object no empty collection may stand that is to be left out. -/
theorem everywhere_object {fields : List (String × Json)}
    (hcontent : ∀ f ∈ fields, f.1 ∈ collectionKeys → HasContent f.2) :
    Everywhere P (.object fields) ↔ ∀ f ∈ fields, Everywhere P f.2 := by
  rw [everywhere_object_iff]
  exact and_iff_right (h.object fields hcontent)

/-- Fields that are left out make no difference. -/
theorem everywhere_presentFields {fields : List (String × Option Json)}
    (hcontent : ∀ f ∈ fields, f.1 ∈ collectionKeys → HasContentIn f.2) :
    Everywhere P (presentFields fields) ↔ ∀ f ∈ fields, EverywhereIn P f.2 := by
  rw [presentFields, h.everywhere_object]
  · constructor
    · intro hall f hf v hv
      refine hall (f.1, v) (List.mem_filterMap.2 ⟨f, hf, ?_⟩)
      rw [Option.mem_def.1 hv]
      rfl
    · intro hall g hg
      obtain ⟨f, hf, hv⟩ := List.mem_filterMap.1 hg
      obtain ⟨v, hvalue, rfl⟩ := Option.map_eq_some_iff.1 hv
      exact hall f hf v hvalue
  · intro g hg hkey
    obtain ⟨f, hf, hv⟩ := List.mem_filterMap.1 hg
    obtain ⟨v, hvalue, rfl⟩ := Option.map_eq_some_iff.1 hv
    exact hcontent f hf hkey v hvalue

/-! ### Fields -/

omit h in
@[simp] theorem everywhereIn_some (v : Json) : EverywhereIn P (some v) ↔ Everywhere P v := by
  simp [EverywhereIn]

@[simp] theorem everywhereIn_string? (s : Option String) : EverywhereIn P (s.map .string) := by
  cases s <;> simp [EverywhereIn, h]

@[simp] theorem everywhereIn_int? (n : Option Int) : EverywhereIn P (n.map .int) := by
  cases n <;> simp [EverywhereIn, h]

@[simp] theorem everywhereIn_scalar? (s : Option Scalar) : EverywhereIn P (s.map Scalar.toJson) := by
  cases s <;> simp [EverywhereIn, h]

section Tables

variable {α : Type} {write : α → Json}

/-- A table holds nothing but the values that are written for its entries. -/
theorem everywhere_table (hwrite : ∀ a, HasContent (write a)) (t : Table α) :
    Everywhere P (t.toJson write) ↔ ∀ key a, t.get? key = some a → Everywhere P (write a) := by
  rw [Table.toJson, h.everywhere_object]
  · simp only [List.forall_mem_map, Prod.forall, Table.mem_entries_iff]
  · intro f hf _
    obtain ⟨e, -, rfl⟩ := List.mem_map.1 hf
    exact hwrite e.2

/-- A table that is left out has no entry. -/
theorem everywhereIn_table? (hwrite : ∀ a, HasContent (write a)) (t : Table α) :
    EverywhereIn P (t.toJson? write) ↔
      ∀ key a, t.get? key = some a → Everywhere P (write a) := by
  rw [← h.everywhere_table hwrite, Table.toJson?]
  split
  · rename_i hempty
    have hnone : t.toJson write = .object [] := by rw [Table.toJson, List.isEmpty_iff.1 hempty]; rfl
    rw [hnone, h.everywhere_object (by simp)]
    simp [EverywhereIn]
  · simp

end Tables

/-- So it does in a table of strings, which is always written. -/
theorem everywhere_strings (t : Table String) : Everywhere P (t.toJson .string) := by
  rw [h.everywhere_table fun _ => ⟨by simp, by simp⟩]
  exact fun _ s _ => h.everywhere_string s

/-- And in one that is left out if it is empty. -/
theorem everywhereIn_strings (t : Table String) : EverywhereIn P (t.toJson? .string) := by
  rw [h.everywhereIn_table? fun _ => ⟨by simp, by simp⟩]
  exact fun _ s _ => h.everywhere_string s

/-- Of the measurements only one that is not known is written as `null`. -/
theorem everywhereIn_quantities (t : Table Quantity) :
    EverywhereIn P (t.toJson? Quantity.toJson) ↔
      ((∃ key, t.get? key = some none) → P .null) := by
  have hwrite : ∀ q, HasContent (Quantity.toJson q) := by
    intro q
    cases q with
    | none => exact ⟨by simp [Quantity.toJson], by simp [Quantity.toJson]⟩
    | some s => cases s <;> exact ⟨nofun, nofun⟩
  rw [h.everywhereIn_table? hwrite]
  simp only [h.everywhere_quantity]
  constructor
  · rintro hall ⟨key, hkey⟩
    exact hall key none hkey rfl
  · rintro hnull key q hkey rfl
    exact hnull ⟨key, hkey⟩

end Modest

/-! ### Collections that are left out -/

/-- No empty table is written. -/
theorem hasContentIn_table? {α : Type} {write : α → Json} (t : Table α) :
    HasContentIn (t.toJson? write) := by
  intro v hv
  rw [Table.toJson?] at hv
  split at hv
  · cases hv
  · rename_i hentry
    obtain rfl := Option.some.inj hv
    have hne : t.entries ≠ [] := fun hnil => hentry (List.isEmpty_iff.2 hnil)
    simpa [HasContent, Table.toJson] using hne

/-- Nor is an empty list. -/
theorem hasContentIn_list? {α : Type} {write : α → Json} (as : List α) :
    HasContentIn (if as = [] then none else some (.array (as.map write))) := by
  intro v hv
  split at hv
  · cases hv
  · rename_i hne
    obtain rfl := Option.some.inj hv
    simpa [HasContent] using hne

end Json

open Json

/-! ### Envelopes -/

section Bodies

variable {P : Json → Prop} (h : Modest P)

include h

/-- In a request only a measurement can lack the property. -/
theorem RequestData.everywhere_body (d : RequestData) :
    Everywhere P d.body ↔ ((∃ key, d.measurements.get? key = some none) → P .null) := by
  rw [RequestData.body, h.everywhere_presentFields]
  · simp [bodyVersion, h, h.everywhereIn_strings, h.everywhereIn_quantities]
  · simp [collectionKeys, hasContentIn_table?]

/-- So it is in a dependency. -/
theorem DependencyData.everywhere_body (d : DependencyData) :
    Everywhere P d.body ↔ ((∃ key, d.measurements.get? key = some none) → P .null) := by
  rw [DependencyData.body, h.everywhere_presentFields]
  · simp [bodyVersion, h, h.everywhereIn_strings, h.everywhereIn_quantities]
  · simp [collectionKeys, hasContentIn_table?]

/-- In a message nothing lacks it. -/
theorem MessageData.everywhere_body (d : MessageData) : Everywhere P d.body := by
  rw [MessageData.body, h.everywhere_presentFields]
  · simp [bodyVersion, h, h.everywhereIn_strings]
  · simp [collectionKeys, hasContentIn_table?]

/-- Nor in a frame of a parsed stack. -/
theorem StackFrame.everywhere_body (f : StackFrame) : Everywhere P f.body := by
  rw [StackFrame.body, h.everywhere_presentFields]
  · simp [h]
  · simp [collectionKeys]

/-- Nor in the details of an exception. -/
theorem ExceptionDetails.everywhere_body (d : ExceptionDetails) : Everywhere P d.body := by
  have hstack : EverywhereIn P (if d.parsedStack = [] then none
      else some (.array (d.parsedStack.map StackFrame.body))) := by
    split
    · simp [EverywhereIn]
    · simp [h, StackFrame.everywhere_body]
  rw [ExceptionDetails.body, h.everywhere_presentFields]
  · simp [h, hstack]
  · simp [collectionKeys, hasContentIn_list?]

/-- So nothing lacks it in an exception. -/
theorem ExceptionData.everywhere_body (d : ExceptionData) : Everywhere P d.body := by
  rw [ExceptionData.body, h.everywhere_presentFields]
  · simp [bodyVersion, h, h.everywhereIn_strings, ExceptionDetails.everywhere_body]
  · simp [collectionKeys, hasContentIn_table?]

/-- Nor in a point of a metric. -/
theorem MetricPoint.everywhere_body (p : MetricPoint) : Everywhere P p.body := by
  rw [MetricPoint.body, h.everywhere_presentFields]
  · simp [h]
  · simp [collectionKeys]

/-- So nothing lacks it in a metric. -/
theorem MetricData.everywhere_body (d : MetricData) : Everywhere P d.body := by
  rw [MetricData.body, h.everywhere_presentFields]
  · simp [bodyVersion, h, h.everywhereIn_strings, MetricPoint.everywhere_body]
  · simp [collectionKeys, hasContentIn_table?]

/-- A payload of any kind lacks it in a measurement or nowhere. -/
theorem ItemData.everywhere_body (d : ItemData) :
    Everywhere P d.body ↔
      ((∃ key, (d.measurements?.getD ∅).get? key = some none) → P .null) := by
  cases d with
  | request d => exact d.everywhere_body h
  | dependency d => exact d.everywhere_body h
  | message d => simpa [measurements?, body] using d.everywhere_body h
  | exception d => simpa [measurements?, body] using d.everywhere_body h
  | metric d => simpa [measurements?, body] using d.everywhere_body h

/-- **What can be lacked by `null` and by empty collections only holds everywhere in an envelope**, unless a
    measurement is not known and `null` lacks it. -/
theorem Item.everywhere_envelope (i : Item) :
    Everywhere P i.envelope ↔ ((∃ key, i.measurements.get? key = some none) → P .null) := by
  rw [Item.measurements, ← ItemData.everywhere_body h, Item.envelope, h.everywhere_presentFields]
  · have hdata : Everywhere P (.object [("baseType", .string i.data.baseType),
        ("baseData", i.data.body)]) ↔ Everywhere P i.data.body := by
      rw [h.everywhere_object (by simp [collectionKeys])]
      simp [h]
    simp [h, h.everywhere_strings, hdata]
  · simp [collectionKeys]

end Bodies

/-! ### What no envelope holds -/

/-- Nothing but `null` is `null`. -/
theorem modest_ne_null : Modest (· ≠ .null) where
  string _ := nofun
  bool _ := nofun
  int _ := nofun
  double _ := nofun
  array _ := nofun
  object _ _ := nofun

/-- To have no empty collection where one is to be left out is such a property. -/
theorem modest_hasContent : Modest fun w => ∀ fields, w = .object fields →
    ∀ f ∈ fields, f.1 ∈ collectionKeys → HasContent f.2 where
  string _ := nofun
  bool _ := nofun
  int _ := nofun
  double _ := nofun
  array _ := nofun
  object fields hcontent := by
    rintro _ ⟨⟩
    exact hcontent

/-- **Envelopes lose nothing.**  Every item can be read back from its envelope, so two different items never
    have the same one; `null` stands in an envelope only for a measurement that is not known, and properties,
    measurements and parsed stacks never stand in one if they are empty. -/
theorem Item.envelope_lossless :
    (∀ i : Item, Item.ofEnvelope? i.envelope = some i) ∧
    Function.Injective Item.envelope ∧
    (∀ i : Item, Within .null i.envelope ↔ ∃ key, i.measurements.get? key = some none) ∧
    ∀ (i : Item) (fields : List (String × Json)), Within (.object fields) i.envelope →
      ∀ f ∈ fields, f.1 ∈ ["properties", "measurements", "parsedStack"] →
        f.2 ≠ .object [] ∧ f.2 ≠ .array [] := by
  refine ⟨Item.ofEnvelope?_envelope, ?_, ?_, ?_⟩
  · intro i j hsame
    have hread := Item.ofEnvelope?_envelope i
    rw [hsame, Item.ofEnvelope?_envelope] at hread
    exact (Option.some.inj hread).symm
  · intro i
    have hnull := i.everywhere_envelope modest_ne_null
    constructor
    · intro hwithin
      by_contra hknown
      exact hnull.2 (fun hnone => absurd hnone hknown) _ hwithin rfl
    · intro hnone
      by_contra hwithin
      refine hnull.1 ?_ hnone rfl
      rintro w hw rfl
      exact hwithin hw
  · intro i fields hwithin f hf hkey
    have hcontent := (i.everywhere_envelope modest_hasContent).2 nofun
    exact hcontent _ hwithin fields rfl f hf hkey

/-- An empty text stays in an envelope, as do a flag that does not hold and the level 0. -/
theorem Item.envelope_lossless_failedCall :
    let i : Item := { data := .exception { exceptions :=
      [{ hasFullStack := false, parsedStack := [{ level := 0, method := "" }] }] } }
    let stack : Json := .array [.object [("level", .int 0), ("method", .string "")]]
    let fields := [("message", .string ""), ("hasFullStack", .bool false), ("parsedStack", stack)]
    Within (.object fields) i.envelope ∧ stack ≠ .object [] ∧ stack ≠ .array [] := by
  intro i stack fields
  -- the data of the envelope, its body, the exceptions in it, and the first one of these
  have hwithin : Within (.object fields) i.envelope :=
    .field (.tail _ (.tail _ (.tail _ (.head _)))) (.field (.tail _ (.head _))
      (.field (.tail _ (.head _)) (.element (.head _) .self)))
  exact ⟨hwithin, envelope_lossless.2.2.2 i fields hwithin ("parsedStack", stack)
    (by simp [fields]) (by simp)⟩

end SpanTelemetry
