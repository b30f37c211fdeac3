import Mathlib.Tactic.Common
import SpanTelemetry.Item.Edit
import SpanTelemetry.Proofs.Table

namespace SpanTelemetry

/-!
# Edits are all or nothing

An edit writes to one place of one of the three maps of an item, or it is refused and changes nothing.
Which edits are refused is decided by the edit and by the kind of the item, so it stays the same however
the item is edited.

* `ItemEdit.place`, `Item.Shows` — where an edit writes to, and that an item has what it writes there.
* `Item.bare` — the item without its three maps.
* `Item.Refuses`, `Item.Accepts` — which edits are refused, and why.
* `Item.LastWrites` — an edit is the last one of a row to write to its place.
* `Item.edit_cases` — what an edit can come to.
* `Item.refusal_edit_iff`, `Item.item_edit_of_refuses` — when an edit fails, and what it has done by then.
* `Item.shows_edit_iff`, `Item.bare_edit` — what one edit does.
* `Item.shows_editAll_iff`, `Item.bare_editAll` — what a row of edits does.
* `Item.last_write_counts` — all of it together.
-/

/-- A place on an item that can be written to. -/
inductive ItemPlace where
  | tag (key : String)
  | property (key : String)
  | measurement (key : String)
  deriving DecidableEq, Repr

/-- The place that an edit writes to. -/
def ItemEdit.place : ItemEdit → ItemPlace
  | .tag key _ => .tag key
  | .property key _ => .property key
  | .measurement key _ => .measurement key

namespace Item

/-- An item shows an edit if it has at the place of the edit what the edit writes there. -/
def Shows (i : Item) : ItemEdit → Prop
  | .tag key value => i.tags.get? key = some value
  | .property key value => i.properties.get? key = some value
  | .measurement key value => i.measurements.get? key = some value

instance (i : Item) : DecidablePred i.Shows
  | .tag key value => inferInstanceAs (Decidable (i.tags.get? key = some value))
  | .property key value => inferInstanceAs (Decidable (i.properties.get? key = some value))
  | .measurement key value => inferInstanceAs (Decidable (i.measurements.get? key = some value))

/-- The item without its tags, properties and measurements. -/
def bare (i : Item) : Item :=
  { i with tags := ∅, data := (i.data.withProperties ∅).withMeasurements ∅ }

/-- An edit is refused if it is a tag that the ingestion endpoint does not know, or a measurement of a
    message, an exception or a metric. -/
inductive Refuses (i : Item) : ItemEdit → ItemError → Prop where
  | unknownTag {key value : String} (h : ∀ tag : TagKey, tag.name ≠ key) :
      Refuses i (.tag key value) (.unknownTag key)
  | message {key : String} {value : Quantity} {d : MessageData} (h : i.data = .message d) :
      Refuses i (.measurement key value) .noMeasurements
  | exception {key : String} {value : Quantity} {d : ExceptionData} (h : i.data = .exception d) :
      Refuses i (.measurement key value) .noMeasurements
  | metric {key : String} {value : Quantity} {d : MetricData} (h : i.data = .metric d) :
      Refuses i (.measurement key value) .noMeasurements

/-- An edit is accepted if there is nothing to refuse it for. -/
def Accepts (i : Item) (e : ItemEdit) : Prop := ∀ error, ¬ i.Refuses e error

/-- An accepted edit of a row is the last write to its place if no later one that is accepted writes
    there. -/
def LastWrites (i : Item) (edits : List ItemEdit) (e : ItemEdit) : Prop :=
  ∃ before after, edits = before ++ e :: after ∧ i.Accepts e ∧
    ∀ f ∈ after, i.Accepts f → f.place ≠ e.place

end Item

/-! ### Keys and payloads -/

/-- A key names no tag iff none has it for its name. -/
theorem TagKey.ofName?_eq_none_iff {key : String} :
    ofName? key = none ↔ ∀ tag : TagKey, tag.name ≠ key := by
  simp [ofName?, mem_all]

namespace ItemData

/-- Measurements can be replaced where a payload carries some. -/
theorem measurements?_withMeasurements (m : Table Quantity) (d : ItemData) :
    (d.withMeasurements m).measurements? = d.measurements?.map fun _ => m := by
  cases d <;> rfl

/-- Only requests and dependencies carry measurements. -/
theorem measurements?_eq_none_iff {d : ItemData} : d.measurements? = none ↔ d.isOfSpan = false := by
  cases d <;> simp [measurements?, isOfSpan]

theorem withMeasurements_withMeasurements (m n : Table Quantity) (d : ItemData) :
    (d.withMeasurements m).withMeasurements n = d.withMeasurements n := by
  cases d <;> rfl

end ItemData

namespace Item

variable {i j : Item} {e f : ItemEdit} {error : ItemError}

/-! ### Refusals -/

/-- A tag is refused for nothing but its key. -/
theorem refuses_tag_iff {key value : String} : i.Refuses (.tag key value) error ↔
    (∀ tag : TagKey, tag.name ≠ key) ∧ error = .unknownTag key := by
  constructor
  · rintro ⟨h⟩
    exact ⟨h, rfl⟩
  · rintro ⟨h, rfl⟩
    exact .unknownTag h

/-- A property is never refused. -/
theorem not_refuses_property {key value : String} : ¬ i.Refuses (.property key value) error := by
  rintro ⟨⟩

/-- A measurement is refused by the kind of the item, whatever its key and its value are. -/
theorem refuses_measurement_iff {key : String} {value : Quantity} :
    i.Refuses (.measurement key value) error ↔
      i.data.isOfSpan = false ∧ error = .noMeasurements := by
  constructor
  · rintro (_ | h | h | h) <;> simp [h, ItemData.isOfSpan]
  · rintro ⟨hkind, rfl⟩
    cases hdata : i.data with
    | request d => simp [hdata, ItemData.isOfSpan] at hkind
    | dependency d => simp [hdata, ItemData.isOfSpan] at hkind
    | message d => exact .message hdata
    | exception d => exact .exception hdata
    | metric d => exact .metric hdata

/-- **An edit fails** for what it is refused for. -/
theorem refusal_edit_iff : (i.edit e).refusal = some error ↔ i.Refuses e error := by
  cases e with
  | tag key value =>
    rw [refuses_tag_iff, ← TagKey.ofName?_eq_none_iff, edit, addTagNamed]
    cases TagKey.ofName? key <;> simp [eq_comm]
  | property key value => simp [edit, not_refuses_property]
  | measurement key value =>
    rw [refuses_measurement_iff, ← ItemData.measurements?_eq_none_iff, edit, addMeasurement]
    cases i.data.measurements? <;> simp [eq_comm]

/-- An edit that is accepted succeeds, and the other way round. -/
theorem refusal_edit_eq_none_iff : (i.edit e).refusal = none ↔ i.Accepts e := by
  simp only [Accepts, ← refusal_edit_iff]
  cases (i.edit e).refusal <;> simp

/-! ### One edit -/

/-- **What an edit can come to.**  It is refused and leaves the item as it is, or it is accepted and is one
    of the three ways to add to the item. -/
theorem edit_cases (i : Item) (e : ItemEdit) :
    (∃ error, i.Refuses e error ∧ i.edit e = { item := i, refusal := some error }) ∨
    i.Accepts e ∧
      ((∃ tag value, e = .tag (TagKey.name tag) value ∧ i.edit e = { item := i.addTag tag value }) ∨
      (∃ key value, e = .property key value ∧ i.edit e = { item := i.addProperty key value }) ∨
      ∃ key value m, e = .measurement key value ∧ i.data.measurements? = some m ∧
        i.edit e = { item := { i with data := i.data.withMeasurements (m.insert key value) } }) := by
  cases hrefusal : (i.edit e).refusal with
  | some error =>
    refine Or.inl ⟨error, refusal_edit_iff.1 hrefusal, ?_⟩
    cases e with
    | tag key value =>
      cases htag : TagKey.ofName? key <;> simp_all [edit, addTagNamed]
    | property key value => simp [edit] at hrefusal
    | measurement key value =>
      cases hm : i.data.measurements? <;> simp_all [edit, addMeasurement]
  | none =>
    refine Or.inr ⟨refusal_edit_eq_none_iff.1 hrefusal, ?_⟩
    cases e with
    | tag key value =>
      cases htag : TagKey.ofName? key with
      | none => simp [edit, addTagNamed, htag] at hrefusal
      | some tag =>
        obtain rfl := TagKey.ofName?_eq_some_iff.1 htag
        exact Or.inl ⟨tag, value, rfl, by simp [edit, addTagNamed, htag]⟩
    | property key value => exact Or.inr (Or.inl ⟨key, value, rfl, rfl⟩)
    | measurement key value =>
      cases hm : i.data.measurements? with
      | none => simp [edit, addMeasurement, hm] at hrefusal
      | some m => exact Or.inr (Or.inr ⟨key, value, m, rfl, rfl, by simp [edit, addMeasurement, hm]⟩)

/-- **A refused edit has written nothing** by the time it fails. -/
theorem item_edit_of_refuses (h : i.Refuses e error) : (i.edit e).item = i := by
  obtain ⟨other, -, hedit⟩ | ⟨haccepts, -⟩ := edit_cases i e
  · rw [hedit]
  · exact absurd h (haccepts error)

/-- **An accepted edit writes** to its place, and leaves all other places of the three maps as they are. -/
theorem shows_edit_of_accepts (h : i.Accepts e) :
    (i.edit e).item.Shows f ↔ f = e ∨ (i.Shows f ∧ f.place ≠ e.place) := by
  obtain ⟨error, hrefuses, -⟩ | ⟨-, ⟨tag, value, rfl, hedit⟩ | ⟨key, value, rfl, hedit⟩ |
    ⟨key, value, m, rfl, hm, hedit⟩⟩ := edit_cases i e
  · exact absurd hrefuses (h error)
  · rw [hedit]
    cases f <;> simp [Shows, ItemEdit.place, addTag, properties, measurements,
      Table.get?_insert_eq_some_iff, -Table.get?_insert]
  · rw [hedit]
    cases f <;> simp [Shows, ItemEdit.place, addProperty, properties, measurements,
      Table.get?_insert_eq_some_iff, -Table.get?_insert]
  · rw [hedit]
    cases f <;> simp [Shows, ItemEdit.place, properties, measurements, hm,
      ItemData.measurements?_withMeasurements, Table.get?_insert_eq_some_iff, -Table.get?_insert]

/-- **An edit leaves** all that does not belong to the three maps as it is. -/
theorem bare_edit (i : Item) (e : ItemEdit) : (i.edit e).item.bare = i.bare := by
  obtain ⟨error, -, hedit⟩ | ⟨-, ⟨tag, value, -, hedit⟩ | ⟨key, value, -, hedit⟩ |
    ⟨key, value, m, -, hm, hedit⟩⟩ := edit_cases i e <;> rw [hedit]
  · rfl
  · simp [bare, addProperty]
  · simp [bare, ItemData.withProperties_withMeasurements, ItemData.withMeasurements_withMeasurements]

/-- What an item shows after an edit that may be refused. -/
theorem shows_edit_iff : (i.edit e).item.Shows f ↔
    (i.Accepts e ∧ f = e) ∨ (i.Shows f ∧ ¬ (i.Accepts e ∧ f.place = e.place)) := by
  by_cases haccepts : i.Accepts e
  · simp [shows_edit_of_accepts haccepts, haccepts]
  · obtain ⟨error, hrefuses⟩ : ∃ error, i.Refuses e error := by
      simpa [Accepts] using haccepts
    simp [item_edit_of_refuses hrefuses, haccepts]

/-! ### Rows of edits -/

/-- What is refused is decided by what no edit changes. -/
theorem refuses_iff_of_bare (h : j.bare = i.bare) : j.Refuses e error ↔ i.Refuses e error := by
  have hkind : j.data.isOfSpan = i.data.isOfSpan := by
    simpa [bare] using congrArg (fun i : Item => i.data.isOfSpan) h
  cases e with
  | tag key value => rw [refuses_tag_iff, refuses_tag_iff]
  | property key value => simp [not_refuses_property]
  | measurement key value => rw [refuses_measurement_iff, refuses_measurement_iff, hkind]

/-- So is what is accepted. -/
theorem accepts_iff_of_bare (h : j.bare = i.bare) : j.Accepts e ↔ i.Accepts e := by
  simp only [Accepts, refuses_iff_of_bare h]

theorem editAll_cons (i : Item) (e : ItemEdit) (rest : List ItemEdit) :
    i.editAll (e :: rest) = (i.edit e).item.editAll rest := rfl

/-- The last edit of a row is made to what the others have left. -/
theorem editAll_concat (i : Item) (edits : List ItemEdit) (e : ItemEdit) :
    i.editAll (edits ++ [e]) = ((i.editAll edits).edit e).item := by
  simp [editAll]

/-- **Run.**  A row of edits leaves all that does not belong to the three maps as it is. -/
theorem bare_editAll (i : Item) (edits : List ItemEdit) : (i.editAll edits).bare = i.bare := by
  induction edits generalizing i with
  | nil => rfl
  | cons e rest ih => rw [editAll_cons, ih, bare_edit]

theorem lastWrites_nil : ¬ i.LastWrites [] e := by
  rintro ⟨before, after, hsplit, -⟩
  simp at hsplit

/-- The first edit of a row is the last write unless a later one writes to its place. -/
theorem lastWrites_cons_iff {rest : List ItemEdit} : i.LastWrites (f :: rest) e ↔
    (f = e ∧ i.Accepts e ∧ ∀ g ∈ rest, i.Accepts g → g.place ≠ e.place) ∨ i.LastWrites rest e := by
  constructor
  · rintro ⟨before, after, hsplit, haccepts, hlater⟩
    cases before with
    | nil =>
      obtain ⟨rfl, rfl⟩ := List.cons.inj hsplit
      exact Or.inl ⟨rfl, haccepts, hlater⟩
    | cons b before =>
      obtain ⟨rfl, rfl⟩ := List.cons.inj hsplit
      exact Or.inr ⟨before, after, rfl, haccepts, hlater⟩
  · rintro (⟨rfl, haccepts, hlater⟩ | ⟨before, after, rfl, haccepts, hlater⟩)
    · exact ⟨[], rest, rfl, haccepts, hlater⟩
    · exact ⟨f :: before, after, rfl, haccepts, hlater⟩

/-- **Run.**  After a row of edits an item shows the last writes, and besides them what it showed before at
    the places that no accepted edit writes to. -/
theorem shows_editAll_iff {edits : List ItemEdit} : (i.editAll edits).Shows e ↔
    i.LastWrites edits e ∨ (i.Shows e ∧ ∀ f ∈ edits, i.Accepts f → f.place ≠ e.place) := by
  -- by induction on the edits: the first is the last write unless a later one writes to its place
  induction edits generalizing i with
  | nil => simp [editAll, lastWrites_nil]
  | cons f rest ih =>
    have haccepts (g : ItemEdit) : (i.edit f).item.Accepts g ↔ i.Accepts g :=
      accepts_iff_of_bare (bare_edit i f)
    have hlast : (i.edit f).item.LastWrites rest e ↔ i.LastWrites rest e := by
      simp only [LastWrites, haccepts]
    rw [editAll_cons, ih, hlast, lastWrites_cons_iff, shows_edit_iff]
    simp only [haccepts, List.forall_mem_cons]
    constructor
    · rintro (hlater | ⟨⟨hfirst, rfl⟩ | ⟨hshows, hplace⟩, hrest⟩)
      · exact Or.inl (Or.inr hlater)
      · exact Or.inl (Or.inl ⟨rfl, hfirst, hrest⟩)
      · exact Or.inr ⟨hshows, fun hfirst hsame => hplace ⟨hfirst, hsame.symm⟩, hrest⟩
    · rintro ((⟨rfl, hfirst, hrest⟩ | hlater) | ⟨hshows, hplace, hrest⟩)
      · exact Or.inr ⟨Or.inl ⟨hfirst, rfl⟩, hrest⟩
      · exact Or.inl hlater
      · exact Or.inr ⟨Or.inr ⟨hshows, fun h => hplace h.1 h.2.symm⟩, hrest⟩

/-- **The last write counts, and a refused one does not.**  Wherever an item stands in a row of edits, the
    next edit fails iff it is a tag that the ingestion endpoint does not know or a measurement of a kind
    that carries none. A failing edit has left the item, and with it its envelope, as it was; any other
    writes to its place, and to nothing else. So at the end each place has what the last accepted edit of it
    wrote, or else what it had at the beginning, all other fields are as they were, and the tags are those
    of the beginning and such that the ingestion endpoint knows. -/
theorem last_write_counts (i : Item) (edits : List ItemEdit) :
    (∀ before e,
      i.editAll (before ++ [e]) = ((i.editAll before).edit e).item ∧
      (∀ error, ((i.editAll before).edit e).refusal = some error ↔ i.Refuses e error) ∧
      (∀ error, i.Refuses e error → ((i.editAll before).edit e).item = i.editAll before) ∧
      ((i.editAll before).edit e).item.bare = (i.editAll before).bare ∧
      (i.Accepts e → ∀ f, ((i.editAll before).edit e).item.Shows f ↔
        f = e ∨ ((i.editAll before).Shows f ∧ f.place ≠ e.place))) ∧
    (i.editAll edits).bare = i.bare ∧
    (∀ e, (i.editAll edits).Shows e ↔
      i.LastWrites edits e ∨ (i.Shows e ∧ ∀ f ∈ edits, i.Accepts f → f.place ≠ e.place)) ∧
    ∀ key, ((i.editAll edits).tags.get? key).isSome →
      (i.tags.get? key).isSome ∨ ∃ tag : TagKey, tag.name = key := by
  refine ⟨fun before e => ⟨editAll_concat i before e, fun error => ?_, fun error hrefuses => ?_,
    bare_edit _ e, fun haccepts f => ?_⟩, bare_editAll i edits, fun e => shows_editAll_iff,
    fun key hkey => ?_⟩
  · rw [refusal_edit_iff, refuses_iff_of_bare (bare_editAll i before)]
  · exact item_edit_of_refuses ((refuses_iff_of_bare (bare_editAll i before)).2 hrefuses)
  · exact shows_edit_of_accepts ((accepts_iff_of_bare (bare_editAll i before)).2 haccepts)
  · obtain ⟨value, hvalue⟩ := Option.isSome_iff_exists.1 hkey
    have hshows : (i.editAll edits).Shows (.tag key value) := hvalue
    obtain ⟨-, -, -, haccepts, -⟩ | ⟨hbefore, -⟩ := shows_editAll_iff.1 hshows
    · right
      by_contra hunknown
      exact haccepts _ (.unknownTag fun tag hname => hunknown ⟨tag, hname⟩)
    · exact Or.inl (Option.isSome_iff_exists.2 ⟨value, hbefore⟩)

/-- A message with a tag that the ingestion endpoint does not know. -/
def exampleMessage : Item where
  data := .message { message := some "cart emptied" }
  tags := .ofList [("shop", "books"), ("ai.user.id", "guest")]

/-- Edits of which the second and the fourth are refused by a message. -/
def exampleEdits : List ItemEdit :=
  [.tag "ai.user.id" "anna", .tag "shop" "toys", .property "step" "one",
    .measurement "items" (Quantity.int 3), .tag "ai.user.id" "otto"]

/-- The last of the users is shown, the tag of the beginning stays, and there is no measurement. -/
theorem last_write_counts_message :
    ((exampleMessage.editAll [.tag "ai.user.id" "anna"]).edit (.tag "shop" "toys")).refusal =
      some (.unknownTag "shop") ∧
    (exampleMessage.editAll exampleEdits).Shows (.tag "ai.user.id" "otto") ∧
    (exampleMessage.editAll exampleEdits).Shows (.tag "shop" "books") ∧
    (exampleMessage.editAll exampleEdits).Shows (.property "step" "one") ∧
    (exampleMessage.editAll exampleEdits).measurements = ∅ := by
  obtain ⟨hstep, -, hshows, -⟩ := last_write_counts exampleMessage exampleEdits
  have hshop : ∀ tag : TagKey, tag.name ≠ "shop" := by
    intro tag
    cases tag <;> decide
  have huser : exampleMessage.Accepts (.tag "ai.user.id" "otto") := by
    intro error h
    exact (refuses_tag_iff.1 h).1 .userId rfl
  refine ⟨((hstep _ _).2.1 _).2 (.unknownTag hshop), ?_, ?_, ?_, by decide +kernel⟩
  · exact (hshows _).2 (Or.inl ⟨exampleEdits.dropLast, [], rfl, huser, by simp⟩)
  · refine (hshows _).2 (Or.inr ⟨by decide +kernel, fun f hf haccepts hplace => ?_⟩)
    -- the only edit of the place is the one that is refused
    simp only [exampleEdits, List.mem_cons, List.not_mem_nil, or_false] at hf
    rcases hf with rfl | rfl | rfl | rfl | rfl <;> simp [ItemEdit.place] at hplace
    exact haccepts _ (.unknownTag hshop)
  · refine (hshows _).2 (Or.inl ⟨exampleEdits.take 2, exampleEdits.drop 3, rfl, ?_, ?_⟩)
    · exact fun error => not_refuses_property
    · simp [exampleEdits, ItemEdit.place]

end Item

end SpanTelemetry
