import SpanTelemetry.Proofs.Mapper.Builders

namespace SpanTelemetry

/-!
# The properties of items

Without an initializer the properties of an item are the extra attributes of its span or event that
have a text, and nothing else but the links of a span.

* `Item.Carries` — an item carries attributes and links, and there is one warning for each attribute
  that it cannot carry.
* `Mapper.properties_exact` — every item carries exactly the attributes and the links it is made from.
-/

/-! ### Warnings -/

theorem attributeWarning?_eq_some_iff {key : String} {value : Value} {w : LogEntry} :
    attributeWarning? key value = some w ↔
      (IsExtra key value ∧ ∀ text, ¬ value.HasText text) ∧
        w = .unexpectedAttribute value.typeName := by
  unfold attributeWarning?
  constructor
  · intro h
    cases hd : disposition key value with
    | invalid typeName =>
      obtain ⟨hextra, htext, rfl⟩ := disposition_eq_invalid_iff.1 hd
      rw [hd] at h
      exact ⟨⟨hextra, Value.text?_eq_none_iff.1 htext⟩, (Option.some.inj h).symm⟩
    | _ => simp [hd] at h
  · rintro ⟨⟨hextra, htext⟩, rfl⟩
    rw [disposition_eq_invalid_iff.2 ⟨hextra, Value.text?_eq_none_iff.2 htext, rfl⟩]

/-- The attributes that are reported. -/
def unsupportedEntries (attributes : Attributes) : List (String × Value) :=
  attributes.entries.filter fun e => (attributeWarning? e.1 e.2).isSome

theorem nodup_unsupportedEntries (attributes : Attributes) :
    ((unsupportedEntries attributes).map Prod.fst).Nodup := by
  have hincreasing := attributes.increasing.sublist
    (List.filter_sublist (p := fun e => (attributeWarning? e.1 e.2).isSome))
  exact List.pairwise_map.2 (hincreasing.imp fun h => String.ne_of_lt h)

/-- The reported attributes are the extra ones that have no text. -/
theorem mem_unsupportedEntries_iff {attributes : Attributes} {key : String} {value : Value} :
    (key, value) ∈ unsupportedEntries attributes ↔
      attributes.get? key = some value ∧ IsExtra key value ∧ ∀ text, ¬ value.HasText text := by
  simp only [unsupportedEntries, List.mem_filter, Table.mem_entries_iff, Option.isSome_iff_exists,
    attributeWarning?_eq_some_iff]
  simp

/-- There is one warning for each of them. -/
theorem attributeWarnings_eq_map (attributes : Attributes) :
    attributeWarnings attributes =
      (unsupportedEntries attributes).map fun e => .unexpectedAttribute e.2.typeName := by
  unfold attributeWarnings unsupportedEntries
  induction attributes.entries with
  | nil => rfl
  | cons e rest ih =>
    cases hw : attributeWarning? e.1 e.2 with
    | none => simp [hw, ih]
    | some w =>
      obtain ⟨-, rfl⟩ := attributeWarning?_eq_some_iff.1 hw
      simp [hw, ih]

/-! ### Items -/

/-- An item carries attributes and links: its properties are the texts of the extra attributes and of
    the links, and each extra attribute without a text is reported once. -/
structure Item.Carries (i : Item) (attributes : Attributes) (links : List SpanContext)
    (warnings : List LogEntry) : Prop where
  properties : ∀ key text, i.properties.get? key = some text ↔
    if key = linksProperty ∧ links ≠ [] then text = linksText links
    else ∃ value, attributes.get? key = some value ∧ IsExtra key value ∧ value.HasText text
  reported : ∃ unsupported : List (String × Value),
    (unsupported.map Prod.fst).Nodup ∧
    (∀ key value, (key, value) ∈ unsupported ↔
      attributes.get? key = some value ∧ IsExtra key value ∧ ∀ text, ¬ value.HasText text) ∧
    warnings = unsupported.map fun e => .unexpectedAttribute e.2.typeName

/-- Of attributes that can all be written, those that are extra and have a text become properties. -/
theorem property_eq_some_iff {attributes : Attributes} (hwritable : attributes.Writable)
    {key text : String} :
    (attributes.get? key).bind (propertyText? key) = some text ↔
      ∃ value, attributes.get? key = some value ∧ IsExtra key value ∧ value.HasText text := by
  simp only [Option.bind_eq_some_iff, propertyText?_eq_some_iff, Value.text?_eq_ok_iff]
  refine exists_congr fun value => and_congr_right fun hvalue => and_congr_right fun hextra => ?_
  exact and_iff_left (hwritable key value hvalue hextra)

/-- The warnings about attributes are those of an item that carries them. -/
theorem Item.carries_of_properties {i : Item} {attributes : Attributes} {links : List SpanContext}
    (hwritable : attributes.Writable)
    (h : ∀ key, i.properties.get? key = if key = linksProperty ∧ links ≠ [] then
      some (linksText links) else (attributes.get? key).bind (propertyText? key)) :
    i.Carries attributes links (attributeWarnings attributes) where
  properties := by
    intro key text
    rw [h]
    split
    · rw [Option.some.injEq, eq_comm]
    · exact property_eq_some_iff hwritable
  reported := ⟨_, nodup_unsupportedEntries attributes, fun _ _ => mem_unsupportedEntries_iff,
    attributeWarnings_eq_map attributes⟩

/-- **Exact properties.**  Where the initializer changes nothing, the item of a span carries exactly
    the attributes and the links of the span, a message carries exactly the attributes of its event,
    and an exception item carries nothing. -/
theorem Mapper.properties_exact (m : Mapper) (hinit : ∀ i, m.initializer i = .ok { item := i }) :
    (∀ s percentage i, (m.map s percentage).value? = some i →
      i.Carries s.attributes s.links (m.map s percentage).warnings) ∧
    (∀ e s operationName percentage i,
      (m.message e s operationName percentage).value? = some i →
        i.Carries e.attributes [] (m.message e s operationName percentage).warnings) ∧
    ∀ stackTrace s operationName percentage i,
      (m.exception stackTrace s operationName percentage).value? = some i →
        i.properties = ∅ ∧ (m.exception stackTrace s operationName percentage).warnings = [] := by
  -- each item is built from a new one, which carries nothing
  have hnew : ∀ {i new}, m.initializer i = .ok new → new = { item := i } := fun h =>
    (Except.ok.inj ((hinit _).symm.trans h)).symm
  refine ⟨?_, ?_, ?_⟩
  · intro s percentage i h
    rcases map_cases h with ⟨hmap, h⟩ | ⟨inProcess, hmap, h⟩
    · rw [hmap, warnings_request h]
      obtain ⟨new, time, described, waiting, hstart, -, hwritable, hdescribed, -, hfilled⟩ :=
        value?_request_iff.1 h
      obtain ⟨measurements, rfl⟩ := Item.addMeasurement?_frame hfilled
      obtain rfl := hnew hstart
      refine Item.carries_of_properties hwritable fun key => ?_
      have hkept := described.properties_fillRequest s percentage time key
      rw [NewItem.properties_of_describe hdescribed (ItemData.isDescription_request m s)] at hkept
      rw [Item.properties, ItemData.properties_withMeasurements]
      exact hkept.trans (Option.or_none ..)
    · rw [hmap, warnings_dependency h]
      obtain ⟨new, time, described, hstart, -, hwritable, hdescribed, rfl⟩ :=
        value?_dependency_iff.1 h
      obtain rfl := hnew hstart
      refine Item.carries_of_properties hwritable fun key => ?_
      have hkept := described.properties_fillDependency s percentage time key
      rw [NewItem.properties_of_describe hdescribed
        (ItemData.isDescription_dependency m s inProcess)] at hkept
      exact hkept.trans (Option.or_none ..)
  · intro e s operationName percentage i h
    rw [warnings_message h]
    obtain ⟨new, time, hstart, -, hwritable, rfl⟩ := value?_message_iff.1 h
    obtain rfl := hnew hstart
    refine Item.carries_of_properties hwritable fun key => ?_
    rw [Item.properties_fillMessage]
    simp [Item.properties, ItemData.properties]
  · intro stackTrace s operationName percentage i h
    refine ⟨?_, warnings_exception ..⟩
    obtain ⟨new, time, details, hstart, -, -, rfl⟩ := value?_exception_iff.1 h
    obtain rfl := hnew hstart
    rw [Item.properties_fillException]
    rfl

/-- A call with an attribute that is extra, one that has no text, and one that is standard. -/
def exampleRetry : Span where
  name := "GET"
  kind := .client
  context := ⟨1, 2, ∅⟩
  attributes := Table.ofList
    [("retries", .int 3), ("payload", .null), ("http.method", .string "GET")]

/-- The first becomes a property, the second is reported, the third is left out. -/
theorem properties_exact_retry :
    (∀ i, ({} : Mapper).initializer i = .ok { item := i }) ∧
      ∃ i, (({} : Mapper).map exampleRetry exampleRetry.samplingPercentage).value? = some i ∧
        i.Carries exampleRetry.attributes exampleRetry.links
          (({} : Mapper).map exampleRetry exampleRetry.samplingPercentage).warnings ∧
        i.properties.entries = [("retries", "3")] ∧
        (({} : Mapper).map exampleRetry exampleRetry.samplingPercentage).warnings =
          [.unexpectedAttribute "NoneType"] := by
  have hinit : ∀ i, ({} : Mapper).initializer i = .ok { item := i } := fun _ => rfl
  have hentries : (({} : Mapper).map exampleRetry exampleRetry.samplingPercentage).value?.map
      (fun i => i.properties.entries) = some [("retries", "3")] := by decide +kernel
  obtain ⟨i, hi, hproperties⟩ := Option.map_eq_some_iff.1 hentries
  exact ⟨hinit, i, hi, (Mapper.properties_exact {} hinit).1 exampleRetry _ i hi, hproperties,
    by decide +kernel⟩

end SpanTelemetry
