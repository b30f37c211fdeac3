import SpanTelemetry.Proofs.Item.Decoder
import SpanTelemetry.Proofs.Json.Reader
import SpanTelemetry.Proofs.Mapper.Builders

namespace SpanTelemetry

open Text

/-!
# Links survive

The links of a span are sent as a property that holds JSON text.  The ids of the links can be read from that
text again, whatever integers they are.

* `SpanContext.ids` — the ids of a link.
* `Json.linkIds?`, `readLinks?` — the ids that a text tells.
* `readLinks?_linksText` — the ids of links are read back from their text.
* `Mapper.get?_links` — the links of a span replace whatever else has the name of their property.
* `Mapper.links_survive` — so every item tells the links of its span.
-/

/-- The ids of a link. -/
def SpanContext.ids (c : SpanContext) : Int × Int := (c.traceId, c.spanId)

/-! ### Reading links -/

/-- The ids in a JSON object for a link, which are hexadecimal numbers. -/
def Json.linkIds? (v : Json) : Option (Int × Int) := do
  let trace ← Json.required? Json.readString? (v.get? "operation_Id")
  let span ← Json.required? Json.readString? (v.get? "id")
  return (← readSignedHex? trace.toList, ← readSignedHex? span.toList)

/-- The ids of the links in a JSON text. -/
def readLinks? (text : String) : Option (List (Int × Int)) :=
  (Json.read? text).bind (Json.readList? Json.linkIds?)

/-- The ids of a link are read back from the object that is written for it. -/
theorem linkIds?_linkJson (c : SpanContext) : (linkJson c).linkIds? = some c.ids := by
  simp [Json.linkIds?, linkJson, Json.required?, Json.readString?, traceIdText, spanIdText,
    readSignedHex?_signedHex, SpanContext.ids]

/-- The links are an array of objects with nothing but strings. -/
theorem isExact_links (links : List SpanContext) : Json.IsExact (.array (links.map linkJson)) := by
  apply Json.isExact_array_iff.2
  intro v hv
  obtain ⟨c, -, rfl⟩ := List.mem_map.1 hv
  apply Json.isExact_object_iff.2
  simp [Json.isExact_string]

/-- The text of links is read as the objects that are written for them. -/
theorem read?_linksText (links : List SpanContext) :
    Json.read? (linksText links) = some (.array (links.map linkJson)) :=
  Json.read?_compact (isExact_links links)

/-- So the ids of all links are read back. -/
theorem mapM_linkIds? (links : List SpanContext) :
    (links.map linkJson).mapM Json.linkIds? = some (links.map SpanContext.ids) := by
  have hids : Json.linkIds? ∘ linkJson = fun c => pure c.ids := funext linkIds?_linkJson
  rw [List.mapM_map, hids, List.mapM_pure]
  rfl

/-- **The ids of links are read back from their text.** -/
theorem readLinks?_linksText (links : List SpanContext) :
    readLinks? (linksText links) = some (links.map SpanContext.ids) := by
  rw [readLinks?, read?_linksText]
  exact mapM_linkIds? links

/-- Two lists of links have one text only if their ids are the same. -/
theorem linksText_eq_iff {links others : List SpanContext} :
    linksText links = linksText others ↔ links.map SpanContext.ids = others.map SpanContext.ids := by
  constructor
  · intro htext
    have hread := readLinks?_linksText links
    rw [htext, readLinks?_linksText] at hread
    exact (Option.some.inj hread).symm
  · intro hids
    -- a link is written down by its ids alone
    have hjson (cs : List SpanContext) : cs.map linkJson = (cs.map SpanContext.ids).map fun ids =>
        .object [("operation_Id", .string (traceIdText ids.1)),
          ("id", .string (spanIdText ids.2))] := by
      rw [List.map_map]
      rfl
    rw [linksText, linksText, hjson, hjson, hids]

/-! ### Spaces -/

/-- The text of an integer holds no space. -/
theorem space_not_mem_signedHex (width : Nat) (n : Int) : ' ' ∉ signedHex width n := by
  have hdigits (width n : Nat) : ' ' ∉ padded width (Nat.toDigits 16 n) := by
    intro hmem
    exact absurd (isSome_hexDigit?_of_mem_padded hmem) (by decide)
  unfold signedHex
  split
  · simpa using hdigits _ _
  · exact hdigits _ _

/-- There is no blank in the text of links. -/
theorem space_not_mem_linksText (links : List SpanContext) : ' ' ∉ (linksText links).toList := by
  have hlink (c : SpanContext) : ' ' ∉ (linkJson c).encode := by
    have htrace : ' ' ∉ Json.encodeString (traceIdText c.traceId) :=
      Json.space_not_mem_encodeString (by simpa [traceIdText] using space_not_mem_signedHex _ _)
    have hspan : ' ' ∉ Json.encodeString (spanIdText c.spanId) :=
      Json.space_not_mem_encodeString (by simpa [spanIdText] using space_not_mem_signedHex _ _)
    have htraceKey : ' ' ∉ Json.encodeString "operation_Id" := by decide
    have hspanKey : ' ' ∉ Json.encodeString "id" := by decide
    simp [linkJson, Json.encode, Json.encodeFields, htrace, hspan, htraceKey, hspanKey]
  have helements : ' ' ∉ Json.encodeElements (links.map linkJson) := by
    apply Json.space_not_mem_encodeElements
    intro v hv
    obtain ⟨c, -, rfl⟩ := List.mem_map.1 hv
    exact hlink c
  simpa [linksText, Json.compact, Json.encode] using helements

/-! ### Items -/

/-- **The links of a span replace whatever else has the name of their property**, be it an attribute or a
    property that the initializer has set. -/
theorem Mapper.get?_links {m : Mapper} {s : Span} {percentage : Quantity} {i : Item}
    (hlinks : s.links ≠ []) (h : (m.map s percentage).value? = some i) :
    i.properties.get? linksProperty = some (linksText s.links) := by
  have hproperty : s.property? linksProperty = some (linksText s.links) := if_pos ⟨rfl, hlinks⟩
  rcases map_cases h with ⟨-, h⟩ | ⟨inProcess, -, h⟩
  · obtain ⟨new, time, described, waiting, -, -, -, -, -, hfilled⟩ := value?_request_iff.1 h
    obtain ⟨measurements, rfl⟩ := Item.addMeasurement?_frame hfilled
    rw [Item.properties, ItemData.properties_withMeasurements, ← Item.properties,
      Item.properties_fillRequest, hproperty]
    rfl
  · obtain ⟨new, time, described, -, -, -, -, rfl⟩ := value?_dependency_iff.1 h
    rw [Item.properties_fillDependency, hproperty]
    rfl

/-- **Links survive.**  Whatever its attributes are and whatever the initializer has set, the item of a span
    with links has a property that is a JSON array without spaces, from which the ids of the links can be
    read in their order, as hexadecimal numbers.  So the items of two spans have the same property only if
    the ids of their links are the same. -/
theorem Mapper.links_survive :
    (∀ (m : Mapper) (s : Span) (percentage : Quantity) (i : Item), s.links ≠ [] →
      (m.map s percentage).value? = some i →
      ∃ text elements, i.properties.get? "_MS.links" = some text ∧ ' ' ∉ text.toList ∧
        Json.read? text = some (.array elements) ∧
        elements.mapM Json.linkIds? = some (s.links.map fun c => (c.traceId, c.spanId))) ∧
    (∀ (m n : Mapper) (s t : Span) (p q : Quantity) (i j : Item), s.links ≠ [] → t.links ≠ [] →
      (m.map s p).value? = some i → (n.map t q).value? = some j →
      (i.properties.get? "_MS.links" = j.properties.get? "_MS.links" ↔
        s.links.map (fun c => (c.traceId, c.spanId)) =
          t.links.map fun c => (c.traceId, c.spanId))) := by
  constructor
  · intro m s percentage i hlinks hmap
    exact ⟨linksText s.links, s.links.map linkJson, get?_links hlinks hmap,
      space_not_mem_linksText s.links, read?_linksText s.links, mapM_linkIds? s.links⟩
  · intro m n s t p q i j hs ht hi hj
    rw [get?_links hs hi, get?_links ht hj, Option.some.injEq]
    exact linksText_eq_iff

/-- A message that was caused by others, of which one has a negative id; an attribute is named like the links
    of a span. -/
def exampleLinked : Span where
  name := "send"
  kind := .producer
  context := ⟨1, 2, ∅⟩
  attributes := Table.ofList [("_MS.links", .string "[]")]
  links := [⟨-255, 0x10000000000000000, ∅⟩, ⟨7, 8, ∅⟩]

/-- The links of the message take the place of the attribute, and of a property that the initializer has
    set; in another order they are other links. -/
theorem Mapper.links_survive_forged :
    let m : Mapper := { initializer := fun i => .ok { item := i.addProperty "_MS.links" "none" } }
    let swapped : Span := { exampleLinked with links := [⟨7, 8, ∅⟩, ⟨-255, 0x10000000000000000, ∅⟩] }
    ∃ i j, (m.map exampleLinked Sampling.everything).value? = some i ∧
      (m.map swapped Sampling.everything).value? = some j ∧
      (∃ text elements, i.properties.get? "_MS.links" = some text ∧ ' ' ∉ text.toList ∧
        Json.read? text = some (.array elements) ∧
        elements.mapM Json.linkIds? = some [(-255, 0x10000000000000000), (7, 8)]) ∧
      i.properties.get? "_MS.links" ≠ j.properties.get? "_MS.links" := by
  intro m swapped
  have hi : (m.map exampleLinked Sampling.everything).value?.isSome := by decide +kernel
  have hj : (m.map swapped Sampling.everything).value?.isSome := by decide +kernel
  obtain ⟨i, hi⟩ := Option.isSome_iff_exists.1 hi
  obtain ⟨j, hj⟩ := Option.isSome_iff_exists.1 hj
  have hread := links_survive.1 m exampleLinked _ i (by simp [exampleLinked]) hi
  have hsame := links_survive.2 m m exampleLinked swapped _ _ i j (by simp [exampleLinked])
    (by simp [swapped]) hi hj
  refine ⟨i, j, hi, hj, hread, ?_⟩
  rw [Ne, hsame]
  decide

end SpanTelemetry
