import SpanTelemetry.Mapper.Delivery
import SpanTelemetry.Proofs.Item.Attributes
import SpanTelemetry.Proofs.Mapper.Descriptions
import SpanTelemetry.Proofs.Mapper.Initializers

namespace SpanTelemetry

/-!
# What the mapper adds to new items

Each item is built from one that the initializer has left.

* `Mapper.value?_request_iff`, `Mapper.value?_dependency_iff`, `Mapper.value?_message_iff`,
  `Mapper.value?_exception_iff` — when an item is built, and from what.
* `Mapper.warnings_request` and its like — what is reported on the way.
* `Span.requestTag?`, `Span.dependencyTag?`, `Span.eventTag?` — the tags that the mapper sets.
* `Item.tag?_fillRequest` and its like — a tag is the one that the mapper sets, or what it was.
* `Item.sampleRate_fillRequest` and its like — the sample rate is that of the trace, or what it was.
* `Item.instrumentationKey_fillRequest` and its like — the instrumentation key is the one that an attribute
  names, or what it was.
* `Mapper.data_request` and its like — the payload is the one that its span or event describes, where the
  initializer leaves it in its place.
* `Item.properties_fillRequest` and its like — a property is the one that the mapper sets, or what it
  was.
-/

/-! ### When an item is built -/

namespace Mapper

variable {m : Mapper} {s : Span} {e : SpanEvent} {operationName : Option String}
  {percentage : Quantity} {j : Item}

@[simp] theorem value?_newItem (m : Mapper) (data : ItemData) :
    (m.newItem data).value? = (m.initializer { data }).toOption :=
  Mapping.value?_ofExcept_mapError _ _

theorem newItem_of_ok {data : ItemData} {new : NewItem} (h : m.initializer { data } = .ok new) :
    m.newItem data = ⟨[], .ok new⟩ := by
  rw [newItem, h]
  rfl

/-- A request is built as soon as the initializer accepts a new one, its time and all its texts can be
    written, and its waiting time can be measured. -/
theorem value?_request_iff :
    (m.request s percentage).value? = some j ↔
      ∃ new time i waiting, m.initializer { data := .request {} } = .ok new ∧
        timestampText s.start = .ok time ∧ s.attributes.Writable ∧
        new.describe (ItemData.describeRequest m s) = .ok i ∧
        enqueuedMillis? s.start s.attributes = .ok waiting ∧
        (i.fillRequest s percentage time).addMeasurement? waitingTime waiting = .ok j := by
  simp only [request, Mapping.value?_bind, value?_newItem, Mapping.value?_timestamp,
    Mapping.value?_written, Mapping.value?_ofExcept, Option.bind_eq_some_iff,
    Mapping.toOption_eq_some_iff, ← value?_reviewAttributes_iff]
  -- one step of the builder after the other; reviewing the attributes gives nothing but its success
  constructor
  · rintro ⟨new, hnew, time, htime, ⟨⟩, hreview, i, hi, waiting, hwaiting, hj⟩
    exact ⟨new, time, i, waiting, hnew, htime, hreview, hi, hwaiting, hj⟩
  · rintro ⟨new, time, i, waiting, hnew, htime, hreview, hi, hwaiting, hj⟩
    exact ⟨new, hnew, time, htime, (), hreview, i, hi, waiting, hwaiting, hj⟩

/-- A dependency is built as soon as the initializer accepts a new one, and its time and all its texts can
    be written. -/
theorem value?_dependency_iff {inProcess : Bool} :
    (m.dependency s percentage inProcess).value? = some j ↔
      ∃ new time i, m.initializer { data := .dependency {} } = .ok new ∧
        timestampText s.start = .ok time ∧ s.attributes.Writable ∧
        new.describe (ItemData.describeDependency m s inProcess) = .ok i ∧
        i.fillDependency s percentage time = j := by
  simp only [dependency, Mapping.value?_bind, value?_newItem, Mapping.value?_timestamp,
    Mapping.value?_written, Option.bind_eq_some_iff, Mapping.toOption_eq_some_iff,
    ← value?_reviewAttributes_iff, Mapping.pure_eq, Mapping.value?_ok, Option.some.injEq]
  constructor
  · rintro ⟨new, hnew, time, htime, ⟨⟩, hreview, i, hi, hj⟩
    exact ⟨new, time, i, hnew, htime, hreview, hi, hj⟩
  · rintro ⟨new, time, i, hnew, htime, hreview, hi, hj⟩
    exact ⟨new, hnew, time, htime, (), hreview, i, hi, hj⟩

/-- A message is built as soon as the initializer accepts a new one, and its time and the texts of its
    attributes can be written. -/
theorem value?_message_iff :
    (m.message e s operationName percentage).value? = some j ↔
      ∃ new time, m.initializer { data := .message { message := some e.name } } = .ok new ∧
        timestampText e.timestamp = .ok time ∧ e.attributes.Writable ∧
        new.item.fillMessage e s operationName percentage time = j := by
  simp only [message, Mapping.value?_bind, value?_newItem, Mapping.value?_timestamp,
    Option.bind_eq_some_iff, Mapping.toOption_eq_some_iff, ← value?_reviewAttributes_iff,
    Mapping.pure_eq, Mapping.value?_ok, Option.some.injEq]
  constructor
  · rintro ⟨new, hnew, time, htime, ⟨⟩, hreview, hj⟩
    exact ⟨new, time, hnew, htime, hreview, hj⟩
  · rintro ⟨new, time, hnew, htime, hreview, hj⟩
    exact ⟨new, hnew, time, htime, (), hreview, hj⟩

/-- An exception item is built as soon as the initializer accepts a new one, its time can be written and its
    stack trace be read. -/
theorem value?_exception_iff {stackTrace : String} :
    (m.exception stackTrace s operationName percentage).value? = some j ↔
      ∃ new time details, m.initializer { data := .exception {} } = .ok new ∧
        timestampText s.finish = .ok time ∧ StackTrace.read stackTrace = .ok details ∧
        new.item.fillException details s operationName percentage time = j := by
  simp [exception, Option.bind_eq_some_iff, Mapping.toOption_eq_some_iff]

/-! ### Warnings -/

/-- A request that is built is built with the warnings about the attributes of its span. -/
theorem warnings_request (h : (m.request s percentage).value? = some j) :
    (m.request s percentage).warnings = attributeWarnings s.attributes := by
  obtain ⟨new, time, i, waiting, hnew, htime, hwritable, hi, hwaiting, -⟩ := value?_request_iff.1 h
  rw [request, newItem_of_ok hnew, Mapping.timestamp_of_ok htime,
    reviewAttributes_of_writable hwritable]
  simp [Mapping.written_of_ok hi, hwaiting, Mapping.ofExcept]

/-- A dependency that is built is built with the same ones. -/
theorem warnings_dependency {inProcess : Bool}
    (h : (m.dependency s percentage inProcess).value? = some j) :
    (m.dependency s percentage inProcess).warnings = attributeWarnings s.attributes := by
  obtain ⟨new, time, i, hnew, htime, hwritable, hi, -⟩ := value?_dependency_iff.1 h
  rw [dependency, newItem_of_ok hnew, Mapping.timestamp_of_ok htime,
    reviewAttributes_of_writable hwritable]
  simp [Mapping.written_of_ok hi]

/-- A message that is built is built with the warnings about the attributes of its event. -/
theorem warnings_message (h : (m.message e s operationName percentage).value? = some j) :
    (m.message e s operationName percentage).warnings = attributeWarnings e.attributes := by
  obtain ⟨new, time, hnew, htime, hwritable, -⟩ := value?_message_iff.1 h
  rw [message, newItem_of_ok hnew, Mapping.timestamp_of_ok htime,
    reviewAttributes_of_writable hwritable]
  simp

/-- An exception item never comes with a warning. -/
theorem warnings_exception (m : Mapper) (stackTrace : String) (s : Span)
    (operationName : Option String) (percentage : Quantity) :
    (m.exception stackTrace s operationName percentage).warnings = [] := by
  unfold exception newItem Mapping.timestamp Mapping.ofExcept
  -- each of the three steps may fail, and none of them warns
  cases m.initializer { data := .exception {} } with
  | error e => rfl
  | ok new =>
    cases timestampText s.finish with
    | error e => rfl
    | ok time => cases StackTrace.read stackTrace <;> rfl

end Mapper

/-- The item of a span is a request or a dependency. -/
theorem Mapper.map_cases {m : Mapper} {s : Span} {percentage : Quantity} {j : Item}
    (h : (m.map s percentage).value? = some j) :
    (m.map s percentage = m.request s percentage ∧
        (m.request s percentage).value? = some j) ∨
      ∃ inProcess, m.map s percentage = m.dependency s percentage inProcess ∧
        (m.dependency s percentage inProcess).value? = some j := by
  unfold Mapper.map at h ⊢
  cases hkind : s.itemKind with
  | error e => simp [hkind, Mapping.fail] at h
  | ok kind =>
    simp only [hkind] at h
    cases kind with
    | request => exact Or.inl ⟨rfl, h⟩
    | dependency inProcess => exact Or.inr ⟨inProcess, rfl, h⟩

/-! ### Tags -/

namespace Span

/-- The tags that a request has from its span. -/
def requestTag? (s : Span) : TagKey → Option String
  | .operationName => some s.operationName
  | .operationId => some (traceIdText s.context.traceId)
  | .operationParentId => s.requestParentId?
  | .legacyRootId => s.attributes.string? AttributeKey.bridgedLegacyRootId
  | .locationIp => s.attributes.clientIp?
  | .sessionId => s.attributes.string? AttributeKey.bridgedSessionId
  | .deviceOs => s.attributes.string? AttributeKey.bridgedDeviceOs
  | .deviceOsVersion => s.attributes.string? AttributeKey.bridgedDeviceOsVersion
  | tag => tag.attributeKey?.bind s.attributes.string?

/-- The tags that a dependency has from its span. -/
def dependencyTag? (s : Span) : TagKey → Option String
  | .operationName => bridgedOperationName? s.attributes
  | .operationId => some (traceIdText s.context.traceId)
  | .operationParentId => s.validParent?.map fun p => spanIdText p.spanId
  | tag => tag.attributeKey?.bind s.attributes.string?

/-- The tags that an item of an event has from its span and from attributes of its own. -/
def eventTag? (s : Span) (operationName : Option String) (attributes : Attributes) :
    TagKey → Option String
  | .operationName => operationName.or (bridgedOperationName? s.attributes)
  | .operationId => some (traceIdText s.context.traceId)
  | .operationParentId => some (spanIdText s.context.spanId)
  | tag => tag.attributeKey?.bind attributes.string?

end Span

namespace Item

variable (i : Item) (s : Span) (e : SpanEvent) (details : ExceptionDetails)
  (operationName : Option String) (percentage : Quantity) (time : String)

@[simp] theorem tag?_addLinks (links : List SpanContext) (tag : TagKey) :
    (i.addLinks links).tag? tag = i.tag? tag := by
  unfold addLinks
  split <;> simp

/-- A tag of a request is the one that its span gives it, or what it was. -/
theorem tag?_fillRequest (tag : TagKey) :
    (i.fillRequest s percentage time).tag? tag = (s.requestTag? tag).or (i.tag? tag) := by
  -- what is set last stands outermost, so every tag is found in one pass
  simp only [fillRequest, addRequestTags, setOperationName, setOperationId, tag?_addTag?, tag?_addTag,
    tag?_addLinks, tag?_addAttributes, tag?_setSampleRate, tag?_setTime]
  cases tag <;> simp [Span.requestTag?, TagKey.attributeKey?]

/-- A tag of a dependency is the one that its span gives it, or what it was. -/
theorem tag?_fillDependency (tag : TagKey) :
    (i.fillDependency s percentage time).tag? tag =
      (s.dependencyTag? tag).or (i.tag? tag) := by
  simp only [fillDependency, setOperation, setBridgedOperationName, setOperationId, tag?_addTag?,
    tag?_addTag, tag?_addLinks, tag?_addAttributes, tag?_setSampleRate, tag?_setTime]
  cases tag <;> simp [Span.dependencyTag?, TagKey.attributeKey?]

/-- The tags that an item of an event has from its span alone. -/
theorem tag?_setEventOperation (tag : TagKey) :
    (i.setEventOperation s operationName).tag? tag =
      (s.eventTag? operationName ∅ tag).or (i.tag? tag) := by
  -- a bridge is asked for the name of the operation only where none is given
  cases operationName <;>
    simp only [setEventOperation, setBridgedOperationName, setOperationName, setOperationId,
      setParentId, tag?_addTag?, tag?_addTag] <;>
    cases tag <;> simp [Span.eventTag?, TagKey.attributeKey?, Attributes.string?]

/-- A tag of a message is the one that its span or its attributes give it, or what it was. -/
theorem tag?_fillMessage (tag : TagKey) :
    (i.fillMessage e s operationName percentage time).tag? tag =
      (s.eventTag? operationName e.attributes tag).or (i.tag? tag) := by
  simp only [fillMessage, tag?_setSampleRate, tag?_addAttributes, tag?_setTime,
    tag?_setEventOperation]
  cases tag <;> simp [Span.eventTag?, TagKey.attributeKey?, Attributes.string?]

/-- A tag of an exception item is the one that its span gives it, or what it was. -/
theorem tag?_fillException (tag : TagKey) :
    (i.fillException details s operationName percentage time).tag? tag =
      (s.eventTag? operationName ∅ tag).or (i.tag? tag) := by
  simp only [fillException, tag?_mapException, tag?_setSampleRate, tag?_setTime,
    tag?_setEventOperation]

/-! ### Sample rates -/

/-- Links have no part in the sample rate. -/
theorem sampleRate_addLinks (links : List SpanContext) :
    (i.addLinks links).sampleRate = i.sampleRate := by
  unfold addLinks
  split <;> rfl

/-- The sample rate of a request is the percentage of its span, unless everything is sampled. -/
theorem sampleRate_fillRequest :
    (i.fillRequest s percentage time).sampleRate =
      if percentage.isNumber 100 then i.sampleRate else percentage := by
  simp [fillRequest, addRequestTags, setOperationName, setOperationId, sampleRate_addLinks]

/-- The sample rate of a dependency is the same. -/
theorem sampleRate_fillDependency :
    (i.fillDependency s percentage time).sampleRate =
      if percentage.isNumber 100 then i.sampleRate else percentage := by
  simp [fillDependency, setOperation, setBridgedOperationName, setOperationId, sampleRate_addLinks]

/-- The tags of an event have no part in the sample rate. -/
theorem sampleRate_setEventOperation :
    (i.setEventOperation s operationName).sampleRate = i.sampleRate := by
  cases operationName <;>
    simp [setEventOperation, setBridgedOperationName, setOperationName, setOperationId, setParentId]

/-- The sample rate of a message is the percentage of the span that recorded it. -/
theorem sampleRate_fillMessage :
    (i.fillMessage e s operationName percentage time).sampleRate =
      if percentage.isNumber 100 then i.sampleRate else percentage := by
  simp [fillMessage, sampleRate_setEventOperation]

/-- The sample rate of an exception item is the percentage of the span that it ended. -/
theorem sampleRate_fillException :
    (i.fillException details s operationName percentage time).sampleRate =
      if percentage.isNumber 100 then i.sampleRate else percentage := by
  simp [fillException, sampleRate_setEventOperation]

/-! ### Instrumentation keys -/

@[simp] theorem instrumentationKey_addLinks (links : List SpanContext) :
    (i.addLinks links).instrumentationKey = i.instrumentationKey := by
  unfold addLinks
  split <;> rfl

/-- A string attribute of its span overrides the instrumentation key of a request. -/
theorem instrumentationKey_fillRequest :
    (i.fillRequest s percentage time).instrumentationKey =
      (s.attributes.string? AttributeKey.previewInstrumentationKey).or i.instrumentationKey := by
  simp [fillRequest, addRequestTags, setOperationName, setOperationId]

/-- A string attribute of its span overrides the instrumentation key of a dependency. -/
theorem instrumentationKey_fillDependency :
    (i.fillDependency s percentage time).instrumentationKey =
      (s.attributes.string? AttributeKey.previewInstrumentationKey).or i.instrumentationKey := by
  simp [fillDependency, setOperation, setBridgedOperationName, setOperationId]

@[simp] theorem instrumentationKey_setEventOperation :
    (i.setEventOperation s operationName).instrumentationKey = i.instrumentationKey := by
  cases operationName <;>
    simp [setEventOperation, setBridgedOperationName, setOperationName, setOperationId, setParentId]

/-- A string attribute of its event overrides the instrumentation key of a message. -/
theorem instrumentationKey_fillMessage :
    (i.fillMessage e s operationName percentage time).instrumentationKey =
      (e.attributes.string? AttributeKey.previewInstrumentationKey).or i.instrumentationKey := by
  simp [fillMessage]

/-- An exception item keeps its instrumentation key, because the attributes of its event are not put on
    it. -/
theorem instrumentationKey_fillException :
    (i.fillException details s operationName percentage time).instrumentationKey =
      i.instrumentationKey := by
  simp [fillException]

/-! ### Payloads -/

/-- Links change nothing but the properties of a payload. -/
theorem data_addLinks (links : List SpanContext) :
    (i.addLinks links).data = i.data.withProperties (i.addLinks links).properties := by
  unfold addLinks
  split
  · exact (i.data.withProperties_self).symm
  · simp

/-- Attributes and links change nothing but the properties of a payload. -/
theorem data_addExtras (attributes : Attributes) (links : List SpanContext) :
    ((i.addAttributes attributes).addLinks links).data =
      i.data.withProperties ((i.addAttributes attributes).addLinks links).properties := by
  rw [data_addLinks, data_addAttributes, ItemData.withProperties_withProperties]

/-- Tags are no part of a payload. -/
theorem data_addRequestTags : (i.addRequestTags s).data = i.data := by
  simp [addRequestTags, setOperationName, setOperationId]

/-- Neither are those of an operation. -/
theorem data_setOperation : (i.setOperation s).data = i.data := by
  simp [setOperation, setBridgedOperationName, setOperationId]

/-- Neither are those of an event. -/
theorem data_setEventOperation : (i.setEventOperation s operationName).data = i.data := by
  cases operationName <;>
    simp [setEventOperation, setBridgedOperationName, setOperationName, setOperationId, setParentId]

/-- Filling a request changes nothing but the properties of its payload. -/
theorem data_fillRequest :
    (i.fillRequest s percentage time).data =
      i.data.withProperties (i.fillRequest s percentage time).properties := by
  have hdata : (i.fillRequest s percentage time).data =
      i.data.withProperties ((((i.setTime time).setSampleRate percentage).addAttributes
        s.attributes).addLinks s.links).properties := by
    rw [fillRequest, data_addRequestTags, data_addExtras, data_setSampleRate, data_setTime]
  rw [properties, hdata, ItemData.properties_withProperties]

/-- Filling a dependency changes nothing but the properties of its payload. -/
theorem data_fillDependency :
    (i.fillDependency s percentage time).data =
      i.data.withProperties (i.fillDependency s percentage time).properties := by
  have hdata : (i.fillDependency s percentage time).data =
      i.data.withProperties (((((i.setOperation s).setTime time).setSampleRate
        percentage).addAttributes s.attributes).addLinks s.links).properties := by
    rw [fillDependency, data_addExtras, data_setSampleRate, data_setTime, data_setOperation]
  rw [properties, hdata, ItemData.properties_withProperties]

/-- A measurement changes nothing but the measurements. -/
theorem addMeasurement?_frame {i j : Item} {key : String} {value : Option Binary64}
    (h : i.addMeasurement? key value = .ok j) :
    ∃ measurements, j = { i with data := i.data.withMeasurements measurements } := by
  cases value with
  | none =>
    cases h
    -- nothing is added, so the measurements are those that are there
    exact ⟨i.measurements, by simp [measurements]⟩
  | some x =>
    simp only [addMeasurement?, addMeasurement] at h
    cases hm : i.data.measurements? with
    | none =>
      rw [hm] at h
      cases h
    | some ms =>
      rw [hm] at h
      cases h
      exact ⟨_, rfl⟩

/-- Of the payload of a message nothing changes but the properties. -/
theorem data_fillMessage :
    ∃ properties, (i.fillMessage e s operationName percentage time).data =
      i.data.withProperties properties := by
  let extended := ((i.setEventOperation s operationName).setTime time).addAttributes e.attributes
  refine ⟨extended.properties, ?_⟩
  rw [fillMessage, data_setSampleRate, data_addAttributes, data_setTime, data_setEventOperation]

/-- An exception item has the exception that the stack trace tells of. -/
theorem data_fillException {d : ExceptionData} (h : i.data = .exception d) :
    (i.fillException details s operationName percentage time).data =
      .exception { d with exceptions := [details] } := by
  refine data_mapException _ ?_ _
  rw [data_setSampleRate, data_setTime, data_setEventOperation, h]

end Item

/-! ### Payloads of items -/

namespace Mapper

variable {m : Mapper} {s : Span} {e : SpanEvent} {operationName : Option String}
  {percentage : Quantity} {j : Item}

/-- **The payload of a request** is what its span says, where the initializer leaves it in its place. -/
theorem data_request
    (hkeeps : ∀ new, m.initializer { data := .request {} } = .ok new → new.KeepsType (.request {}))
    (h : (m.request s percentage).value? = some j) :
    ∃ base d, RequestData.describe base s m.statusCodesFail m.appId = .ok d ∧ j.data = .request d := by
  obtain ⟨new, time, i, waiting, hnew, -, -, hi, -, hfilled⟩ := value?_request_iff.1 h
  obtain ⟨hplace, base, hbase⟩ := hkeeps new hnew
  rw [NewItem.describe_of_inPlace hplace, hbase] at hi
  obtain ⟨data, hdata, rfl⟩ := map_eq_ok_iff.1 hi
  obtain ⟨d, hd, rfl⟩ := map_eq_ok_iff.1 hdata
  obtain ⟨measurements, rfl⟩ := Item.addMeasurement?_frame hfilled
  let properties := Item.properties (Item.fillRequest { new.item with data := .request d } s percentage time)
  -- the properties and measurements that are added may as well have been there before
  refine ⟨{ base with properties, measurements }, { d with properties, measurements }, ?_, ?_⟩
  · obtain ⟨duration, responseCode, source, hduration, hcode, hsource, rfl⟩ :=
      RequestData.describe_eq_ok_iff.1 hd
    exact RequestData.describe_eq_ok_iff.2
      ⟨duration, responseCode, source, hduration, hcode, hsource, rfl⟩
  · exact congrArg (ItemData.withMeasurements measurements) (Item.data_fillRequest _ s percentage time)

/-- **The payload of a dependency** is what its span says, where the initializer leaves it in its place. -/
theorem data_dependency
    (hkeeps : ∀ new, m.initializer { data := .dependency {} } = .ok new →
      new.KeepsType (.dependency {}))
    {inProcess : Bool} (h : (m.dependency s percentage inProcess).value? = some j) :
    ∃ base d, DependencyData.ofSpan base s inProcess m.statusCodesFail m.appId = .ok d ∧
      j.data = .dependency d := by
  obtain ⟨new, time, i, hnew, -, -, hi, rfl⟩ := value?_dependency_iff.1 h
  obtain ⟨hplace, base, hbase⟩ := hkeeps new hnew
  rw [NewItem.describe_of_inPlace hplace, hbase] at hi
  obtain ⟨data, hdata, rfl⟩ := map_eq_ok_iff.1 hi
  obtain ⟨d, hd, rfl⟩ := map_eq_ok_iff.1 hdata
  let properties :=
    Item.properties (Item.fillDependency { new.item with data := .dependency d } s percentage time)
  refine ⟨{ base with properties }, { d with properties }, ?_, Item.data_fillDependency _ s percentage time⟩
  -- the properties that are added may as well have been there before the description
  rw [DependencyData.ofSpan_withProperties, hd]
  rfl

/-- A message says what its event is called. -/
theorem data_message (hkeeps : m.KeepsPayloads)
    (h : (m.message e s operationName percentage).value? = some j) :
    ∃ properties, j.data = .message { message := some e.name, properties } := by
  obtain ⟨new, time, hnew, -, -, rfl⟩ := value?_message_iff.1 h
  obtain ⟨-, _, hdata⟩ := hkeeps _ _ (.message e.name) hnew
  obtain ⟨properties, hfilled⟩ := new.item.data_fillMessage s e operationName percentage time
  exact ⟨properties, by rw [hfilled, hdata]; rfl⟩

/-- An exception item tells of the one exception that its stack trace tells of. -/
theorem data_exception (hkeeps : m.KeepsPayloads) {stackTrace : String}
    (h : (m.exception stackTrace s operationName percentage).value? = some j) :
    ∃ details properties, StackTrace.read stackTrace = .ok details ∧
      j.data = .exception { exceptions := [details], properties } := by
  obtain ⟨new, time, details, hnew, -, hdetails, rfl⟩ := value?_exception_iff.1 h
  obtain ⟨-, properties, hdata⟩ := hkeeps _ _ .exception hnew
  exact ⟨details, properties, hdetails, new.item.data_fillException s details operationName percentage
    time hdata⟩

/-- The item of a span is a request or a dependency, where the initializer leaves those what they are. -/
theorem isOfSpan_map (hkeeps : m.KeepsKinds) (h : (m.map s percentage).value? = some j) :
    j.data.isOfSpan = true := by
  rcases map_cases h with ⟨-, h⟩ | ⟨inProcess, -, h⟩
  -- from the outside in: measurements, properties, the description, and what the initializer has left
  · obtain ⟨new, time, i, waiting, hnew, -, -, hi, -, hfilled⟩ := value?_request_iff.1 h
    obtain ⟨measurements, rfl⟩ := Item.addMeasurement?_frame hfilled
    rw [ItemData.isOfSpan_withMeasurements, Item.data_fillRequest, ItemData.isOfSpan_withProperties,
      NewItem.isOfSpan_of_describe hi (ItemData.isDescription_request m s), hkeeps _ _ .request hnew]
    rfl
  · obtain ⟨new, time, i, hnew, -, -, hi, rfl⟩ := value?_dependency_iff.1 h
    rw [Item.data_fillDependency, ItemData.isOfSpan_withProperties,
      NewItem.isOfSpan_of_describe hi (ItemData.isDescription_dependency m s inProcess),
      hkeeps _ _ .dependency hnew]
    rfl

end Mapper

/-! ### Properties -/

/-- The properties that a request or a dependency has from the attributes and links of its span. -/
def Span.property? (s : Span) (key : String) : Option String :=
  if key = linksProperty ∧ s.links ≠ [] then some (linksText s.links)
  else (s.attributes.get? key).bind (propertyText? key)

namespace Item

variable (i : Item) (s : Span) (e : SpanEvent) (details : ExceptionDetails)
  (operationName : Option String) (percentage : Quantity) (time key : String)

theorem properties_of_data {i j : Item} (h : i.data = j.data) : i.properties = j.properties :=
  congrArg ItemData.properties h

/-- A change of an exception in which the properties have no part leaves them. -/
theorem properties_mapException {f : ExceptionData → ExceptionData}
    (hf : ∀ d, (f d).properties = d.properties) :
    (i.mapException f).properties = i.properties := by
  unfold mapException properties
  split
  · rename_i d hd
    simpa [hd, ItemData.properties] using hf d
  · rfl

/-- The links replace a property of their name. -/
theorem properties_addLinks (links : List SpanContext) :
    (i.addLinks links).properties.get? key =
      if key = linksProperty ∧ links ≠ [] then some (linksText links)
      else i.properties.get? key := by
  unfold addLinks
  cases links with
  | nil => simp
  | cons link rest => by_cases h : key = linksProperty <;> simp [h]

/-- The attributes and the links of a span, one property at a time. -/
theorem properties_addExtras :
    ((i.addAttributes s.attributes).addLinks s.links).properties.get? key =
      (s.property? key).or (i.properties.get? key) := by
  rw [properties_addLinks, properties_addAttributes, Span.property?]
  split <;> simp

/-- A property of a request is the one that its span gives it, or what it was. -/
theorem properties_fillRequest :
    (i.fillRequest s percentage time).properties.get? key =
      (s.property? key).or (i.properties.get? key) := by
  have hstart : ((i.setTime time).setSampleRate percentage).properties = i.properties :=
    properties_of_data (by simp)
  rw [fillRequest, properties_of_data (data_addRequestTags _ s), properties_addExtras, hstart]

/-- A property of a dependency is the one that its span gives it, or what it was. -/
theorem properties_fillDependency :
    (i.fillDependency s percentage time).properties.get? key =
      (s.property? key).or (i.properties.get? key) := by
  have hstart : (((i.setOperation s).setTime time).setSampleRate percentage).properties =
      i.properties := properties_of_data (by simp [data_setOperation])
  rw [fillDependency, properties_addExtras, hstart]

/-- A property of a message is the one that its event gives it, or what it was. -/
theorem properties_fillMessage :
    (i.fillMessage e s operationName percentage time).properties.get? key =
      ((e.attributes.get? key).bind (propertyText? key)).or (i.properties.get? key) := by
  have hstart : ((i.setEventOperation s operationName).setTime time).properties = i.properties :=
    properties_of_data (by simp [data_setEventOperation])
  rw [fillMessage, properties_of_data (data_setSampleRate _ _), properties_addAttributes, hstart]

/-- An exception item keeps its properties. -/
theorem properties_fillException :
    (i.fillException details s operationName percentage time).properties = i.properties := by
  rw [fillException, properties_mapException]
  · exact properties_of_data (by simp [data_setEventOperation])
  · exact fun _ => rfl

end Item

end SpanTelemetry
