import SpanTelemetry.Item.Attributes
import SpanTelemetry.Item.Operation
import SpanTelemetry.Mapper.Basic

namespace SpanTelemetry

/-!
# Requests

Spans that this component served become requests.

* `Span.operationName` — the name of the operation that a request begins.
* `Span.source?` — where a request came from, if that can be written.
* `RequestData.describe` — the fields of a request that follow from its span.
* `enqueuedMillis?` — how long its message was waiting.
* `Item.fillRequest` — a request with all else that follows from its span.
* `Mapper.request` — the request of a span.
-/

/-- The name of the operation that a request begins: that of a bridge, or the name of the span,
    behind the HTTP method if it is a path. -/
def Span.operationName (s : Span) : String :=
  match bridgedOperationName? s.attributes with
  | some name => name
  | none =>
      match s.attributes.string? AttributeKey.httpMethod with
      | some method =>
          if !method.isEmpty && Text.startsWith s.name "/" then method ++ " " ++ s.name else s.name
      | none => s.name

/-- The key of the sending component in a trace state. -/
abbrev appIdStateKey : String := "az"

/-- The sender of a request that is known by its name: the one that a bridge has noted, or another
    component that the trace state names. -/
def Span.sender? (s : Span) (appId : Option String) : Option String :=
  (s.attributes.string? AttributeKey.bridgedSource)
    |>.or ((s.context.traceState.get? appIdStateKey).filter fun source => some source != appId)

/-- Where a request came from: what a bridge has noted, another component that the trace state
    names, or the queue that the message came through. -/
def Span.source? (s : Span) (appId : Option String) : Text.Written (Option String) :=
  match s.sender? appId with
  | some sender => .ok (some sender)
  | none => s.attributes.messagingEndpoint?

/-! ### Waiting time -/

/-- The milliseconds from a point in time in seconds to the start of a span in nanoseconds, none
    if it is later. -/
def millisSince (enqueued start : Int) : Int :=
  max 0 (Int.fdiv start 1000000 - enqueued * 1000)

/-- An optional integer as a double; an integer beyond the finite doubles is an error. -/
def doubleOf? : Option Int → Except MappingError (Option Binary64)
  | none => .ok none
  | some n => (doubleOrError (Binary64.ofInt? n)).map some

/-- How many milliseconds a message was waiting before a span started. A queue time that was
    measured wins over the time at which the message was put in. -/
def enqueuedMillis? (start : Int) (attributes : Attributes) :
    Except MappingError (Option Binary64) := do
  let sinceEnqueued ← doubleOf?
    ((attributes.int? AttributeKey.enqueuedTime).map fun enqueued => millisSince enqueued start)
  let measured ← doubleOf? (attributes.int? AttributeKey.kafkaRecordQueueTime)
  pure (measured.or sinceEnqueued)

/-- The measurement of the waiting time. -/
abbrev waitingTime : String := "timeSinceEnqueued"

/-! ### The request -/

/-- The parent of a request: the id that a bridge has kept, or the id of a valid parent span. -/
def Span.requestParentId? (s : Span) : Option String :=
  (s.attributes.string? AttributeKey.bridgedLegacyParentId).or
    (s.validParent?.map fun p => spanIdText p.spanId)

/-- The address of the client of a request. -/
def Attributes.clientIp? (attributes : Attributes) : Option String :=
  (attributes.string? AttributeKey.httpClientIp).or (attributes.string? AttributeKey.netPeerIp)

/-- The tags of a request. -/
def Item.addRequestTags (i : Item) (s : Span) : Item :=
  (i.setOperationName s.operationName
    |>.setOperationId s.context.traceId
    |>.addTag? .operationParentId s.requestParentId?
    |>.addTag? .legacyRootId (s.attributes.string? AttributeKey.bridgedLegacyRootId)
    |>.addTag? .locationIp s.attributes.clientIp?
    |>.addTag? .sessionId (s.attributes.string? AttributeKey.bridgedSessionId)
    |>.addTag? .deviceOs (s.attributes.string? AttributeKey.bridgedDeviceOs)
    |>.addTag? .deviceOsVersion (s.attributes.string? AttributeKey.bridgedDeviceOsVersion))

/-- A request with the fields of a span. -/
def RequestData.describe (d : RequestData) (s : Span) (statusCodesFail : Bool)
    (appId : Option String) : Text.Written RequestData := do
  let duration ← durationText s.durationNanos
  let responseCode ← s.attributes.responseCode
  let source ← s.source? appId
  pure { d with
    id := some (spanIdText s.context.spanId)
    name := some s.operationName
    duration := some duration
    success := s.isSuccessful statusCodesFail
    url := s.attributes.serverUrl?
    responseCode := some responseCode
    source }

/-- Describe a payload if it is a request. -/
def ItemData.describeRequest (m : Mapper) (s : Span) : ItemData → Text.Written ItemData
  | .request d => (d.describe s m.statusCodesFail m.appId).map .request
  | data => .ok data

/-- An item with an optional measurement. -/
def Item.addMeasurement? (i : Item) (key : String) :
    Option Binary64 → Except MappingError Item
  | none => .ok i
  | some value => (i.addMeasurement key (.double value)).result.mapError .item

/-- A request with all that follows from its span, apart from the fields of its payload and from
    measurements. -/
def Item.fillRequest (i : Item) (s : Span) (percentage : Quantity) (time : String) : Item :=
  let i := (i.setTime time).setSampleRate percentage
  ((i.addAttributes s.attributes).addLinks s.links).addRequestTags s

/-- The request of a span that is sampled at the given percentage. -/
def Mapper.request (m : Mapper) (s : Span) (percentage : Quantity) : Mapping Item := do
  let new ← m.newItem (.request {})
  let time ← Mapping.timestamp s.start
  reviewAttributes s.attributes
  let i ← Mapping.written (new.describe (ItemData.describeRequest m s))
  let waiting ← Mapping.ofExcept (enqueuedMillis? s.start s.attributes)
  Mapping.ofExcept ((i.fillRequest s percentage time).addMeasurement? waitingTime waiting)

end SpanTelemetry
