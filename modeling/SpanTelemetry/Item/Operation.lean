import SpanTelemetry.AttributeKey
import SpanTelemetry.Item.Basic
import SpanTelemetry.Json
import SpanTelemetry.Span

namespace SpanTelemetry

/-!
# Operations

The items of one trace are tied together by tags with the ids of the trace and of the parent.

* `Item.setOperationId`, `Item.setParentId`, `Item.setOperationName` — the single tags.
* `Item.setOperation` — the tags of an item from its span.
* `linksText` — the links of a span as a property.
-/

/-- The operation name that a bridge has put on a span. -/
def bridgedOperationName? (attributes : Attributes) : Option String :=
  attributes.string? AttributeKey.bridgedOperationName

namespace Item

/-- Name the trace that an item belongs to. -/
def setOperationId (i : Item) (traceId : Int) : Item := i.addTag .operationId (traceIdText traceId)

/-- Name the span that an item was caused by. -/
def setParentId (i : Item) (spanId : Int) : Item := i.addTag .operationParentId (spanIdText spanId)

/-- Name the operation that an item belongs to. -/
def setOperationName (i : Item) (name : String) : Item := i.addTag .operationName name

/-- Name the operation as a bridge has done. -/
def setBridgedOperationName (i : Item) (attributes : Attributes) : Item :=
  i.addTag? .operationName (bridgedOperationName? attributes)

/-- Name the trace, the parent if it is valid, and the operation if a bridge has named it. -/
def setOperation (i : Item) (s : Span) : Item :=
  let i := i.setOperationId s.context.traceId
  let i := i.addTag? .operationParentId (s.validParent?.map fun p => spanIdText p.spanId)
  i.setBridgedOperationName s.attributes

end Item

/-! ### Links -/

/-- The property that holds the links of a span. -/
abbrev linksProperty : String := "_MS.links"

/-- A link as a JSON object. -/
def linkJson (c : SpanContext) : Json :=
  .object [("operation_Id", .string (traceIdText c.traceId)), ("id", .string (spanIdText c.spanId))]

/-- The text of a list of links. -/
def linksText (links : List SpanContext) : String := (Json.array (links.map linkJson)).compact

/-- An item with the links of its span, if there are any. -/
def Item.addLinks (i : Item) (links : List SpanContext) : Item :=
  if links.isEmpty then i else i.addProperty linksProperty (linksText links)

end SpanTelemetry
