import SpanTelemetry.Mapper.Basic
import SpanTelemetry.View

namespace SpanTelemetry

/-!
# Duration metrics

The durations of HTTP and RPC spans are also sent as metrics that are aggregated in advance.

* `Metric.request`, `Metric.dependency` — the metric items of the two sides of a call.
* `Metric.reviewView` — what is noted about the attributes that a view lets through.
* `Metric.ofSpan` — the metric of a span whose item is known.
-/

namespace Metric

/-! ### Dimensions -/

abbrev isAutocollected : String := "_MS.IsAutocollected"
abbrev metricId : String := "_MS.MetricId"
abbrev synthetic : String := "operation/synthetic"
abbrev requestResultCode : String := "request/resultCode"
abbrev requestSuccess : String := "request/success"
abbrev dependencyResultCode : String := "dependency/resultCode"
abbrev dependencySuccess : String := "dependency/success"
abbrev dependencyType : String := "dependency/type"
abbrev dependencyTarget : String := "dependency/target"

/-- The text of a truth value as a dimension. -/
def truthText (b : Bool) : String := if b then "True" else "False"

/-- Set a dimension if there is a value for it. -/
def addDimension? (i : Item) (key : String) : Option String → Item
  | none => i
  | some value => i.addProperty key value

/-- The text that an attribute has as a dimension, if its type is valid and it can be written. -/
def dimensionText? (value : Value) : Option String := value.text?.bind Except.toOption

/-- Set the dimension of an attribute that a view lets through. -/
def addViewAttribute (i : Item) (e : String × Value) : Item := addDimension? i e.1 (dimensionText? e.2)

/-- What is noted about an attribute that a view lets through: its type may be invalid, and its text may be
    one that cannot be written. -/
def reviewDimension (value : Value) : Mapping Unit :=
  match value.text? with
  | none => Mapping.warn [.unexpectedAttribute value.typeName]
  | some text => Mapping.written (text.map fun _ => ())

/-- What is noted about the attributes that a view lets through, in the order of their keys. -/
def reviewView (attributes : Attributes) : Mapping Unit :=
  attributes.entries.forM fun e => reviewDimension e.2

/-! ### Items -/

/-- A metric item with one measured value and the dimensions of a view. -/
def item (name : String) (value : Quantity) (attributes : Attributes)
    (isSynthetic : Option Bool) : Item :=
  let point : MetricPoint :=
    { name, value, count := .int 1, min := value, max := value }
  let i := attributes.entries.foldl addViewAttribute { data := .metric { metrics := [point] } }
  addDimension? (i.addProperty isAutocollected (truthText true)) synthetic
    (isSynthetic.map truthText)

/-- The metric item of a request. -/
def request (name : String) (value : Quantity) (attributes : Attributes)
    (resultCode : Option String) (success : Bool) (isSynthetic : Option Bool) : Item :=
  let i := (item name value attributes isSynthetic).addProperty metricId "requests/duration"
  (addDimension? i requestResultCode resultCode).addProperty requestSuccess (truthText success)

/-- The metric item of a dependency. -/
def dependency (name : String) (value : Quantity) (attributes : Attributes)
    (resultCode : Option String) (success : Bool) (type target : Option String)
    (isSynthetic : Option Bool) : Item :=
  let i := (item name value attributes isSynthetic).addProperty metricId "dependencies/duration"
  let i := (addDimension? i dependencyResultCode resultCode).addProperty dependencySuccess
    (truthText success)
  addDimension? (addDimension? i dependencyType type) dependencyTarget target

/-! ### Metrics of spans -/

/-- The nanoseconds of a millisecond. -/
def nanosPerMilli : Nat := 1000000

/-- The milliseconds from the start of a span to its end. -/
def durationMillis (s : Span) : Except MappingError Binary64 :=
  doubleOrError (Binary64.ofIntQuotient? s.durationNanos nanosPerMilli)

/-- Whether a span belongs to a remote procedure call. -/
def isRpc (attributes : Attributes) : Bool := (attributes.string? AttributeKey.rpcSystem).isSome

/-- Whether a span has a duration metric: those of HTTP and RPC calls have one. -/
def isMeasured (attributes : Attributes) : Bool :=
  isRpc attributes || (attributes.string? AttributeKey.httpMethod).isSome

/-- The metric of a span whose item is known. Only requests and dependencies of HTTP and RPC calls
    have one. -/
def ofSpan (s : Span) (i : Item) : Mapping (Option Item) :=
  let attributes := s.attributes
  if isMeasured attributes then do
    let millis ← Mapping.ofExcept (durationMillis s)
    let rpc := isRpc attributes
    match i.data with
    | .request d =>
        let view := View.server.apply attributes ∅
        reviewView view
        let resultCode ← Mapping.written (attributes.statusCode?.mapM Text.ofInt)
        pure (some (request (if rpc then "rpc.server.duration" else "http.server.duration")
          (.double millis) view resultCode d.success none))
    | .dependency d =>
        let view := View.client.apply attributes ∅
        reviewView view
        let resultCode ← Mapping.written (attributes.statusCode?.mapM Text.ofInt)
        pure (some (dependency (if rpc then "rpc.client.duration" else "http.client.duration")
          (.double millis) view resultCode d.success d.type d.target none))
    | _ => pure none
  else pure none

end Metric

end SpanTelemetry
