import SpanTelemetry.Item.Basic
import SpanTelemetry.Json

namespace SpanTelemetry

/-!
# Envelopes

The JSON object in which an item is sent.  Fields without a value are left out, and so are
empty properties, measurements and parsed stacks.

* `Item.envelope` — the envelope of an item.
* `ItemData.body` — the part of it that depends on the kind.
-/

/-- The fields of an object whose values may be missing, in their order. -/
def presentFields (fields : List (String × Option Json)) : Json :=
  .object (fields.filterMap fun f => f.2.map fun v => (f.1, v))

namespace Table

/-- A table as a JSON object. -/
def toJson {α : Type} (value : α → Json) (t : Table α) : Json :=
  .object (t.entries.map fun e => (e.1, value e.2))

/-- A table as a JSON object, if it has an entry. -/
def toJson? {α : Type} (value : α → Json) (t : Table α) : Option Json :=
  if t.isEmpty then none else some (t.toJson value)

end Table

/-- A scalar as a JSON value. -/
def Scalar.toJson : Scalar → Json
  | .string s => .string s
  | .int n => .int n
  | .bool b => .bool b
  | .double x => .double x

/-- A quantity as a JSON value. -/
def Quantity.toJson : Quantity → Json
  | some s => s.toJson
  | none => .null

/-- The version of the layout of payloads. -/
def bodyVersion : Json := .int 2

/-- The fields of a request. -/
def RequestData.body (d : RequestData) : Json :=
  presentFields [
    ("ver", some bodyVersion),
    ("id", d.id.map .string),
    ("name", d.name.map .string),
    ("duration", d.duration.map .string),
    ("success", some (.bool d.success)),
    ("responseCode", d.responseCode.map .string),
    ("url", d.url.map .string),
    ("source", d.source.map .string),
    ("properties", d.properties.toJson? .string),
    ("measurements", d.measurements.toJson? Quantity.toJson)]

/-- The fields of a dependency. -/
def DependencyData.body (d : DependencyData) : Json :=
  presentFields [
    ("ver", some bodyVersion),
    ("id", d.id.map .string),
    ("name", d.name.map .string),
    ("duration", d.duration.map .string),
    ("success", some (.bool d.success)),
    ("type", d.type.map .string),
    ("target", d.target.map .string),
    ("data", d.data.map .string),
    ("resultCode", d.resultCode.map .string),
    ("properties", d.properties.toJson? .string),
    ("measurements", d.measurements.toJson? Quantity.toJson)]

/-- The fields of a message. -/
def MessageData.body (d : MessageData) : Json :=
  presentFields [
    ("ver", some bodyVersion),
    ("message", d.message.map .string),
    ("properties", d.properties.toJson? .string)]

/-- The fields of a stack frame. -/
def StackFrame.body (f : StackFrame) : Json :=
  presentFields [
    ("level", some (.int f.level)),
    ("method", some (.string f.method)),
    ("fileName", f.fileName.map .string),
    ("line", f.line.map .int)]

/-- The fields of an exception of a chain. -/
def ExceptionDetails.body (d : ExceptionDetails) : Json :=
  presentFields [
    ("typeName", d.typeName.map .string),
    ("message", some (.string d.message)),
    ("hasFullStack", some (.bool d.hasFullStack)),
    ("stack", d.stack.map .string),
    ("parsedStack",
      if d.parsedStack.isEmpty then none else some (.array (d.parsedStack.map StackFrame.body)))]

/-- The fields of an exception item. -/
def ExceptionData.body (d : ExceptionData) : Json :=
  presentFields [
    ("ver", some bodyVersion),
    ("exceptions", some (.array (d.exceptions.map ExceptionDetails.body))),
    ("properties", d.properties.toJson? .string)]

/-- The fields of a metric value. -/
def MetricPoint.body (p : MetricPoint) : Json :=
  presentFields [
    ("name", some (.string p.name)),
    ("value", p.value.map Scalar.toJson),
    ("count", p.count.map Scalar.toJson),
    ("min", p.min.map Scalar.toJson),
    ("max", p.max.map Scalar.toJson),
    ("dataPointType", some (.string p.dataPointType))]

/-- The fields of a metric item. -/
def MetricData.body (d : MetricData) : Json :=
  presentFields [
    ("ver", some bodyVersion),
    ("metrics", some (.array (d.metrics.map MetricPoint.body))),
    ("properties", d.properties.toJson? .string)]

namespace ItemData

/-- The name of the kind of a payload. -/
def baseType : ItemData → String
  | request _ => "RequestData"
  | dependency _ => "RemoteDependencyData"
  | message _ => "MessageData"
  | exception _ => "ExceptionData"
  | metric _ => "MetricData"

/-- The name of the envelopes that carry payloads of this kind. -/
def envelopeName : ItemData → String
  | request _ => "Microsoft.ApplicationInsights.Request"
  | dependency _ => "Microsoft.ApplicationInsights.RemoteDependency"
  | message _ => "Microsoft.ApplicationInsights.Message"
  | exception _ => "Microsoft.ApplicationInsights.Exception"
  | metric _ => "Microsoft.ApplicationInsights.Metric"

/-- The fields of a payload. -/
def body : ItemData → Json
  | request d => d.body
  | dependency d => d.body
  | message d => d.body
  | exception d => d.body
  | metric d => d.body

end ItemData

/-- The envelope of an item. -/
def Item.envelope (i : Item) : Json :=
  presentFields [
    ("ver", some (.int 1)),
    ("name", some (.string i.data.envelopeName)),
    ("time", i.time.map .string),
    ("sampleRate", i.sampleRate.map Scalar.toJson),
    ("iKey", i.instrumentationKey.map .string),
    ("tags", some (i.tags.toJson .string)),
    ("data", some (.object [
      ("baseType", .string i.data.baseType),
      ("baseData", i.data.body)]))]

end SpanTelemetry
