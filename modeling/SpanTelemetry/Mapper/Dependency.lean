import SpanTelemetry.Item.Attributes
import SpanTelemetry.Item.Operation
import SpanTelemetry.Mapper.Basic

namespace SpanTelemetry

/-!
# Dependency items

Spans of calls that this component made become dependencies.

* `DependencyData.ofSpan` — the fields of a dependency that follow from its span.
* `Item.fillDependency` — a dependency with all else that follows from its span.
* `Mapper.dependency` — the dependency of a span.
-/

/-- A dependency with the fields of a span; only a call that leaves the process has a protocol. -/
def DependencyData.ofSpan (d : DependencyData) (s : Span) (inProcess statusCodesFail : Bool)
    (appId : Option String) : Text.Written DependencyData := do
  let duration ← durationText s.durationNanos
  let d := { d with
    id := some (spanIdText s.context.spanId)
    name := some (s.attributes.dependencyName s.name)
    duration := some duration
    success := s.isSuccessful statusCodesFail }
  if inProcess then pure { d with type := some inProcessType }
  else d.describe s.kind s.attributes appId

/-- Describe a payload if it is a dependency. -/
def ItemData.describeDependency (m : Mapper) (s : Span) (inProcess : Bool) :
    ItemData → Text.Written ItemData
  | .dependency d => (d.ofSpan s inProcess m.statusCodesFail m.appId).map .dependency
  | data => .ok data

/-- A dependency with all that follows from its span, apart from the fields of its payload. -/
def Item.fillDependency (i : Item) (s : Span) (percentage : Quantity) (time : String) : Item :=
  let i := ((i.setOperation s).setTime time).setSampleRate percentage
  (i.addAttributes s.attributes).addLinks s.links

/-- The dependency of a span that is sampled at the given percentage. -/
def Mapper.dependency (m : Mapper) (s : Span) (percentage : Quantity) (inProcess : Bool) :
    Mapping Item := do
  let new ← m.newItem (.dependency {})
  let time ← Mapping.timestamp s.start
  reviewAttributes s.attributes
  let i ← Mapping.written (new.describe (ItemData.describeDependency m s inProcess))
  pure (i.fillDependency s percentage time)

end SpanTelemetry
