import SpanTelemetry.Mapper.Dependency
import SpanTelemetry.Mapper.Event
import SpanTelemetry.Mapper.Metric
import SpanTelemetry.Mapper.Request
import SpanTelemetry.Sampling
import SpanTelemetry.Sink

namespace SpanTelemetry

/-!
# From spans to sinks

* `Mapper.map` — the item of a span.
* `Mapper.deliver` — the items of a span and its events, handed to a sink one by one as they are
  built.
* `Mapper.collect` — the same items built before any of them is handed on.
* `Delivery`, `Collection` — what is known afterwards, with what the suppressor was asked.
-/

/-- The item of a span that is sampled at the given percentage. -/
def Mapper.map (m : Mapper) (s : Span) (percentage : Quantity) : Mapping Item :=
  match s.itemKind with
  | .error e => Mapping.fail e
  | .ok .request => m.request s percentage
  | .ok (.dependency inProcess) => m.dependency s percentage inProcess

/-! ### Collecting -/

/-- The items of a run of steps, built before any of them is handed on. -/
structure Collection where
  /-- What the suppressor was asked. -/
  asked : List Question
  items : Mapping (List Item)

namespace Collection

/-- The collection with a question in front. -/
def afterAsking (q : Question) (c : Collection) : Collection := { c with asked := q :: c.asked }

/-- The collection with an item in front that was built with warnings. -/
def afterItem (warnings : List LogEntry) (i : Item) (c : Collection) : Collection :=
  { c with items := ⟨warnings ++ c.items.warnings, c.items.result.map (i :: ·)⟩ }

/-- The items of steps, up to the first that cannot be built. -/
def ofSteps : List EventStep → Collection
  | [] => ⟨[], pure []⟩
  | .ask q :: rest => (ofSteps rest).afterAsking q
  | .emit m :: rest =>
      match m.result with
      | .error e => ⟨[], ⟨m.warnings, .error e⟩⟩
      | .ok i => (ofSteps rest).afterItem m.warnings i

end Collection

/-- The items of a span and its events, and its metric if that is wanted, built before any of them
    is handed on. -/
def Mapper.collect (m : Mapper) (s : Span) (percentage : Quantity) (withMetric : Bool) :
    Collection :=
  let mapped := m.map s percentage
  match mapped.result with
  | .error e => ⟨[], ⟨mapped.warnings, .error e⟩⟩
  | .ok i =>
      let events := Collection.ofSteps (m.eventSteps s (i.tag? .operationName) percentage)
      { asked := events.asked
        items := do
          Mapping.warn mapped.warnings
          let items ← events.items
          if withMetric then
            let metric ← Metric.ofSpan s i
            pure (i :: items ++ metric.toList)
          else pure (i :: items) }

/-! ### Delivering -/

/-- Why a delivery ended early. -/
inductive DeliveryError where
  | mapping (cause : MappingError)
  | sink (cause : SinkFailure)
  deriving DecidableEq, Repr

/-- What is known after items were handed to a sink. -/
structure Delivery where
  /-- What the suppressor was asked. -/
  asked : List Question
  warnings : List LogEntry
  /-- Why the delivery ended early, if it did. -/
  error : Option DeliveryError
  sink : Sink

namespace Delivery

/-- The delivery with a question in front. -/
def afterAsking (q : Question) (d : Delivery) : Delivery := { d with asked := q :: d.asked }

/-- The delivery with warnings in front. -/
def afterWarning (warnings : List LogEntry) (d : Delivery) : Delivery :=
  { d with warnings := warnings ++ d.warnings }

/-- Go through steps and hand each item to the sink as it is built, up to the first failure. -/
def ofSteps (k : Sink) : List EventStep → Delivery
  | [] => ⟨[], [], none, k⟩
  | .ask q :: rest => (ofSteps k rest).afterAsking q
  | .emit m :: rest =>
      match m.result with
      | .error e => ⟨[], m.warnings, some (.mapping e), k⟩
      | .ok i =>
          match k.hand i with
          | (some failure, k) => ⟨[], m.warnings, some (.sink failure), k⟩
          | (none, k) => (ofSteps k rest).afterWarning m.warnings

end Delivery

/-- Hand the items of the events of a span to a sink. -/
def Mapper.deliverEvents (m : Mapper) (s : Span) (operationName : Option String)
    (percentage : Quantity) (k : Sink) : Delivery :=
  Delivery.ofSteps k (m.eventSteps s operationName percentage)

/-- Hand the item of a span to a sink, and then those of its events. -/
def Mapper.deliver (m : Mapper) (s : Span) (percentage : Quantity) (k : Sink) : Delivery :=
  let mapped := m.map s percentage
  match mapped.result with
  | .error e => ⟨[], mapped.warnings, some (.mapping e), k⟩
  | .ok i =>
      match k.hand i with
      | (some failure, k) => ⟨[], mapped.warnings, some (.sink failure), k⟩
      | (none, k) =>
          (m.deliverEvents s (i.tag? .operationName) percentage k).afterWarning mapped.warnings

/-! ### Sampling -/

namespace Span

/-- The sampling percentage of a span. -/
def samplingPercentage (s : Span) : Quantity :=
  Sampling.percentage (some s.context.traceState) Sampling.everything

/-- The sampling percentage of a span, read through a cache. -/
def readSampling (s : Span) (cache : Sampling.Cache) : Sampling.Reading Quantity :=
  cache.percentage (some s.context.traceState) Sampling.everything

end Span

/-- The metric of a span whose item is not known: the span is mapped again if it has a metric. -/
def Mapper.metric (m : Mapper) (s : Span) (percentage : Quantity) : Mapping (Option Item) :=
  if Metric.isMeasured s.attributes then do
    let i ← m.map s percentage
    Metric.ofSpan s i
  else pure none

end SpanTelemetry
