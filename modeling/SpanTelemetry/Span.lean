import SpanTelemetry.Value.Basic

namespace SpanTelemetry

open Text

/-!
# Spans

* `Span` — a finished operation of a trace.
* `SpanContext` — the identity of a span; ids are integers of any size.
* `TraceState` — what the tracing systems have noted that a trace has passed through.
* `SpanEvent` — something that happened during a span.
* `traceIdText`, `spanIdText` — ids as they are sent.
-/

/-- The role of a span in a trace. -/
inductive SpanKind where
  | internal
  | server
  | client
  | producer
  | consumer
  /-- A kind that is none of these, as it is written. -/
  | unsupported (name : Written String)
  deriving DecidableEq, Repr

/-- How a span ended. -/
inductive SpanStatus where
  | unset
  | ok
  | error
  deriving DecidableEq, Repr

/-- The values of a trace state by their keys. -/
abbrev TraceState := Table String

/-- The identity of a span. -/
structure SpanContext where
  traceId : Int
  spanId : Int
  traceState : TraceState := ∅
  deriving DecidableEq, Repr

/-- Something that happened during a span, at a time in nanoseconds since the start of 1970. -/
structure SpanEvent where
  name : String
  timestamp : Int
  attributes : Attributes := ∅

/-- A finished operation of a trace. Times are in nanoseconds since the start of 1970. -/
structure Span where
  name : String
  kind : SpanKind
  context : SpanContext
  parent : Option SpanContext := none
  attributes : Attributes := ∅
  events : List SpanEvent := []
  links : List SpanContext := []
  status : SpanStatus := .unset
  /-- The name of the instrumentation that made the span. -/
  scope : Option String := none
  startTime : Option Int := none
  endTime : Option Int := none

namespace SpanContext

/-- The first number that does not fit into the 128 bits of a trace id. -/
abbrev traceIdLimit : Int := 0x100000000000000000000000000000000

/-- The first number that does not fit into the 64 bits of a span id. -/
abbrev spanIdLimit : Int := 0x10000000000000000

/-- Whether both ids are positive and fit into their bits. -/
def IsValid (c : SpanContext) : Prop :=
  (0 < c.traceId ∧ c.traceId < traceIdLimit) ∧ 0 < c.spanId ∧ c.spanId < spanIdLimit

instance (c : SpanContext) : Decidable c.IsValid := by
  unfold IsValid
  infer_instance

end SpanContext

/-- A trace id as text: 32 hexadecimal digits, more if the id is longer. -/
def traceIdText (id : Int) : String := String.ofList (signedHex 32 id)

/-- A span id as text: 16 hexadecimal digits, more if the id is longer. -/
def spanIdText (id : Int) : String := String.ofList (signedHex 16 id)

namespace Span

/-- The start of a span; a missing one counts as the start of 1970. -/
def start (s : Span) : Int := s.startTime.getD 0

/-- The end of a span; a missing one counts as the start of 1970. -/
def finish (s : Span) : Int := s.endTime.getD 0

/-- The nanoseconds from the start of a span to its end, negative if it ends before it starts. -/
def durationNanos (s : Span) : Int := s.finish - s.start

/-- The parent of a span if its context is valid. -/
def validParent? (s : Span) : Option SpanContext := s.parent.filter fun p => decide p.IsValid

theorem validParent?_eq_some_iff {s : Span} {p : SpanContext} :
    s.validParent? = some p ↔ s.parent = some p ∧ p.IsValid := by
  simp [validParent?]

end Span

end SpanTelemetry
