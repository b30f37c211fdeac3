import SpanTelemetry.Item.Attributes
import SpanTelemetry.Item.Operation
import SpanTelemetry.Mapper.Basic
import SpanTelemetry.StackTrace

namespace SpanTelemetry

/-!
# Items of events

The events of a span become messages, and an exception that ended it becomes an exception item.

* `Item.fillMessage`, `Item.fillException` — the items with all that follows from their events.
* `Mapper.message`, `Mapper.exception` — the items.
* `EventStep` — what happens, in order, while the events of a span are gone through.
* `Mapper.eventSteps` — the steps for the events of a span.
-/

/-- The tags of an item of an event: the span that recorded it is its parent, and it belongs to the
    given operation, or to the one that a bridge has named. -/
def Item.setEventOperation (i : Item) (s : Span) (operationName : Option String) : Item :=
  let i := (i.setOperationId s.context.traceId).setParentId s.context.spanId
  match operationName with
  | some name => i.setOperationName name
  | none => i.setBridgedOperationName s.attributes

/-- A message with all that follows from its event. -/
def Item.fillMessage (i : Item) (e : SpanEvent) (s : Span) (operationName : Option String)
    (percentage : Quantity) (time : String) : Item :=
  let i := (i.setEventOperation s operationName).setTime time
  (i.addAttributes e.attributes).setSampleRate percentage

/-- The message of an event. -/
def Mapper.message (m : Mapper) (e : SpanEvent) (s : Span) (operationName : Option String)
    (percentage : Quantity) : Mapping Item := do
  let new ← m.newItem (.message { message := some e.name })
  let time ← Mapping.timestamp e.timestamp
  reviewAttributes e.attributes
  pure (new.item.fillMessage e s operationName percentage time)

/-- An exception item with all that follows from its span and its stack trace. -/
def Item.fillException (i : Item) (details : ExceptionDetails) (s : Span)
    (operationName : Option String) (percentage : Quantity) (time : String) : Item :=
  let i := ((i.setEventOperation s operationName).setTime time).setSampleRate percentage
  i.mapException fun d => { d with exceptions := [details] }

/-- The exception item of a stack trace, at the end of its span. -/
def Mapper.exception (m : Mapper) (stackTrace : String) (s : Span)
    (operationName : Option String) (percentage : Quantity) : Mapping Item := do
  let new ← m.newItem (.exception {})
  let time ← Mapping.timestamp s.finish
  let details ← Mapping.ofExcept (StackTrace.read stackTrace)
  pure (new.item.fillException details s operationName percentage time)

/-! ### Going through the events -/

/-- Whether an event describes an exception. -/
def SpanEvent.isException (e : SpanEvent) : Bool :=
  (e.attributes.string? AttributeKey.exceptionType).isSome ||
    (e.attributes.string? AttributeKey.exceptionMessage).isSome

/-- The stack trace of an event. -/
def SpanEvent.stackTrace? (e : SpanEvent) : Option String :=
  e.attributes.string? AttributeKey.exceptionStacktrace

/-- What the suppressor is asked: whether to leave out an event of a span with the given scope. -/
structure Question where
  event : SpanEvent
  scope : Option String

/-- One step of going through the events of a span. -/
inductive EventStep where
  /-- The suppressor is asked about an event. -/
  | ask (question : Question)
  /-- An item is built and handed on. -/
  | emit (item : Mapping Item)

/-- The steps for the given events of a span. The first event that describes an exception and is
    not suppressed is the last one; it has an item only if it has a stack trace. -/
def Mapper.stepsFor (m : Mapper) (s : Span) (operationName : Option String)
    (percentage : Quantity) : List SpanEvent → List EventStep
  | [] => []
  | e :: rest =>
      .ask ⟨e, s.scope⟩ ::
        if m.suppressor e s.scope then m.stepsFor s operationName percentage rest
        else if e.isException then
          match e.stackTrace? with
          | some stackTrace => [.emit (m.exception stackTrace s operationName percentage)]
          | none => []
        else
          .emit (m.message e s operationName percentage) ::
            m.stepsFor s operationName percentage rest

/-- The steps for the events of a span. -/
def Mapper.eventSteps (m : Mapper) (s : Span) (operationName : Option String)
    (percentage : Quantity) : List EventStep :=
  m.stepsFor s operationName percentage s.events

end SpanTelemetry
