import Mathlib.Data.List.Forall2
import SpanTelemetry.Mapper.Delivery
import SpanTelemetry.Proofs.Attributes.Mistyped

namespace SpanTelemetry

/-!
# Spans that are mapped alike

A span is mapped by what is read of its attributes, and so are its events.

* `Mapper.map_of_alike` — attributes that are read alike give the same item, the same error and the
  same warnings.
* `Delivery.Alike` — two deliveries that differ only in the attributes of the events in question.
* `Mapper.deliverEvents_alike` — events without attributes of wrong types are delivered alike.
* `Mapper.mistyped_is_missing` — hence an attribute of a wrong type counts as missing.
-/

/-- A span with other attributes and other events. -/
def Span.withContents (s : Span) (attributes : Attributes) (events : List SpanEvent) : Span :=
  { s with attributes, events }

/-! ### Spans -/

namespace Attributes.Alike

variable {s : Span} {a : Attributes} (h : a.Alike s.attributes) (events : List SpanEvent)
include h

/-- The operation is named by the same bridge. -/
theorem bridgedOperationName?_eq : bridgedOperationName? a = bridgedOperationName? s.attributes :=
  h.string _ (by decide)

/-- A request begins the same operation. -/
theorem operationName_eq : (s.withContents a events).operationName = s.operationName := by
  simp (disch := decide) only [Span.operationName, Span.withContents, h.bridgedOperationName?_eq,
    h.string]
  rfl

/-- A request has the same sender. -/
theorem sender?_eq (appId : Option String) :
    (s.withContents a events).sender? appId = s.sender? appId := by
  simp (disch := decide) only [Span.sender?, Span.withContents, h.string]

/-- So it has the same source. -/
theorem source?_eq (appId : Option String) :
    (s.withContents a events).source? appId = s.source? appId := by
  simp only [Span.source?, h.sender?_eq]
  simp only [Span.withContents, (h.readAlike _).messagingEndpoint?_eq]

/-- The parent of a request is named in the same way. -/
theorem requestParentId?_eq : (s.withContents a events).requestParentId? = s.requestParentId? := by
  simp (disch := decide) only [Span.requestParentId?, Span.validParent?, Span.withContents, h.string]

/-- The span ended as well or as badly. -/
theorem isSuccessful_eq (statusCodesFail : Bool) :
    (s.withContents a events).isSuccessful statusCodesFail = s.isSuccessful statusCodesFail := by
  simp (disch := decide) only [Span.isSuccessful, Span.withContents, h.int]

/-- The span becomes an item of the same kind. -/
theorem itemKind_eq : (s.withContents a events).itemKind = s.itemKind := by
  simp (disch := decide) only [Span.itemKind, Span.isReceive, Span.isScheduledJob, Span.validParent?,
    Span.withContents, h.string]
  rfl

/-- The fields of a request are the same. -/
theorem describeRequest_eq (d : RequestData) (statusCodesFail : Bool) (appId : Option String) :
    d.describe (s.withContents a events) statusCodesFail appId =
      d.describe s statusCodesFail appId := by
  simp only [RequestData.describe, h.operationName_eq, h.isSuccessful_eq, h.source?_eq]
  simp only [Span.withContents, h.serverUrl?_eq, h.responseCode_eq, Span.durationNanos, Span.start,
    Span.finish]

/-- The fields of a dependency are the same. -/
theorem ofSpan_eq (d : DependencyData) (inProcess statusCodesFail : Bool) (appId : Option String) :
    d.ofSpan (s.withContents a events) inProcess statusCodesFail appId =
      d.ofSpan s inProcess statusCodesFail appId := by
  simp only [DependencyData.ofSpan, h.isSuccessful_eq]
  simp only [Span.withContents, h.dependencyName_eq, h.describe_eq, Span.durationNanos, Span.start,
    Span.finish]

/-- The tags of a request are the same. -/
theorem addRequestTags_eq (i : Item) :
    i.addRequestTags (s.withContents a events) = i.addRequestTags s := by
  simp only [Item.addRequestTags, h.operationName_eq, h.requestParentId?_eq]
  simp (disch := decide) only [Span.withContents, h.clientIp?_eq, h.string]

/-- The operation of a dependency is the same. -/
theorem setOperation_eq (i : Item) : i.setOperation (s.withContents a events) = i.setOperation s := by
  simp only [Item.setOperation, Item.setBridgedOperationName, Span.withContents, Span.validParent?,
    h.bridgedOperationName?_eq]

/-- So is the operation of the items of its events. -/
theorem setEventOperation_eq (i : Item) (operationName : Option String) :
    i.setEventOperation (s.withContents a events) operationName =
      i.setEventOperation s operationName := by
  simp only [Item.setEventOperation, Item.setBridgedOperationName, Span.withContents,
    h.bridgedOperationName?_eq]

/-- A payload that is a request is described alike. -/
theorem describe_request_eq (m : Mapper) :
    ItemData.describeRequest m (s.withContents a events) = ItemData.describeRequest m s := by
  funext data
  cases data <;> simp only [ItemData.describeRequest, h.describeRequest_eq]

/-- So is a payload that is a dependency. -/
theorem describe_dependency_eq (m : Mapper) (inProcess : Bool) :
    ItemData.describeDependency m (s.withContents a events) inProcess =
      ItemData.describeDependency m s inProcess := by
  funext data
  cases data <;> simp only [ItemData.describeDependency, h.ofSpan_eq]

/-- A request is filled alike. -/
theorem fillRequest_eq (i : Item) (percentage : Quantity) (time : String) :
    i.fillRequest (s.withContents a events) percentage time = i.fillRequest s percentage time := by
  simp only [Item.fillRequest, h.addRequestTags_eq]
  simp only [Span.withContents, h.item]

/-- So is a dependency. -/
theorem fillDependency_eq (i : Item) (percentage : Quantity) (time : String) :
    i.fillDependency (s.withContents a events) percentage time =
      i.fillDependency s percentage time := by
  simp only [Item.fillDependency, h.setOperation_eq]
  simp only [Span.withContents, h.item]

end Attributes.Alike

/-- **A span is mapped by what is read of its attributes**: attributes that are read alike give the
    same item, the same error and the same warnings. -/
theorem Mapper.map_of_alike (m : Mapper) {s : Span} {a : Attributes} (h : a.Alike s.attributes)
    (events : List SpanEvent) (percentage : Quantity) :
    m.map (s.withContents a events) percentage = m.map s percentage := by
  have hrequest : m.request (s.withContents a events) percentage = m.request s percentage := by
    simp only [request, h.fillRequest_eq, h.describe_request_eq]
    simp only [Span.withContents, Span.start, h.review, h.enqueuedMillis?_eq]
  have hdependency : ∀ inProcess, m.dependency (s.withContents a events) percentage inProcess =
      m.dependency s percentage inProcess := by
    intro inProcess
    simp only [dependency, h.fillDependency_eq, h.describe_dependency_eq]
    simp only [Span.withContents, Span.start, h.review]
  simp only [Mapper.map, h.itemKind_eq, hrequest, hdependency]

/-! ### Events -/

/-- An event becomes another one when some attributes of a wrong type are deleted. -/
def SpanEvent.IsThinned (e e' : SpanEvent) : Prop :=
  ∃ drop, e' = { e with attributes := e.attributes.withoutMistyped drop }

/-- A step becomes another one that asks about a thinned event or hands on the same item. -/
inductive EventStep.IsThinned : EventStep → EventStep → Prop where
  | ask {e e' : SpanEvent} (h : e.IsThinned e') (scope : Option String) :
      IsThinned (.ask ⟨e, scope⟩) (.ask ⟨e', scope⟩)
  | emit (m : Mapping Item) : IsThinned (.emit m) (.emit m)

/-- Two deliveries that differ only in the attributes of the events in question: the suppressor was
    asked about thinned events, and all else is the same. -/
structure Delivery.Alike (d d' : Delivery) : Prop where
  asked : List.Forall₂ (fun q q' => q.event.IsThinned q'.event ∧ q'.scope = q.scope) d.asked d'.asked
  warnings : d'.warnings = d.warnings
  error : d'.error = d.error
  sink : d'.sink = d.sink

namespace SpanEvent.IsThinned

variable {e e' : SpanEvent} (he : e.IsThinned e')
include he

/-- The attributes of a thinned event are read alike. -/
theorem alike : e'.attributes.Alike e.attributes := by
  obtain ⟨drop, rfl⟩ := he
  exact e.attributes.withoutMistyped_alike drop

/-- It is an exception iff the event was one. -/
theorem isException_eq : e'.isException = e.isException := by
  simp (disch := decide) only [SpanEvent.isException, he.alike.string]

/-- It has the same stack trace. -/
theorem stackTrace?_eq : e'.stackTrace? = e.stackTrace? :=
  he.alike.string _ (by decide)

/-- The message of a thinned event is the same, with the same warnings. -/
theorem message_eq {s : Span} {a : Attributes} (h : a.Alike s.attributes) (events : List SpanEvent)
    (m : Mapper) (operationName : Option String) (percentage : Quantity) :
    m.message e' (s.withContents a events) operationName percentage =
      m.message e s operationName percentage := by
  simp only [Mapper.message, Item.fillMessage, h.setEventOperation_eq, he.alike.item,
    he.alike.review]
  obtain ⟨drop, rfl⟩ := he
  rfl

end SpanEvent.IsThinned

/-- The exception item of a stack trace is the same. -/
theorem Attributes.Alike.exception_eq {s : Span} {a : Attributes} (h : a.Alike s.attributes)
    (events : List SpanEvent) (m : Mapper) (stackTrace : String) (operationName : Option String)
    (percentage : Quantity) :
    m.exception stackTrace (s.withContents a events) operationName percentage =
      m.exception stackTrace s operationName percentage := by
  simp only [Mapper.exception, Item.fillException, h.setEventOperation_eq]
  rfl

/-- Thinned events give thinned steps. -/
theorem Mapper.stepsFor_thinned (m : Mapper) {s : Span} {a : Attributes} (h : a.Alike s.attributes)
    (events : List SpanEvent) (operationName : Option String) (percentage : Quantity)
    {es es' : List SpanEvent}
    (hes : List.Forall₂
      (fun e e' => e.IsThinned e' ∧ m.suppressor e' s.scope = m.suppressor e s.scope) es es') :
    List.Forall₂ EventStep.IsThinned (m.stepsFor s operationName percentage es)
      (m.stepsFor (s.withContents a events) operationName percentage es') := by
  -- by induction on the events: the same answer about each leads into the same branch
  induction hes with
  | nil => exact .nil
  | @cons e e' rest rest' hboth _ hrest =>
    obtain ⟨he, hanswer⟩ := hboth
    have hask : m.suppressor e' (s.withContents a events).scope = m.suppressor e s.scope := hanswer
    simp only [stepsFor]
    refine .cons (.ask he s.scope) ?_
    rw [hask, he.isException_eq, he.stackTrace?_eq]
    cases m.suppressor e s.scope with
    | true => exact hrest
    | false =>
      cases e.isException with
      | false =>
        rw [he.message_eq h]
        exact .cons (.emit _) hrest
      | true =>
        cases e.stackTrace? with
        | none => exact .nil
        | some stackTrace =>
          simp only [h.exception_eq]
          exact .cons (.emit _) .nil

/-- Thinned steps are gone through alike. -/
theorem Delivery.ofSteps_alike (k : Sink) {steps steps' : List EventStep}
    (h : List.Forall₂ EventStep.IsThinned steps steps') :
    (ofSteps k steps).Alike (ofSteps k steps') := by
  -- by induction on the steps; the items are the same, so the sinks stay the same
  induction h generalizing k with
  | nil => exact ⟨.nil, rfl, rfl, rfl⟩
  | cons hstep _ ih =>
    cases hstep with
    | ask he scope =>
      have hrest := ih k
      exact ⟨.cons ⟨he, rfl⟩ hrest.asked, hrest.warnings, hrest.error, hrest.sink⟩
    | emit m =>
      simp only [ofSteps]
      cases m.result with
      | error e => exact ⟨.nil, rfl, rfl, rfl⟩
      | ok i =>
        simp only
        cases k.hand i with
        | mk failure next =>
          cases failure with
          | some failure => exact ⟨.nil, rfl, rfl, rfl⟩
          | none =>
            have hrest := ih next
            exact ⟨hrest.asked, congrArg (m.warnings ++ ·) hrest.warnings, hrest.error, hrest.sink⟩

/-- **An attribute of a wrong type counts as missing.**  When some of them are deleted from a span, it
    is mapped to the same item or the same error, with the same warnings.  When some are deleted from
    its events as well, the same items are handed to the sink and the same is reported, as long as the
    suppressor does not tell the events apart. -/
theorem Mapper.mistyped_is_missing (m : Mapper) (s : Span) (drop : String → Bool) :
    (∀ percentage,
      m.map { s with attributes := s.attributes.withoutMistyped drop } percentage =
        m.map s percentage) ∧
    ∀ events, List.Forall₂
        (fun e e' => e.IsThinned e' ∧ m.suppressor e' s.scope = m.suppressor e s.scope)
        s.events events →
      ∀ operationName percentage k,
        (m.deliverEvents s operationName percentage k).Alike
          (m.deliverEvents { s with attributes := s.attributes.withoutMistyped drop, events }
            operationName percentage k) := by
  have h := s.attributes.withoutMistyped_alike drop
  refine ⟨fun percentage => m.map_of_alike h s.events percentage, ?_⟩
  intro events hevents operationName percentage k
  exact Delivery.ofSteps_alike k (m.stepsFor_thinned h events operationName percentage hevents)

/-- A call whose method is no text, with an event whose exception type is no text. -/
def exampleMistyped : Span where
  name := "call"
  kind := .client
  context := ⟨1, 2, ∅⟩
  attributes := Table.ofList [("db.system", .string "h2"), ("http.method", .null)]
  events := [⟨"sent", 0, Table.ofList [("exception.type", .int 3)]⟩]

/-- The event without that attribute is the same message. -/
theorem mistyped_is_missing_call :
    List.Forall₂
        (fun e e' => e.IsThinned e' ∧
          ({} : Mapper).suppressor e' exampleMistyped.scope =
            ({} : Mapper).suppressor e exampleMistyped.scope)
        exampleMistyped.events [⟨"sent", 0, ∅⟩] ∧
      (exampleMistyped.attributes.withoutMistyped fun _ => true).entries.length = 1 ∧
      (({} : Mapper).deliverEvents exampleMistyped none none .reliable).Alike
        (({} : Mapper).deliverEvents { exampleMistyped with
          attributes := exampleMistyped.attributes.withoutMistyped fun _ => true
          events := [⟨"sent", 0, ∅⟩] } none none .reliable) ∧
      (({} : Mapper).deliverEvents exampleMistyped none none .reliable).sink.offered.length = 1 := by
  have hevents : List.Forall₂
      (fun e e' => e.IsThinned e' ∧
        ({} : Mapper).suppressor e' exampleMistyped.scope =
          ({} : Mapper).suppressor e exampleMistyped.scope)
      exampleMistyped.events [⟨"sent", 0, ∅⟩] := .cons ⟨⟨fun _ => true, by rfl⟩, rfl⟩ .nil
  refine ⟨hevents, by decide +kernel, ?_, by decide +kernel⟩
  exact (Mapper.mistyped_is_missing {} exampleMistyped fun _ => true).2 _ hevents none none .reliable

end SpanTelemetry
