import Mathlib.Data.List.Forall2
import SpanTelemetry.Proofs.Mapper.Builders
import SpanTelemetry.Proofs.Mapper.Delivery
import SpanTelemetry.Proofs.Traversal

namespace SpanTelemetry

/-!
# What becomes of the events of a span

The events of a span are looked at in their order, up to the first one that describes an exception and is
not suppressed.  The events before it that are not suppressed become messages; it becomes an exception if
it has a stack trace.

* `Mapper.plainEvents`, `Mapper.endingStackTrace?` — the events that become messages, and the stack trace
  that becomes an exception.
* `Mapper.examinedEvents` — the events that the suppressor is asked about.
* `Mapper.stepsFor_eq_flatMap`, `Mapper.filterMap_eventItem?` — the events that are looked at, one by one,
  and the items that belong to them.
* `Mapper.ofSteps_of_built`, `Mapper.ofSteps_of_reaches` — what is delivered where everything goes well, and
  up to the first failure.
* `Mapper.built_or_reaches` — there are no other cases.
* `Mapper.events_delivered` — the law of events.
-/

namespace Mapper

/-! ### The events that count -/

section Examined

variable (m : Mapper) (scope : Option String)

/-- The events that are not suppressed. -/
def keptEvents (events : List SpanEvent) : List SpanEvent :=
  events.filter fun e => !m.suppressor e scope

/-- The events that become messages: what is kept before the first exception. -/
def plainEvents (events : List SpanEvent) : List SpanEvent :=
  (m.keptEvents scope events).takeWhile fun e => !e.isException

/-- The stack trace of the first exception that is kept. -/
def endingStackTrace? (events : List SpanEvent) : Option String :=
  ((m.keptEvents scope events).find? SpanEvent.isException).bind SpanEvent.stackTrace?

/-- Whether no event is looked at behind an event: it describes an exception and is kept. -/
def endsAt (e : SpanEvent) : Bool := !m.suppressor e scope && e.isException

/-- The events that are looked at. -/
def examinedEvents (events : List SpanEvent) : List SpanEvent :=
  events.takeWhile (fun e => !m.endsAt scope e) ++ (events.find? (m.endsAt scope)).toList

@[simp] theorem examinedEvents_nil : m.examinedEvents scope [] = [] := rfl

theorem examinedEvents_cons (e : SpanEvent) (rest : List SpanEvent) :
    m.examinedEvents scope (e :: rest) =
      e :: if m.endsAt scope e then [] else m.examinedEvents scope rest := by
  cases h : m.endsAt scope e <;> simp [examinedEvents, h]

end Examined

/-! ### The items of events -/

section Items

variable (m : Mapper) (s : Span) (operationName : Option String) (percentage : Quantity)

/-- The item of an event that is looked at; one that is suppressed has none, and neither has an exception
    without a stack trace. -/
def eventItem? (e : SpanEvent) : Option (Mapping Item) :=
  if m.suppressor e s.scope then none
  else if e.isException then
    e.stackTrace?.map fun stackTrace => m.exception stackTrace s operationName percentage
  else some (m.message e s operationName percentage)

/-- What happens at an event that is looked at. -/
def stepsAt (e : SpanEvent) : List EventStep :=
  .ask ⟨e, s.scope⟩ :: ((m.eventItem? s operationName percentage e).map EventStep.emit).toList

/-- **The events are gone through one by one**, up to the one that ends it. -/
theorem stepsFor_eq_flatMap (events : List SpanEvent) :
    m.stepsFor s operationName percentage events =
      (m.examinedEvents s.scope events).flatMap (m.stepsAt s operationName percentage) := by
  induction events with
  | nil => rfl
  | cons e rest ih =>
    rw [stepsFor, examinedEvents_cons, List.flatMap_cons, stepsAt, eventItem?, endsAt]
    by_cases hsuppressed : m.suppressor e s.scope = true
    · simp [hsuppressed, ih]
    · by_cases hexception : e.isException = true
      · cases e.stackTrace? <;> simp [hsuppressed, hexception]
      · simp [hsuppressed, hexception, ih]

/-- The items of the events that are looked at are the messages, and behind them the exception. -/
theorem filterMap_eventItem? (events : List SpanEvent) :
    (m.examinedEvents s.scope events).filterMap (m.eventItem? s operationName percentage) =
      (m.plainEvents s.scope events).map (fun e => m.message e s operationName percentage) ++
        ((m.endingStackTrace? s.scope events).map fun stackTrace =>
          m.exception stackTrace s operationName percentage).toList := by
  induction events with
  | nil => rfl
  | cons e rest ih =>
    rw [examinedEvents_cons, endsAt]
    by_cases hsuppressed : m.suppressor e s.scope = true
    · -- a suppressed event is no part of either side
      have hitem : m.eventItem? s operationName percentage e = none := by
        simp [eventItem?, hsuppressed]
      have hkept : m.keptEvents s.scope (e :: rest) = m.keptEvents s.scope rest := by
        simp [keptEvents, hsuppressed]
      simpa [hsuppressed, hitem, plainEvents, endingStackTrace?, hkept] using ih
    · have hkept : m.keptEvents s.scope (e :: rest) = e :: m.keptEvents s.scope rest := by
        simp [keptEvents, hsuppressed]
      by_cases hexception : e.isException = true
      · cases hstack : e.stackTrace? <;>
          simp [hsuppressed, hexception, eventItem?, plainEvents, endingStackTrace?, hkept, hstack]
      · have hitem : m.eventItem? s operationName percentage e =
            some (m.message e s operationName percentage) := by
          simp [eventItem?, hsuppressed, hexception]
        simpa [hsuppressed, hexception, hitem, plainEvents, endingStackTrace?, hkept] using ih

end Items

/-! ### What is delivered -/

section Delivered

variable {m : Mapper} {s : Span} {operationName : Option String} {percentage : Quantity} {k : Sink}

/-- **Where everything goes well**, the sink takes the items of the events, and the suppressor is asked
    about every event once. -/
theorem ofSteps_of_built {events : List SpanEvent} {items : List Item}
    (hbuilt : (events.filterMap (m.eventItem? s operationName percentage)).mapM Mapping.value? =
      some items)
    (htaken : ∀ n < items.length, ¬ k.Fails n) :
    ∃ warnings, Delivery.ofSteps k (events.flatMap (m.stepsAt s operationName percentage)) =
      ⟨events.map (⟨·, s.scope⟩), warnings, none, k.afterTaking items⟩ := by
  -- by induction on the events, for every sink, because each item leaves another one
  induction events generalizing k items with
  | nil =>
    obtain rfl : [] = items := by simpa using hbuilt
    exact ⟨[], by simp [Delivery.ofSteps]⟩
  | cons e rest ih =>
    rw [List.flatMap_cons, stepsAt]
    cases hitem : m.eventItem? s operationName percentage e with
    | none =>
      rw [List.filterMap_cons_none hitem] at hbuilt
      obtain ⟨warnings, hrest⟩ := ih hbuilt htaken
      exact ⟨warnings, by simp [Delivery.ofSteps, hrest, Delivery.afterAsking]⟩
    | some built =>
      rw [List.filterMap_cons_some hitem] at hbuilt
      obtain ⟨i, more, hi, hmore, rfl⟩ := mapM_cons_eq_some_iff.1 hbuilt
      obtain ⟨hfirst, hothers⟩ := (k.takes_cons_iff i more).1 htaken
      obtain ⟨warnings, hrest⟩ := ih hmore hothers
      refine ⟨built.warnings ++ warnings, ?_⟩
      simp [Delivery.ofSteps, Mapping.value?_eq_some_iff.1 hi, k.hand_of_not_fails i hfirst, hrest,
        Delivery.afterAsking, Delivery.afterWarning, Sink.afterTaking_append]

/-- An item is reached: it belongs to an event that is looked at, and those of the events before it have
    been built and taken. -/
structure Reaches (m : Mapper) (s : Span) (operationName : Option String) (percentage : Quantity)
    (k : Sink) (events before : List SpanEvent) (e : SpanEvent) (items : List Item)
    (built : Mapping Item) : Prop where
  split : ∃ after, events = before ++ e :: after
  items_built :
    (before.filterMap (m.eventItem? s operationName percentage)).mapM Mapping.value? = some items
  items_taken : ∀ n < items.length, ¬ k.Fails n
  item_built : m.eventItem? s operationName percentage e = some built

/-- **Up to a failure**, the items before it have been taken, and about the events behind it nothing is
    asked. -/
theorem ofSteps_of_reaches {events before : List SpanEvent} {e : SpanEvent} {items : List Item}
    {built : Mapping Item}
    (h : m.Reaches s operationName percentage k events before e items built) :
    let delivery := Delivery.ofSteps k (events.flatMap (m.stepsAt s operationName percentage))
    let asked : List Question := (before ++ [e]).map (⟨·, s.scope⟩)
    (∀ cause, built.result = .error cause →
      delivery.error = some (.mapping cause) ∧ delivery.sink = k.afterTaking items ∧
        delivery.asked = asked) ∧
    ∀ i, built.result = .ok i → k.Fails items.length →
      delivery.error = some (.sink ⟨k.calls + items.length⟩) ∧
        delivery.sink.taken = k.taken ++ items ∧
        delivery.sink.offered = k.offered ++ items ++ [i] ∧ delivery.asked = asked := by
  intro delivery asked
  obtain ⟨after, rfl⟩ := h.split
  obtain ⟨warnings, hbefore⟩ := ofSteps_of_built h.items_built h.items_taken
  -- what is delivered of the events before the failing one leads on to that one
  have hdelivery : delivery = (Delivery.ofSteps k
      (before.flatMap (m.stepsAt s operationName percentage))).andThen
        (.ask ⟨e, s.scope⟩ :: .emit built ::
          after.flatMap (m.stepsAt s operationName percentage)) := by
    rw [← Delivery.ofSteps_append]
    simp [delivery, stepsAt, h.item_built]
  rw [hdelivery, hbefore]
  refine ⟨fun cause hcause => ?_, fun i hi hfails => ?_⟩
  · simp [Delivery.andThen, Delivery.ofSteps, hcause, Delivery.afterAsking, asked]
  · have hnext : (k.afterTaking items).Fails 0 := by rwa [Sink.fails_afterTaking]
    simp only [Delivery.andThen, Delivery.ofSteps, hi, (k.afterTaking items).hand_of_fails i hnext]
    simp [Delivery.afterAsking, asked, Sink.afterTaking, Sink.calls]

/-- **There are no other cases**: either everything goes well, or an item is reached that cannot be built
    or is not taken. -/
theorem built_or_reaches (m : Mapper) (s : Span) (operationName : Option String)
    (percentage : Quantity) (k : Sink) (events : List SpanEvent) :
    (∃ items, (events.filterMap (m.eventItem? s operationName percentage)).mapM Mapping.value? =
        some items ∧ ∀ n < items.length, ¬ k.Fails n) ∨
    ∃ before e items built, m.Reaches s operationName percentage k events before e items built ∧
      ((∃ cause, built.result = .error cause) ∨
        ∃ i, built.result = .ok i ∧ k.Fails items.length) := by
  induction events generalizing k with
  | nil => exact Or.inl ⟨[], rfl, by simp⟩
  | cons e rest ih =>
    cases hitem : m.eventItem? s operationName percentage e with
    | none =>
      rw [List.filterMap_cons_none hitem]
      rcases ih k with hbuilt | ⟨before, e', items, built, h, hfails⟩
      · exact Or.inl hbuilt
      · obtain ⟨after, hafter⟩ := h.split
        exact Or.inr ⟨e :: before, e', items, built, {
          h with
          split := ⟨after, by rw [hafter]; rfl⟩
          items_built := by rw [List.filterMap_cons_none hitem, h.items_built] }, hfails⟩
    | some built =>
      cases hresult : built.result with
      | error cause =>
        exact Or.inr ⟨[], e, [], built, ⟨⟨rest, rfl⟩, rfl, by simp, hitem⟩, Or.inl ⟨cause, hresult⟩⟩
      | ok i =>
        by_cases hfirst : k.Fails 0
        · exact Or.inr ⟨[], e, [], built, ⟨⟨rest, rfl⟩, rfl, by simp, hitem⟩,
            Or.inr ⟨i, hresult, hfirst⟩⟩
        have hcons : ∀ {events : List SpanEvent} {items : List Item},
            (events.filterMap (m.eventItem? s operationName percentage)).mapM Mapping.value? =
              some items →
            ((e :: events).filterMap (m.eventItem? s operationName percentage)).mapM
              Mapping.value? = some (i :: items) := by
          intro events items h
          rw [List.filterMap_cons_some hitem]
          exact mapM_cons_eq_some_iff.2 ⟨i, items, Mapping.value?_eq_some_iff.2 hresult, h, rfl⟩
        rcases ih (k.afterTaking [i]) with ⟨items, hitems, htaken⟩ |
          ⟨before, e', items, built', h, hfails⟩
        · exact Or.inl ⟨i :: items, hcons hitems, (k.takes_cons_iff i items).2 ⟨hfirst, htaken⟩⟩
        · obtain ⟨after, hafter⟩ := h.split
          refine Or.inr ⟨e :: before, e', i :: items, built', {
            split := ⟨after, by rw [hafter]; rfl⟩
            items_built := hcons h.items_built
            items_taken := (k.takes_cons_iff i items).2 ⟨hfirst, h.items_taken⟩
            item_built := h.item_built }, hfails.imp_right ?_⟩
          rintro ⟨i', hi', hfails⟩
          rw [Sink.fails_afterTaking, Nat.add_comm] at hfails
          exact ⟨i', hi', hfails⟩

end Delivered

/-! ### The law of events -/

section Law

variable {m : Mapper} {s : Span} {operationName : Option String} {percentage : Quantity}

/-- The items of the events are the messages, and behind them the exception, if all can be built. -/
theorem mapM_eventItem?_eq_some_iff {events : List SpanEvent} {items : List Item} :
    ((m.examinedEvents s.scope events).filterMap (m.eventItem? s operationName percentage)).mapM
        Mapping.value? = some items ↔
      ∃ messages ended,
        (m.plainEvents s.scope events).mapM
          (fun e => (m.message e s operationName percentage).value?) = some messages ∧
        (m.endingStackTrace? s.scope events).mapM
          (fun stackTrace => (m.exception stackTrace s operationName percentage).value?) =
            some ended ∧
        messages ++ ended.toList = items := by
  have hended : ∀ stackTrace? : Option String,
      (stackTrace?.map fun stackTrace =>
          m.exception stackTrace s operationName percentage).toList.mapM Mapping.value? =
        (stackTrace?.mapM fun stackTrace =>
          (m.exception stackTrace s operationName percentage).value?).map Option.toList := by
    intro stackTrace?
    cases stackTrace? with
    | none => rfl
    | some stackTrace =>
      simp only [Option.map_some, Option.toList_some, List.mapM_cons, Option.mapM_some]
      cases (m.exception stackTrace s operationName percentage).value? <;> rfl
  rw [filterMap_eventItem?, List.mapM_append, List.mapM_map, hended]
  simp only [Function.comp_def, Option.bind_eq_bind, Option.bind_eq_some_iff, Option.map_eq_some_iff]
  constructor
  · rintro ⟨messages, hmessages, _, ⟨ended, hended, rfl⟩, hitems⟩
    exact ⟨messages, ended, hmessages, hended, Option.some.inj hitems⟩
  · rintro ⟨messages, ended, hmessages, hended, rfl⟩
    exact ⟨messages, hmessages, _, ⟨ended, hended, rfl⟩, rfl⟩

/-- Messages that are built have the names of their events. -/
theorem forall₂_messages (hkeeps : m.KeepsPayloads) {events : List SpanEvent} {messages : List Item}
    (h : events.mapM (fun e => (m.message e s operationName percentage).value?) = some messages) :
    List.Forall₂ (fun e i => ∃ properties, i.data = .message { message := some e.name, properties })
      events messages := by
  induction events generalizing messages with
  | nil =>
    obtain rfl : [] = messages := by simpa using h
    exact .nil
  | cons e rest ih =>
    obtain ⟨i, more, hi, hmore, rfl⟩ := mapM_cons_eq_some_iff.1 h
    exact .cons (data_message hkeeps hi) (ih hmore)

/-- An exception item that is built from a stack trace, if there is one, is an exception. -/
theorem data_ended (hkeeps : m.KeepsPayloads) {stackTrace? : Option String} {ended : Option Item}
    (h : stackTrace?.mapM (fun t => (m.exception t s operationName percentage).value?) =
      some ended) :
    ∀ i ∈ ended, ∃ exception, i.data = .exception exception := by
  rintro i rfl
  cases stackTrace? with
  | none => simp at h
  | some stackTrace =>
    have hbuilt : (m.exception stackTrace s operationName percentage).value? = some i := by
      simpa [Option.mapM_some, Option.map_eq_some_iff] using h
    obtain ⟨details, properties, -, hdata⟩ := data_exception hkeeps hbuilt
    exact ⟨_, hdata⟩

/-- **The law of events.**  If the items can be built and are taken, the sink is handed a message for each
    event before the first exception that is kept, with the name of the event, and behind them an exception
    if that one has a stack trace; the suppressor is asked about every event up to that one.  Otherwise an
    item is reached that cannot be built or is not taken: the sink has taken the items of the events before
    it, the failure is passed on, and the suppressor is asked about no event behind it. -/
theorem events_delivered (m : Mapper) (s : Span) (operationName : Option String)
    (percentage : Quantity) (k : Sink) :
    let plain := m.plainEvents s.scope s.events
    let stackTrace? := m.endingStackTrace? s.scope s.events
    let examined := m.examinedEvents s.scope s.events
    let question := fun e => (⟨e, s.scope⟩ : Question)
    let delivery := m.deliverEvents s operationName percentage k
    let IsBuilt := fun (messages : List Item) (ended : Option Item) =>
      plain.mapM (fun e => (m.message e s operationName percentage).value?) = some messages ∧
        stackTrace?.mapM (fun t => (m.exception t s operationName percentage).value?) = some ended
    let Reaches := m.Reaches s operationName percentage k examined
    (∀ messages ended, IsBuilt messages ended →
      (∀ n < (messages ++ ended.toList).length, ¬ k.Fails n) →
      delivery.error = none ∧ delivery.sink = k.afterTaking (messages ++ ended.toList) ∧
        delivery.asked = examined.map question ∧
        (m.KeepsPayloads →
          List.Forall₂
            (fun e i => ∃ properties, i.data = .message { message := some e.name, properties })
            plain messages ∧
          ∀ i ∈ ended, ∃ exception, i.data = .exception exception)) ∧
    (∀ before e items built, Reaches before e items built →
      (∀ cause, built.result = .error cause →
        delivery.error = some (.mapping cause) ∧ delivery.sink = k.afterTaking items ∧
          delivery.asked = (before ++ [e]).map question) ∧
      ∀ i, built.result = .ok i → k.Fails items.length →
        delivery.error = some (.sink ⟨k.calls + items.length⟩) ∧
          delivery.sink.taken = k.taken ++ items ∧
          delivery.sink.offered = k.offered ++ items ++ [i] ∧
          delivery.asked = (before ++ [e]).map question) ∧
    ((∃ messages ended, IsBuilt messages ended ∧
        ∀ n < (messages ++ ended.toList).length, ¬ k.Fails n) ∨
      ∃ before e items built, Reaches before e items built ∧
        ((∃ cause, built.result = .error cause) ∨
          ∃ i, built.result = .ok i ∧ k.Fails items.length)) := by
  intro plain stackTrace? examined question delivery IsBuilt Reaches
  have hdelivery : delivery =
      Delivery.ofSteps k (examined.flatMap (m.stepsAt s operationName percentage)) := by
    rw [← stepsFor_eq_flatMap]
    rfl
  refine ⟨fun messages ended ⟨hmessages, hended⟩ htaken => ?_, fun before e items built h => ?_, ?_⟩
  · obtain ⟨warnings, hbuilt⟩ := ofSteps_of_built
      (mapM_eventItem?_eq_some_iff.2 ⟨messages, ended, hmessages, hended, rfl⟩) htaken
    rw [hdelivery, hbuilt]
    exact ⟨rfl, rfl, rfl, fun hkeeps =>
      ⟨forall₂_messages hkeeps hmessages, data_ended hkeeps hended⟩⟩
  · rw [hdelivery]
    exact ofSteps_of_reaches h
  · rcases m.built_or_reaches s operationName percentage k examined with
      ⟨items, hitems, htaken⟩ | hreaches
    · obtain ⟨messages, ended, hmessages, hended, rfl⟩ := mapM_eventItem?_eq_some_iff.1 hitems
      exact Or.inl ⟨messages, ended, ⟨hmessages, hended⟩, htaken⟩
    · exact Or.inr hreaches

end Law

end Mapper

/-- A mapper that leaves out events of one name. -/
def exampleMuting : Mapper where
  suppressor e _ := e.name == "muted"

/-- An exception event. -/
def exampleException (name : String) : SpanEvent where
  name
  timestamp := 0
  attributes := Table.ofList [
    (AttributeKey.exceptionMessage, .string "boom"),
    (AttributeKey.exceptionStacktrace, .string "Error: boom")]

/-- A call with an exception that is left out, an event, an exception, and another event. -/
def exampleFailedCall : Span where
  name := "GET"
  kind := .client
  context := ⟨1, 2, ∅⟩
  events := [exampleException "muted", ⟨"sent", 0, ∅⟩, exampleException "exception", ⟨"late", 0, ∅⟩]

/-- A sink that fails at its second call. -/
def exampleSink : Sink where
  failsAt n := n == 1

/-- Of this call a message and an exception are handed on, and about the last event nothing is asked; nor is
    it if the sink fails at the exception. -/
theorem events_delivered_call :
    let delivery := exampleMuting.deliverEvents exampleFailedCall none none
    (∃ messages ended,
      (exampleMuting.plainEvents none exampleFailedCall.events).mapM
        (fun e => (exampleMuting.message e exampleFailedCall none none).value?) = some messages ∧
      (exampleMuting.endingStackTrace? none exampleFailedCall.events).mapM
        (fun t => (exampleMuting.exception t exampleFailedCall none none).value?) = some ended ∧
      (∀ n < (messages ++ ended.toList).length, ¬ Sink.reliable.Fails n) ∧
      messages.length = 1 ∧ ended.isSome ∧
      (delivery .reliable).sink = Sink.reliable.afterTaking (messages ++ ended.toList) ∧
      (delivery .reliable).asked.length = 3) ∧
    ∃ items i,
      exampleMuting.Reaches exampleFailedCall none none exampleSink
        (exampleMuting.examinedEvents none exampleFailedCall.events)
        [exampleException "muted", ⟨"sent", 0, ∅⟩] (exampleException "exception") items
        (exampleMuting.exception "Error: boom" exampleFailedCall none none) ∧
      (exampleMuting.exception "Error: boom" exampleFailedCall none none).result = .ok i ∧
      exampleSink.Fails items.length ∧
      (delivery exampleSink).error = some (.sink ⟨exampleSink.calls + items.length⟩) ∧
      (delivery exampleSink).sink.taken = items ∧ (delivery exampleSink).asked.length = 3 := by
  intro delivery
  have hexamined : exampleMuting.examinedEvents none exampleFailedCall.events =
      [exampleException "muted", ⟨"sent", 0, ∅⟩, exampleException "exception"] := by rfl
  obtain ⟨hdelivered, -⟩ := exampleMuting.events_delivered exampleFailedCall none none .reliable
  obtain ⟨-, hfailed, -⟩ := exampleMuting.events_delivered exampleFailedCall none none exampleSink
  constructor
  · have hmessages : ((exampleMuting.plainEvents none exampleFailedCall.events).mapM fun e =>
        (exampleMuting.message e exampleFailedCall none none).value?).map List.length = some 1 := by
      decide +kernel
    have hended : ((exampleMuting.endingStackTrace? none exampleFailedCall.events).mapM fun t =>
        (exampleMuting.exception t exampleFailedCall none none).value?).map Option.isSome =
          some true := by
      decide +kernel
    obtain ⟨messages, hmessages, hlength⟩ := Option.map_eq_some_iff.1 hmessages
    obtain ⟨ended, hended, hsome⟩ := Option.map_eq_some_iff.1 hended
    have htaken : ∀ n < (messages ++ ended.toList).length, ¬ Sink.reliable.Fails n :=
      fun n _ => Sink.not_fails_reliable n
    obtain ⟨-, hsink, hasked, -⟩ := hdelivered messages ended ⟨hmessages, hended⟩ htaken
    refine ⟨messages, ended, hmessages, hended, htaken, hlength, hsome, hsink, ?_⟩
    rw [hasked, List.length_map]
    exact congrArg List.length hexamined
  · have hitems : (([exampleException "muted", ⟨"sent", 0, ∅⟩].filterMap
        (exampleMuting.eventItem? exampleFailedCall none none)).mapM Mapping.value?).map
          List.length = some 1 := by
      decide +kernel
    have hbuilt : (exampleMuting.exception "Error: boom" exampleFailedCall none none).value?.isSome =
        true := by
      decide +kernel
    obtain ⟨items, hitems, hlength⟩ := Option.map_eq_some_iff.1 hitems
    obtain ⟨i, hi⟩ := Option.isSome_iff_exists.1 hbuilt
    have hreaches : exampleMuting.Reaches exampleFailedCall none none exampleSink
        (exampleMuting.examinedEvents none exampleFailedCall.events)
        [exampleException "muted", ⟨"sent", 0, ∅⟩] (exampleException "exception") items
        (exampleMuting.exception "Error: boom" exampleFailedCall none none) := {
      split := ⟨[], hexamined⟩
      items_built := hitems
      items_taken := by
        rw [hlength]
        decide
      item_built := by rfl }
    have hfails : exampleSink.Fails items.length := by
      rw [hlength]
      decide
    have hresult := Mapping.value?_eq_some_iff.1 hi
    obtain ⟨herror, htaken, -, hasked⟩ := (hfailed _ _ items _ hreaches).2 i hresult hfails
    exact ⟨items, i, hreaches, hresult, hfails, herror, htaken, congrArg List.length hasked⟩

end SpanTelemetry
