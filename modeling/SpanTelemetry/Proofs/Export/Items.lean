import SpanTelemetry.Exporter
import SpanTelemetry.Proofs.Sampling

namespace SpanTelemetry

/-!
# The items of a span

* `Mapper.eventItems?` — the items of the events of a span, if all of them can be built.
* `Mapper.emit_mem_eventSteps` — each of them is a message or an exception.
* `Exporter.items?` — the items of a span: its own, those of its events, and its metric; none at
  all if one of them cannot be built.
* `Exporter.value?_collect` — what an exporter collects for a span is exactly that.
-/

/-- The item that a step builds, if it builds one. -/
def EventStep.built? : EventStep → Option (Mapping Item)
  | .ask _ => none
  | .emit m => some m

/-- The items of steps, if all of them can be built. -/
def EventStep.items? (steps : List EventStep) : Option (List Item) :=
  (steps.filterMap EventStep.built?).mapM Mapping.value?

/-- The items of the events of a span, if all of them can be built. -/
def Mapper.eventItems? (m : Mapper) (s : Span) (operationName : Option String)
    (percentage : Quantity) : Option (List Item) :=
  EventStep.items? (m.eventSteps s operationName percentage)

/-- The metric of a span whose item is known, if metrics are wanted and the span has one. -/
def Exporter.metricItem? (x : Exporter) (s : Span) (i : Item) : Option (Option Item) :=
  if x.withMetrics then (Metric.ofSpan s i).value? else some none

/-- The items of a span: its own, those of its events, and its metric; none at all if one of them
    cannot be built. -/
def Exporter.items? (x : Exporter) (s : Span) : Option (List Item) := do
  let i ← (x.mapper.map s s.samplingPercentage).value?
  let events ← x.mapper.eventItems? s (i.tag? .operationName) s.samplingPercentage
  let metric ← x.metricItem? s i
  some (i :: events ++ metric.toList)

/-- The parts that the items of a span are made of. -/
theorem Exporter.items?_eq_some {x : Exporter} {s : Span} {items : List Item}
    (h : x.items? s = some items) :
    ∃ i events metric, (x.mapper.map s s.samplingPercentage).value? = some i ∧
      x.mapper.eventItems? s (i.tag? .operationName) s.samplingPercentage = some events ∧
      x.metricItem? s i = some metric ∧ items = i :: (events ++ metric.toList) := by
  obtain ⟨i, hi, h⟩ := Option.bind_eq_some_iff.1 h
  obtain ⟨events, hevents, h⟩ := Option.bind_eq_some_iff.1 h
  obtain ⟨metric, hmetric, h⟩ := Option.bind_eq_some_iff.1 h
  exact ⟨i, events, metric, hi, hevents, hmetric, (Option.some.inj h).symm⟩

/-! ### Steps -/

@[simp] theorem EventStep.items?_nil : EventStep.items? [] = some [] := rfl

@[simp] theorem EventStep.items?_ask (q : Question) (steps : List EventStep) :
    EventStep.items? (.ask q :: steps) = EventStep.items? steps := rfl

@[simp] theorem EventStep.items?_emit (m : Mapping Item) (steps : List EventStep) :
    EventStep.items? (.emit m :: steps) =
      m.value?.bind fun i => (EventStep.items? steps).map (i :: ·) := by
  have hbuilt : (EventStep.emit m :: steps).filterMap EventStep.built? =
      m :: steps.filterMap EventStep.built? := rfl
  unfold EventStep.items?
  rw [hbuilt, List.mapM_cons]
  cases m.value? with
  | none => rfl
  | some i => exact (Option.map_eq_bind ..).symm

/-- The items that are collected from steps are those of the steps, if all can be built. -/
theorem Collection.value?_ofSteps (steps : List EventStep) :
    (Collection.ofSteps steps).items.value? = EventStep.items? steps := by
  induction steps with
  | nil => rfl
  | cons step rest ih =>
    cases step with
    | ask q => exact ih
    | emit m =>
      obtain ⟨warnings, result⟩ := m
      cases result with
      | error e => rfl
      | ok i =>
        rw [EventStep.items?_emit, ← ih]
        simp only [ofSteps, afterItem, Mapping.value?]
        cases (ofSteps rest).items.result <;> rfl

/-- The items of steps are items that single steps build. -/
theorem EventStep.mem_items? {steps : List EventStep} {items : List Item}
    (h : EventStep.items? steps = some items) {i : Item} (hi : i ∈ items) :
    ∃ m, .emit m ∈ steps ∧ m.value? = some i := by
  induction steps generalizing items with
  | nil =>
    obtain rfl : [] = items := by simpa using h
    simp at hi
  | cons step rest ih =>
    cases step with
    | ask q =>
      obtain ⟨m, hm, hvalue⟩ := ih h hi
      exact ⟨m, List.mem_cons_of_mem _ hm, hvalue⟩
    | emit m =>
      rw [EventStep.items?_emit, Option.bind_eq_some_iff] at h
      obtain ⟨first, hfirst, h⟩ := h
      obtain ⟨more, hmore, rfl⟩ := Option.map_eq_some_iff.1 h
      rcases List.mem_cons.1 hi with rfl | hi
      · exact ⟨m, List.mem_cons_self, hfirst⟩
      · obtain ⟨m', hm', hvalue⟩ := ih hmore hi
        exact ⟨m', List.mem_cons_of_mem _ hm', hvalue⟩

/-- The items of events are messages and exceptions of their span. -/
theorem Mapper.emit_mem_eventSteps {m : Mapper} {s : Span} {operationName : Option String}
    {percentage : Quantity} {built : Mapping Item}
    (h : .emit built ∈ m.eventSteps s operationName percentage) :
    (∃ e, built = m.message e s operationName percentage) ∨
      ∃ stackTrace, built = m.exception stackTrace s operationName percentage := by
  unfold eventSteps at h
  -- by induction on the events, of which all but the first are gone through in the same way
  generalize s.events = events at h
  induction events with
  | nil => simp [stepsFor] at h
  | cons e rest ih =>
    rw [stepsFor, List.mem_cons] at h
    rcases h with h | h
    · cases h
    · split at h
      · exact ih h
      · split at h
        · split at h
          · rename_i stackTrace _
            exact Or.inr ⟨stackTrace, by simpa using h⟩
          · simp at h
        · rcases List.mem_cons.1 h with h | h
          · cases h
            exact Or.inl ⟨e, rfl⟩
          · exact ih h

/-! ### Collecting -/

/-- **What is collected for a span** are its items, and nothing if one of them cannot be built. -/
theorem Exporter.value?_collect (x : Exporter) (s : Span) :
    (x.mapper.collect s s.samplingPercentage x.withMetrics).items.value? = x.items? s := by
  unfold Mapper.collect Exporter.items? Mapper.eventItems? Exporter.metricItem?
  simp only [← Collection.value?_ofSteps]
  cases hmap : x.mapper.map s s.samplingPercentage with
  | mk warnings result =>
    cases result with
    | error e => rfl
    | ok i =>
      cases x.withMetrics <;> simp [Mapping.value?_bind]

end SpanTelemetry
