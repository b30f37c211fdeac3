import SpanTelemetry.Proofs.Export.Items
import SpanTelemetry.Proofs.Sink

namespace SpanTelemetry

/-!
# What is delivered

A delivery hands on the items of a span one by one as they are built.

* `Delivery.offered_ofSteps` — what a run of steps hands on is what its single steps build.
* `Delivery.ofSteps_append` — a run of steps in two parts.
* `EventStep.outcome`, `Delivery.ofSteps_of_taken` — a sink that takes everything is handed all that
  they build, up to the first item that cannot be built.
* `Mapper.offered_deliver_of_none`, `Mapper.offered_deliver_of_some` — a span hands on nothing, or its
  own item before those of its events.
* `Mapper.outcome`, `Mapper.deliver_of_taken` — the same for a span and a sink that takes everything.
-/

/-! ### Steps -/

/-- What a run of steps hands to a sink are items that single steps build. -/
theorem Delivery.offered_ofSteps (k : Sink) (steps : List EventStep) :
    ∃ handed, (ofSteps k steps).sink.offered = k.offered ++ handed ∧
      ∀ i ∈ handed, ∃ built, .emit built ∈ steps ∧ built.value? = some i := by
  -- by induction on the steps, for every sink, because each item leaves another one
  induction steps generalizing k with
  | nil => exact ⟨[], by simp [ofSteps], by simp⟩
  | cons step rest ih =>
    cases step with
    | ask q =>
      obtain ⟨handed, hoffered, heach⟩ := ih k
      refine ⟨handed, hoffered, fun i hi => ?_⟩
      obtain ⟨built, hbuilt, hvalue⟩ := heach i hi
      exact ⟨built, List.mem_cons_of_mem _ hbuilt, hvalue⟩
    | emit built =>
      simp only [ofSteps]
      cases hresult : built.result with
      | error e => exact ⟨[], by simp, by simp⟩
      | ok i =>
        have hvalue : built.value? = some i := Mapping.value?_eq_some_iff.2 hresult
        have hoffered := k.offered_hand i
        simp only
        cases hhand : k.hand i with
        | mk failure next =>
          rw [hhand] at hoffered
          cases failure with
          | some failure => exact ⟨[i], hoffered, by simp [hvalue]⟩
          | none =>
            obtain ⟨handed, hmore, heach⟩ := ih next
            refine ⟨i :: handed, ?_, fun j hj => ?_⟩
            · simp only [afterWarning]
              rw [hmore, hoffered, List.append_assoc]
              rfl
            · rcases List.mem_cons.1 hj with rfl | hj
              · exact ⟨built, List.mem_cons_self, hvalue⟩
              · obtain ⟨built', hbuilt', hvalue'⟩ := heach j hj
                exact ⟨built', List.mem_cons_of_mem _ hbuilt', hvalue'⟩

/-- Go on with further steps, unless the delivery has failed. -/
def Delivery.andThen (d : Delivery) (rest : List EventStep) : Delivery :=
  match d.error with
  | some _ => d
  | none =>
      let second := ofSteps d.sink rest
      ⟨d.asked ++ second.asked, d.warnings ++ second.warnings, second.error, second.sink⟩

theorem Delivery.andThen_afterAsking (q : Question) (d : Delivery) (rest : List EventStep) :
    (d.afterAsking q).andThen rest = (d.andThen rest).afterAsking q := by
  obtain ⟨asked, warnings, error, k⟩ := d
  cases error <;> rfl

theorem Delivery.andThen_afterWarning (entries : List LogEntry) (d : Delivery)
    (rest : List EventStep) :
    (d.afterWarning entries).andThen rest = (d.andThen rest).afterWarning entries := by
  obtain ⟨asked, warnings, error, k⟩ := d
  cases error with
  | none => simp [andThen, afterWarning]
  | some e => rfl

/-- **Steps may be gone through in two parts**, the second only if the first has not failed. -/
theorem Delivery.ofSteps_append (k : Sink) (steps rest : List EventStep) :
    ofSteps k (steps ++ rest) = (ofSteps k steps).andThen rest := by
  induction steps generalizing k with
  | nil => rfl
  | cons step steps ih =>
    cases step with
    | ask q => rw [List.cons_append, ofSteps, ofSteps, ih, andThen_afterAsking]
    | emit built =>
      rw [List.cons_append, ofSteps, ofSteps]
      cases built.result with
      | error e => rfl
      | ok i =>
        simp only
        cases k.hand i with
        | mk failure next =>
          cases failure with
          | some failure => rfl
          | none => simp only [ih, andThen_afterWarning]

/-! ### Steps and a sink that takes everything -/

/-- The items of steps up to the first that cannot be built, and why that one cannot. -/
def EventStep.outcome : List EventStep → List Item × Option MappingError
  | [] => ([], none)
  | .ask _ :: rest => outcome rest
  | .emit m :: rest =>
      match m.result with
      | .error e => ([], some e)
      | .ok i => (i :: (outcome rest).1, (outcome rest).2)

/-- The items of steps are there as a whole iff none of them cannot be built. -/
theorem EventStep.items?_eq_some_iff {steps : List EventStep} {items : List Item} :
    EventStep.items? steps = some items ↔ EventStep.outcome steps = (items, none) := by
  induction steps generalizing items with
  | nil => simp [outcome]
  | cons step rest ih =>
    cases step with
    | ask q => exact ih
    | emit built =>
      rw [EventStep.items?_emit, outcome]
      cases hresult : built.result with
      | error e => simp [Mapping.value?, hresult, Except.toOption]
      | ok i =>
        rw [Mapping.value?_eq_some_iff.2 hresult, Option.bind_some, Option.map_eq_some_iff]
        simp only [ih, Prod.ext_iff]
        constructor
        · rintro ⟨more, ⟨rfl, hnone⟩, rfl⟩
          exact ⟨rfl, hnone⟩
        · rintro ⟨rfl, hnone⟩
          exact ⟨_, ⟨rfl, hnone⟩, rfl⟩

/-- **A sink that takes everything** is handed these items, and what ends the delivery is the item that
    cannot be built. -/
theorem Delivery.ofSteps_of_taken {k : Sink} (htaken : ∀ n, ¬ k.Fails n) (steps : List EventStep) :
    (ofSteps k steps).sink = k.afterTaking (EventStep.outcome steps).1 ∧
      (ofSteps k steps).error = (EventStep.outcome steps).2.map .mapping := by
  induction steps generalizing k with
  | nil => simp [ofSteps, EventStep.outcome]
  | cons step rest ih =>
    cases step with
    | ask q => exact ih htaken
    | emit built =>
      rw [ofSteps, EventStep.outcome]
      cases built.result with
      | error e => simp
      | ok i =>
        obtain ⟨hsink, herror⟩ := ih (k.takes_afterTaking htaken [i])
        simp only [k.hand_of_not_fails i (htaken 0), afterWarning]
        exact ⟨by rw [hsink, Sink.afterTaking_append, List.singleton_append], herror⟩

/-! ### Spans -/

variable {m : Mapper} {s : Span} {percentage : Quantity} {i : Item}

/-- A span that cannot be mapped hands on nothing. -/
theorem Mapper.offered_deliver_of_none {k : Sink} (h : (m.map s percentage).value? = none) :
    (m.deliver s percentage k).sink.offered = k.offered := by
  obtain ⟨e, he⟩ := Mapping.value?_eq_none_iff.1 h
  simp [deliver, he]

/-- A span that is mapped hands on its item first, and then what its events come to. -/
theorem Mapper.offered_deliver_of_some {k : Sink} (h : (m.map s percentage).value? = some i) :
    ∃ rest, (m.deliver s percentage k).sink.offered = k.offered ++ i :: rest ∧
      (∀ e ∈ rest, ∃ built,
        .emit built ∈ m.eventSteps s (i.tag? .operationName) percentage ∧ built.value? = some e) ∧
      ((∀ n, ¬ k.Fails n) → ∀ events,
        m.eventItems? s (i.tag? .operationName) percentage = some events → rest = events) := by
  have hresult := Mapping.value?_eq_some_iff.1 h
  by_cases hfails : k.Fails 0
  · -- the sink has failed at the item of the span, so nothing follows it
    refine ⟨[], ?_, by simp, fun htaken => absurd hfails (htaken 0)⟩
    simp [deliver, hresult, k.hand_of_fails i hfails]
  · have hdeliver : (m.deliver s percentage k).sink =
        (m.deliverEvents s (i.tag? .operationName) percentage (k.afterTaking [i])).sink := by
      simp [deliver, hresult, k.hand_of_not_fails i hfails, Delivery.afterWarning]
    obtain ⟨rest, hoffered, heach⟩ := Delivery.offered_ofSteps (k.afterTaking [i])
      (m.eventSteps s (i.tag? .operationName) percentage)
    refine ⟨rest, ?_, heach, fun htaken events hevents => ?_⟩
    · rw [hdeliver, deliverEvents, hoffered]
      simp [Sink.afterTaking]
    · obtain ⟨hsink, -⟩ := Delivery.ofSteps_of_taken (k.takes_afterTaking htaken [i])
        (m.eventSteps s (i.tag? .operationName) percentage)
      rw [hsink, EventStep.items?_eq_some_iff.1 hevents] at hoffered
      exact (List.append_cancel_left hoffered).symm

/-- The items of a span up to the first that cannot be built, and why that one cannot. -/
def Mapper.outcome (m : Mapper) (s : Span) (percentage : Quantity) :
    List Item × Option MappingError :=
  match (m.map s percentage).result with
  | .error e => ([], some e)
  | .ok i =>
      let events := EventStep.outcome (m.eventSteps s (i.tag? .operationName) percentage)
      (i :: events.1, events.2)

/-- **A sink that takes everything** is handed these items. -/
theorem Mapper.deliver_of_taken {k : Sink} (htaken : ∀ n, ¬ k.Fails n) (m : Mapper) (s : Span)
    (percentage : Quantity) :
    (m.deliver s percentage k).sink = k.afterTaking (m.outcome s percentage).1 ∧
      (m.deliver s percentage k).error = (m.outcome s percentage).2.map .mapping := by
  cases hresult : (m.map s percentage).result with
  | error e => simp [deliver, outcome, hresult]
  | ok i =>
    obtain ⟨hsink, herror⟩ := Delivery.ofSteps_of_taken (k.takes_afterTaking htaken [i])
      (m.eventSteps s (i.tag? .operationName) percentage)
    simp only [deliver, outcome, hresult, k.hand_of_not_fails i (htaken 0), deliverEvents,
      Delivery.afterWarning]
    exact ⟨by rw [hsink, Sink.afterTaking_append, List.singleton_append], herror⟩

end SpanTelemetry
