import Mathlib.Data.List.Forall2
import SpanTelemetry.Proofs.Item.Completion
import SpanTelemetry.Proofs.Mapper.Correlation

namespace SpanTelemetry

/-!
# An initializer that sets defaults does nothing else

Two runs of the mapper are compared: one without an initializer, and one with an initializer that sets
defaults on every new item.  They go the same way, and hand on the same items up to the defaults.

* `Mapper.withoutInitializer`, `Mapper.withDefaults` — the two mappers.
* `Mapping.Related` — two mappings that warn and fail alike.
* `ItemDefaults.Completes.describe` — payloads are described alike.
* `Mapper.request_related`, `Mapper.dependency_related`, `Mapper.message_related`,
  `Mapper.exception_related` — the four kinds of items, built with defaults and without.
* `EventStep.Related`, `Mapper.stepsFor_related` — going through the events of a span.
* `Delivery.Completed`, `Mapper.defaults_only_complete` — what is delivered.
-/

/-! ### The two mappers -/

/-- The mapper without its initializer. -/
def Mapper.withoutInitializer (m : Mapper) : Mapper :=
  { m with initializer := fun i => .ok { item := i } }

/-- The mapper with an initializer that sets defaults and nothing else. -/
def Mapper.withDefaults (m : Mapper) (d : ItemDefaults) : Mapper :=
  { m with initializer := fun i => .ok { item := d.apply i } }

/-! ### Two mappings -/

namespace Mapping

variable {α β γ δ : Type}

/-- Two mappings warn alike, and they fail in the same way or have related results. -/
inductive Related (R : α → β → Prop) : Mapping α → Mapping β → Prop where
  | failed (warnings : List LogEntry) (e : MappingError) :
      Related R ⟨warnings, .error e⟩ ⟨warnings, .error e⟩
  | done (warnings : List LogEntry) {a : α} {b : β} (h : R a b) :
      Related R ⟨warnings, .ok a⟩ ⟨warnings, .ok b⟩

/-- **Related mappings go on as related mappings.** -/
theorem Related.bind {R : α → β → Prop} {S : γ → δ → Prop} {m : Mapping α} {n : Mapping β}
    (h : Related R m n) {f : α → Mapping γ} {g : β → Mapping δ}
    (hnext : ∀ a b, R a b → Related S (f a) (g b)) : Related S (m >>= f) (n >>= g) := by
  cases h with
  | failed warnings e => exact .failed warnings e
  | @done warnings a b hab =>
    simp only [bind_ok]
    have hresult := hnext a b hab
    generalize f a = first at hresult ⊢
    generalize g b = second at hresult ⊢
    cases hresult with
    | failed more e => exact .failed _ e
    | done more hcd => exact .done _ hcd

/-- One mapping may go on in two related ways. -/
theorem Related.bind_same {S : γ → δ → Prop} (m : Mapping α) {f : α → Mapping γ} {g : α → Mapping δ}
    (hnext : ∀ a, Related S (f a) (g a)) : Related S (m >>= f) (m >>= g) := by
  have hsame : Related Eq m m := by
    obtain ⟨warnings, result⟩ := m
    cases result with
    | error e => exact .failed warnings e
    | ok a => exact .done warnings rfl
  refine hsame.bind ?_
  rintro a _ rfl
  exact hnext a

end Mapping

/-! ### Writing to two items -/

/-- The name of an operation for the events of a span, without defaults and with them.  The default
    stands for a name that is missing, and then no bridge has given one either. -/
structure ItemDefaults.CompletesName (d : ItemDefaults) (s : Span) (name name' : Option String) :
    Prop where
  completed : name' = name.or (d.tag? .operationName)
  unbridged : name = none → bridgedOperationName? s.attributes = none

namespace ItemDefaults.Completes

variable {d : ItemDefaults} {i j : Item} (h : d.Completes i j) (s : Span)

include h

/-- The tags of a request are set on both items. -/
theorem addRequestTags : d.Completes (i.addRequestTags s) (j.addRequestTags s) := by
  have hoperation := (h.addTag .operationName s.operationName).addTag .operationId
    (traceIdText s.context.traceId)
  have hparents := (hoperation.addTag? .operationParentId s.requestParentId?).addTag? .legacyRootId
    (s.attributes.string? AttributeKey.bridgedLegacyRootId)
  exact (((hparents.addTag? _ _).addTag? _ _).addTag? _ _).addTag? _ _

/-- So is the operation of a dependency. -/
theorem setOperation : d.Completes (i.setOperation s) (j.setOperation s) :=
  ((h.addTag _ _).addTag? _ _).addTag? _ _

/-- The name of the operation on a new item of an event.  A default that stands for it is on the item
    already, so that it is written a second time. -/
theorem setEventOperation {name name' : Option String} (hname : d.CompletesName s name name')
    (hnew : i.tag? .operationName = none) :
    d.Completes (i.setEventOperation s name) (j.setEventOperation s name') := by
  have hparents := (h.addTag .operationId (traceIdText s.context.traceId)).addTag .operationParentId
    (spanIdText s.context.spanId)
  obtain ⟨rfl, hunbridged⟩ := hname
  cases name with
  | some name => exact hparents.addTag _ _
  | none =>
    simp only [Item.setEventOperation, Item.setBridgedOperationName, hunbridged rfl, Item.addTag?,
      Option.none_or]
    cases hdefault : d.tag? .operationName with
    | none => exact hparents
    | some value =>
      refine hparents.addTag_right ?_ hdefault
      simpa [Item.setParentId, Item.setOperationId] using hnew

/-- A measurement is refused by both items or by none. -/
theorem addMeasurement? (key : String) (value : Option Binary64) :
    Mapping.Related d.Completes (Mapping.ofExcept (i.addMeasurement? key value))
      (Mapping.ofExcept (j.addMeasurement? key value)) := by
  cases value with
  | none => exact .done [] h
  | some x =>
    simp only [Item.addMeasurement?, Item.addMeasurement, h.measurements?]
    cases i.data.measurements? with
    | none => exact .failed [] _
    | some measurements => exact .done [] (h.withMeasurements _)

/-- Payloads in their place are described alike, or fail alike. -/
theorem describe {f : ItemData → Text.Written ItemData} (hf : ItemData.IsDescription f) :
    Mapping.Related d.Completes (Mapping.written (NewItem.describe { item := i } f))
      (Mapping.written (NewItem.describe { item := j } f)) := by
  rw [NewItem.describe_of_inPlace rfl, NewItem.describe_of_inPlace rfl, h.data, hf.withProperties]
  cases hdata : f i.data with
  | error e => exact .failed [] _
  | ok data => exact .done [] (h.withData (hf.properties hdata))

variable {percentage : Quantity} (hnumber : percentage.isSome) (time : String)

include hnumber

/-- A completed request stays one when it is filled. -/
theorem fillRequest :
    d.Completes (i.fillRequest s percentage time) (j.fillRequest s percentage time) :=
  ((((h.setTime time).setSampleRate hnumber).addAttributes s.attributes).addLinks s.links
    |>.addRequestTags s)

/-- So does a dependency. -/
theorem fillDependency :
    d.Completes (i.fillDependency s percentage time) (j.fillDependency s percentage time) :=
  ((((h.setOperation s).setTime time).setSampleRate hnumber).addAttributes s.attributes).addLinks
    s.links

/-- So does a message, under the completed name of its operation. -/
theorem fillMessage (e : SpanEvent) {name name' : Option String}
    (hname : d.CompletesName s name name') (hnew : i.tag? .operationName = none) :
    d.Completes (i.fillMessage e s name percentage time) (j.fillMessage e s name' percentage time) :=
  (((h.setEventOperation s hname hnew).setTime time).addAttributes e.attributes).setSampleRate hnumber

/-- So does an exception item. -/
theorem fillException (details : ExceptionDetails) {name name' : Option String}
    (hname : d.CompletesName s name name') (hnew : i.tag? .operationName = none) :
    d.Completes (i.fillException details s name percentage time)
      (j.fillException details s name' percentage time) :=
  (((h.setEventOperation s hname hnew).setTime time).setSampleRate hnumber).mapException
    fun _ _ => rfl

end ItemDefaults.Completes

/-! ### The four kinds of items -/

namespace Mapper

variable (m : Mapper) (d : ItemDefaults)

/-- A new item is as it was made, or the defaults are set on it. -/
theorem newItem_related (data : ItemData) :
    Mapping.Related (fun i j => i = { item := { data } } ∧ j = { item := d.apply { data } })
      (m.withoutInitializer.newItem data) ((m.withDefaults d).newItem data) :=
  .done [] ⟨rfl, rfl⟩

variable {s : Span} {percentage : Quantity} (hnumber : percentage.isSome)

include hnumber

/-- **Requests** with defaults and without. -/
theorem request_related :
    Mapping.Related d.Completes (m.withoutInitializer.request s percentage)
      ((m.withDefaults d).request s percentage) := by
  unfold request
  refine (m.newItem_related d _).bind ?_
  rintro _ _ ⟨rfl, rfl⟩
  refine .bind_same _ fun time => .bind_same _ fun _ => ?_
  refine ((d.completes_new rfl).describe (ItemData.isDescription_request m s)).bind fun i j hij => ?_
  refine .bind_same _ fun waiting => ?_
  exact (hij.fillRequest s hnumber time).addMeasurement? waitingTime waiting

/-- **Dependencies** with defaults and without. -/
theorem dependency_related (inProcess : Bool) :
    Mapping.Related d.Completes (m.withoutInitializer.dependency s percentage inProcess)
      ((m.withDefaults d).dependency s percentage inProcess) := by
  unfold dependency
  refine (m.newItem_related d _).bind ?_
  rintro _ _ ⟨rfl, rfl⟩
  refine .bind_same _ fun time => .bind_same _ fun _ => ?_
  refine ((d.completes_new rfl).describe (ItemData.isDescription_dependency m s inProcess)).bind
    fun i j hij => .done [] ?_
  exact hij.fillDependency s hnumber time

/-- **The item of a span** with defaults and without. -/
theorem map_related :
    Mapping.Related d.Completes (m.withoutInitializer.map s percentage)
      ((m.withDefaults d).map s percentage) := by
  unfold map
  cases s.itemKind with
  | error e => exact .failed [] e
  | ok kind =>
    cases kind with
    | request => exact m.request_related d hnumber
    | dependency inProcess => exact m.dependency_related d hnumber inProcess

variable {name name' : Option String} (hname : d.CompletesName s name name')

include hname

/-- **Messages** with defaults and without. -/
theorem message_related (e : SpanEvent) :
    Mapping.Related d.Completes (m.withoutInitializer.message e s name percentage)
      ((m.withDefaults d).message e s name' percentage) := by
  unfold message
  refine (m.newItem_related d _).bind ?_
  rintro _ _ ⟨rfl, rfl⟩
  refine .bind_same _ fun time => .bind_same _ fun _ => .done [] ?_
  exact (d.completes_new rfl).fillMessage s hnumber time e hname rfl

/-- **Exceptions** with defaults and without. -/
theorem exception_related (stackTrace : String) :
    Mapping.Related d.Completes (m.withoutInitializer.exception stackTrace s name percentage)
      ((m.withDefaults d).exception stackTrace s name' percentage) := by
  unfold exception
  refine (m.newItem_related d _).bind ?_
  rintro _ _ ⟨rfl, rfl⟩
  refine .bind_same _ fun time => .bind_same _ fun details => .done [] ?_
  exact (d.completes_new rfl).fillException s hnumber time details hname rfl

end Mapper

/-! ### Going through the events -/

/-- Two steps ask the same question, or build an item with defaults and without. -/
inductive EventStep.Related (d : ItemDefaults) : EventStep → EventStep → Prop where
  | ask (q : Question) : Related d (.ask q) (.ask q)
  | emit {a b : Mapping Item} (h : Mapping.Related d.Completes a b) : Related d (.emit a) (.emit b)

/-- **The steps for events** with defaults and without. -/
theorem Mapper.stepsFor_related (m : Mapper) {d : ItemDefaults} {s : Span} {percentage : Quantity}
    (hnumber : percentage.isSome) {name name' : Option String} (hname : d.CompletesName s name name')
    (events : List SpanEvent) :
    List.Forall₂ (EventStep.Related d) (m.withoutInitializer.stepsFor s name percentage events)
      ((m.withDefaults d).stepsFor s name' percentage events) := by
  induction events with
  | nil => exact .nil
  | cons e rest ih =>
    unfold stepsFor
    refine .cons (.ask _) ?_
    have hsuppressor : m.withoutInitializer.suppressor = (m.withDefaults d).suppressor := rfl
    rw [hsuppressor]
    split
    · exact ih
    · split
      · cases e.stackTrace? with
        | some stackTrace => exact .cons (.emit (m.exception_related d hnumber hname stackTrace)) .nil
        | none => exact .nil
      · exact .cons (.emit (m.message_related d hnumber hname e)) ih

/-! ### Delivering -/

/-- A delivery to `l` went the same way as a delivery to `k`, and what `l` took is what `k` took,
    completed by defaults. -/
structure Delivery.Completed (d : ItemDefaults) (k l : Sink) (plain filled : Delivery) : Prop where
  asked : filled.asked = plain.asked
  warnings : filled.warnings = plain.warnings
  error : filled.error = plain.error
  items : ∃ items completed, plain.sink = k.afterTaking items ∧
    filled.sink = l.afterTaking completed ∧ List.Forall₂ d.Completes items completed

variable {d : ItemDefaults} {k l : Sink}

/-- Nothing was handed on. -/
theorem Delivery.Completed.nothing (asked : List Question) (warnings : List LogEntry)
    (error : Option DeliveryError) :
    Delivery.Completed d k l ⟨asked, warnings, error, k⟩ ⟨asked, warnings, error, l⟩ :=
  ⟨rfl, rfl, rfl, [], [], by simp, by simp, .nil⟩

/-- An item was handed on before. -/
theorem Delivery.Completed.afterItem {i j : Item} (hij : d.Completes i j) {plain filled : Delivery}
    (h : Delivery.Completed d (k.afterTaking [i]) (l.afterTaking [j]) plain filled)
    (warnings : List LogEntry) :
    Delivery.Completed d k l (plain.afterWarning warnings) (filled.afterWarning warnings) where
  asked := h.asked
  warnings := congrArg (warnings ++ ·) h.warnings
  error := h.error
  items := by
    obtain ⟨items, completed, hplain, hfilled, hcompletes⟩ := h.items
    refine ⟨i :: items, j :: completed, ?_, ?_, .cons hij hcompletes⟩
    · exact hplain.trans (k.afterTaking_append [i] items)
    · exact hfilled.trans (l.afterTaking_append [j] completed)

/-- **Related steps** are delivered in the same way to sinks that take everything. -/
theorem Delivery.ofSteps_completed (hk : ∀ n, ¬ k.Fails n) (hl : ∀ n, ¬ l.Fails n)
    {steps steps' : List EventStep} (h : List.Forall₂ (EventStep.Related d) steps steps') :
    Delivery.Completed d k l (ofSteps k steps) (ofSteps l steps') := by
  -- by induction on the steps, for any two sinks, because each item leaves others
  induction h generalizing k l with
  | nil => exact .nothing [] [] none
  | cons hstep _ ih =>
    cases hstep with
    | ask q =>
      obtain ⟨hasked, hwarnings, herror, hitems⟩ := ih hk hl
      exact ⟨congrArg (q :: ·) hasked, hwarnings, herror, hitems⟩
    | emit hbuilt =>
      cases hbuilt with
      | failed warnings e => exact .nothing [] warnings (some (.mapping e))
      | @done warnings i j hij =>
        simp only [ofSteps, k.hand_of_not_fails i (hk 0), l.hand_of_not_fails j (hl 0)]
        exact (ih (k.takes_afterTaking hk [i]) (l.takes_afterTaking hl [j])).afterItem hij warnings

/-- The names of an operation that the two items of a span give to its events. -/
theorem Mapper.completesName_of_map {m : Mapper} {s : Span} {percentage : Quantity} {i j : Item}
    (hmap : (m.withoutInitializer.map s percentage).value? = some i) (h : d.Completes i j) :
    d.CompletesName s (i.tag? .operationName) (j.tag? .operationName) where
  completed := h.tag? .operationName
  unbridged := by
    intro hnone
    have hinit : m.withoutInitializer.SetsDefaults {} := by
      rintro data new - ⟨⟩
      rw [ItemDefaults.apply_none]
    have hname := (Mapper.map_heads hinit hmap).operationName
    rw [hnone, Option.none_or, Option.or_eq_none_iff] at hname
    exact hname.1

/-- **An initializer that sets defaults does nothing else.**  For a sink that takes everything, a span
    goes the same way with the defaults as without an initializer: the suppressor is asked the same, and
    there are the same warnings and the same error.  The same number of items is handed on, of the same
    kinds, each completed by the defaults: what the span and its events write to an item goes before
    them, and the time, the measurements and the other fields of the payload are the same. -/
theorem Mapper.defaults_only_complete (m : Mapper) (d : ItemDefaults) (s : Span) (k : Sink)
    (htaken : ∀ n, ¬ k.Fails n) :
    Delivery.Completed d k k (m.withoutInitializer.deliver s s.samplingPercentage k)
      ((m.withDefaults d).deliver s s.samplingPercentage k) := by
  have hnumber : s.samplingPercentage.isSome := Sampling.percentage_isSome _ rfl
  have hrelated := m.map_related d hnumber (s := s)
  unfold deliver
  generalize hplain : m.withoutInitializer.map s s.samplingPercentage = plain at hrelated
  generalize (m.withDefaults d).map s s.samplingPercentage = filled at hrelated
  cases hrelated with
  | failed warnings e => exact .nothing [] warnings (some (.mapping e))
  | @done warnings i j hij =>
    have hname : d.CompletesName s (i.tag? .operationName) (j.tag? .operationName) :=
      completesName_of_map (by rw [hplain]; rfl) hij
    simp only [k.hand_of_not_fails _ (htaken 0)]
    refine Delivery.Completed.afterItem hij ?_ warnings
    exact Delivery.ofSteps_completed (k.takes_afterTaking htaken [i]) (k.takes_afterTaking htaken [j])
      (m.stepsFor_related hnumber hname s.events)

/-- A call with an event hands on two items without an operation; the default names one on both. -/
theorem defaults_only_complete_nightly :
    (∀ n, ¬ Sink.reliable.Fails n) ∧
      ∃ items completed, List.Forall₂ exampleDefaults.Completes items completed ∧
        items.map (fun i => i.tag? .operationName) = [none, none] ∧
        completed.map (fun i => i.tag? .operationName) = [some "nightly", some "nightly"] := by
  have htaken := Sink.not_fails_reliable
  obtain ⟨-, -, -, items, completed, hplain, hfilled, hcompletes⟩ :=
    Mapper.defaults_only_complete {} exampleDefaults Session.exampleCall .reliable htaken
  refine ⟨htaken, items, completed, hcompletes, ?_, ?_⟩
  · have htags : ((({} : Mapper).withoutInitializer.deliver Session.exampleCall
        Session.exampleCall.samplingPercentage .reliable).sink.taken.map
          fun i => i.tag? .operationName) = [none, none] := by decide +kernel
    rwa [hplain] at htags
  · have htags : (((({} : Mapper).withDefaults exampleDefaults).deliver Session.exampleCall
        Session.exampleCall.samplingPercentage .reliable).sink.taken.map
          fun i => i.tag? .operationName) = [some "nightly", some "nightly"] := by decide +kernel
    rwa [hfilled] at htags

end SpanTelemetry
