import SpanTelemetry.Proofs.Export.Batch
import SpanTelemetry.Proofs.Mapper.Builders
import SpanTelemetry.Proofs.Mapper.Delivery
import SpanTelemetry.Proofs.Mapper.Metric

namespace SpanTelemetry

/-!
# The exporter and the mapper agree

A mapper hands on the items of a span as it builds them, an exporter builds them all before it hands on
the first.  The items are the same, but only the exporter hands on nothing if one cannot be built. The metric
is one of them, and it may be the only one that cannot be written.

* `Exporter.items?_of_complete`, `Exporter.items?_of_failed` — what an exporter builds for a span, by what
  the mapper comes to.
* `Exporter.metricItem?_cases` — whether a call has a metric, and whether that can be written.
* `Session.send_agrees_with_deliver` — what a batch of one span hands on, next to what the mapper does.
-/

/-! ### What an exporter builds -/

namespace Exporter

variable {x : Exporter} {s : Span} {items : List Item}

/-- Where the mapper builds all items, the exporter builds the same ones and a metric. -/
theorem items?_of_complete (h : x.mapper.outcome s s.samplingPercentage = (items, none)) :
    ∃ i events, (x.mapper.map s s.samplingPercentage).value? = some i ∧ items = i :: events ∧
      x.items? s = (x.metricItem? s i).map fun metric => items ++ metric.toList := by
  unfold Mapper.outcome at h
  cases hresult : (x.mapper.map s s.samplingPercentage).result with
  | error e => simp [hresult] at h
  | ok i =>
    simp only [hresult, Prod.mk.injEq] at h
    obtain ⟨rfl, hnone⟩ := h
    have hvalue := Mapping.value?_eq_some_iff.2 hresult
    have hevents : x.mapper.eventItems? s (i.tag? .operationName) s.samplingPercentage = some _ :=
      EventStep.items?_eq_some_iff.2 (Prod.ext rfl hnone)
    refine ⟨i, _, hvalue, rfl, ?_⟩
    simp only [items?, hvalue, hevents, Option.bind_eq_bind, Option.bind_some]
    cases x.metricItem? s i <;> rfl

/-- Where an item cannot be built, the exporter builds none. -/
theorem items?_of_failed {e : MappingError}
    (h : (x.mapper.outcome s s.samplingPercentage).2 = some e) : x.items? s = none := by
  unfold Mapper.outcome at h
  cases hresult : (x.mapper.map s s.samplingPercentage).result with
  | error e' =>
    have hvalue := Mapping.value?_eq_none_iff.2 ⟨e', hresult⟩
    simp [items?, hvalue]
  | ok i =>
    simp only [hresult] at h
    have hvalue := Mapping.value?_eq_some_iff.2 hresult
    have hevents : x.mapper.eventItems? s (i.tag? .operationName) s.samplingPercentage = none := by
      refine Option.eq_none_iff_forall_ne_some.2 fun events hevents => ?_
      rw [EventStep.items?_eq_some_iff.1 hevents] at h
      cases h
    simp [items?, hvalue, hevents]

/-- With metrics, an HTTP or RPC call has one if it can be written, and nothing else has. -/
theorem metricItem?_cases (i : Item) (hmetrics : x.withMetrics = true)
    (hduration : s.durationNanos.natAbs < Binary64.overflowBound * Metric.nanosPerMilli) :
    ((Metric.isMeasured s.attributes = true ∧ i.data.isOfSpan = true) ∧
      Metric.Writable s.attributes i.data ∧
        ∃ metric, x.metricItem? s i = some (some metric) ∧ Metric.IsMetric metric) ∨
    ((Metric.isMeasured s.attributes = true ∧ i.data.isOfSpan = true) ∧
      ¬ Metric.Writable s.attributes i.data ∧ x.metricItem? s i = none) ∨
    (¬ (Metric.isMeasured s.attributes = true ∧ i.data.isOfSpan = true) ∧
      x.metricItem? s i = some none) := by
  obtain ⟨millis, hmillis⟩ := Metric.exists_durationMillis_iff.2 hduration
  rw [metricItem?, hmetrics, if_pos rfl]
  by_cases hcall : Metric.isMeasured s.attributes = true ∧ i.data.isOfSpan = true
  · by_cases hwritable : Metric.Writable s.attributes i.data
    · obtain ⟨metric, hmetric⟩ := (Metric.exists_metric_iff hcall.1 hcall.2 hmillis).2 hwritable
      exact Or.inl ⟨hcall, hwritable, metric, hmetric, Metric.isMetric_ofSpan hmetric⟩
    · have hmetric := Metric.value?_ofSpan_of_not_writable hcall.1 hcall.2 hmillis hwritable
      exact Or.inr (Or.inl ⟨hcall, hwritable, hmetric⟩)
  · exact Or.inr (Or.inr ⟨hcall, Metric.value?_ofSpan_of_not_measured hcall hmillis⟩)

/-- The items that were built before a metric that cannot be written are dropped with it. -/
theorem items?_of_not_writable {i : Item} (hmetrics : x.withMetrics = true)
    (hduration : s.durationNanos.natAbs < Binary64.overflowBound * Metric.nanosPerMilli)
    (hcall : Metric.isMeasured s.attributes = true ∧ i.data.isOfSpan = true)
    (hmap : (x.mapper.map s s.samplingPercentage).value? = some i)
    (hlong : ¬ Metric.Writable s.attributes i.data) : x.items? s = none := by
  obtain ⟨-, hwritable, -⟩ | ⟨-, -, hmetric⟩ | ⟨hnot, -⟩ := metricItem?_cases i hmetrics hduration
  · exact absurd hwritable hlong
  · simp [items?, hmap, hmetric]
  · exact absurd hcall hnot

theorem batchItems_singleton (x : Exporter) (s : Span) :
    x.batchItems [s] = (x.items? s).getD [] := by
  cases h : x.items? s with
  | none => rw [x.batchItems_cons_of_none h, batchItems_nil, Option.getD_none]
  | some items => rw [x.batchItems_cons_of_some h, batchItems_nil, List.append_nil, Option.getD_some]

end Exporter

/-! ### Agreement -/

namespace Session

/-- A batch of one span that a sink takes is what the exporter builds for the span. -/
theorem send_singleton {x : Session} (hopen : x.exporter.isShutdown = false)
    (htaken : ∀ n, ¬ x.sink.Fails n) (s : Span) :
    (x.send [s]).1.result = .success ∧
      (x.send [s]).2.sink = x.sink.afterTaking ((x.exporter.items? s).getD []) := by
  rw [send_result hopen, send_sink hopen, handing, Sink.handAll_of_taken fun n _ => htaken n,
    Exporter.batchItems_singleton]
  exact ⟨rfl, rfl⟩

/-- **The exporter and the mapper agree** on a span and a sink that takes everything.  If the mapper
    builds all items of the span, the exporter hands on the same ones in the same order; with metrics,
    an HTTP or RPC call is followed by its metric, and nothing else is followed by anything.  If the
    mapper fails, whatever it has handed on by then, or if the metric cannot be written, the exporter hands
    on nothing.  The answer is a success in any case. -/
theorem send_agrees_with_deliver (x : Session) (s : Span) (hopen : x.exporter.isShutdown = false)
    (htaken : ∀ n, ¬ x.sink.Fails n) :
    let m := x.exporter.mapper
    let delivery := m.deliver s s.samplingPercentage x.sink
    let sink := (x.send [s]).2.sink
    (x.send [s]).1.result = .success ∧
    (delivery.error = none → ∃ i events,
      (m.map s s.samplingPercentage).value? = some i ∧
      delivery.sink = x.sink.afterTaking (i :: events) ∧
      (m.KeepsKinds → i.data.isOfSpan = true) ∧
      (x.exporter.withMetrics = false → sink = delivery.sink) ∧
      (x.exporter.withMetrics = true →
        s.durationNanos.natAbs < Binary64.overflowBound * Metric.nanosPerMilli →
        let hasMetric := ((∃ method, s.attributes.string? AttributeKey.httpMethod = some method) ∨
          ∃ system, s.attributes.string? AttributeKey.rpcSystem = some system) ∧
            i.data.isOfSpan = true
        (hasMetric → Metric.Writable s.attributes i.data →
          ∃ metric, Metric.IsMetric metric ∧ sink = delivery.sink.afterTaking [metric]) ∧
        (hasMetric → ¬ Metric.Writable s.attributes i.data → sink = x.sink) ∧
        (¬ hasMetric → sink = delivery.sink))) ∧
    (delivery.error ≠ none → sink = x.sink) := by
  intro m delivery sink
  obtain ⟨hresult, hsink⟩ := send_singleton hopen htaken s
  obtain ⟨htook, herror⟩ := m.deliver_of_taken htaken s s.samplingPercentage
  refine ⟨hresult, fun hnone => ?_, fun hsome => ?_⟩
  · have hcomplete : m.outcome s s.samplingPercentage =
        ((m.outcome s s.samplingPercentage).1, none) :=
      Prod.ext rfl (Option.map_eq_none_iff.1 (herror.symm.trans hnone))
    obtain ⟨i, events, hmap, hitems, hbuilt⟩ := Exporter.items?_of_complete hcomplete
    rw [hitems] at htook hbuilt
    refine ⟨i, events, hmap, htook, fun hkeeps => m.isOfSpan_map hkeeps hmap, fun hoff => ?_,
      fun hon hduration => ?_⟩
    · have hmetric : x.exporter.metricItem? s i = some none := by simp [Exporter.metricItem?, hoff]
      rw [hmetric] at hbuilt
      simp only [sink, hsink, hbuilt, delivery, htook]
      simp
    · simp only [← Metric.isMeasured_iff]
      obtain ⟨hcall, hwritable, metric, hmetric, hkind⟩ | ⟨hcall, hlong, hmetric⟩ | ⟨hnot, hmetric⟩ :=
        Exporter.metricItem?_cases i hon hduration <;> rw [hmetric] at hbuilt
      · refine ⟨fun _ _ => ⟨metric, hkind, ?_⟩, fun _ hlong => absurd hwritable hlong,
          fun h => absurd hcall h⟩
        simp only [sink, hsink, hbuilt, delivery, htook, Sink.afterTaking_append]
        rfl
      · refine ⟨fun _ hwritable => absurd hwritable hlong, fun _ _ => ?_, fun h => absurd hcall h⟩
        simp only [sink, hsink, hbuilt]
        simp
      · refine ⟨fun h => absurd h hnot, fun h => absurd h hnot, fun _ => ?_⟩
        simp only [sink, hsink, hbuilt, delivery, htook]
        simp
  · obtain ⟨e, he⟩ := Option.ne_none_iff_exists'.1 hsome
    rw [herror] at he
    obtain ⟨cause, hcause, -⟩ := Option.map_eq_some_iff.1 he
    simp only [sink, hsink, Exporter.items?_of_failed hcause]
    simp

/-- A session that sends metrics to a sink that takes everything. -/
def meteredSession : Session where
  exporter := { mapper := {}, withMetrics := true }

/-- An HTTP call with an event. -/
def exampleHttpCall : Span :=
  { exampleCall with attributes := Table.ofList [(AttributeKey.httpMethod, .string "GET")] }

/-- A call with an event behind which another one lies too far in the future. -/
def exampleLateCall : Span :=
  { exampleCall with events := [⟨"sent", 0, ∅⟩, ⟨"lost", 0x10000000000000000000000000, ∅⟩] }

/-- The HTTP call hands on two items and a metric.  Of the late call the mapper hands on two items before it
    fails, and the exporter none. -/
theorem send_agrees_with_deliver_calls :
    meteredSession.exporter.isShutdown = false ∧ (∀ n, ¬ meteredSession.sink.Fails n) ∧
      (∃ metric, Metric.IsMetric metric ∧ (meteredSession.send [exampleHttpCall]).2.sink =
        (meteredSession.exporter.mapper.deliver exampleHttpCall exampleHttpCall.samplingPercentage
          meteredSession.sink).sink.afterTaking [metric]) ∧
      (meteredSession.exporter.mapper.deliver exampleLateCall exampleLateCall.samplingPercentage
        meteredSession.sink).sink.taken.length = 2 ∧
      (meteredSession.send [exampleLateCall]).2.sink = meteredSession.sink := by
  have htaken : ∀ n, ¬ meteredSession.sink.Fails n := Sink.not_fails_reliable
  have hkeeps : meteredSession.exporter.mapper.KeepsKinds := Mapper.keepsPayloads_default.keepsKinds
  obtain ⟨-, hcomplete, -⟩ := meteredSession.send_agrees_with_deliver exampleHttpCall rfl htaken
  obtain ⟨-, -, hfailed⟩ := meteredSession.send_agrees_with_deliver exampleLateCall rfl htaken
  obtain ⟨i, events, -, -, hspan, -, hmetered⟩ := hcomplete (by decide +kernel)
  have hshort : exampleHttpCall.durationNanos.natAbs <
      Binary64.overflowBound * Metric.nanosPerMilli :=
    Nat.mul_pos Binary64.overflowBound_pos (by decide)
  have hwritable : Metric.Writable exampleHttpCall.attributes i.data := by
    refine .of_hasNoLongInteger (Attributes.hasNoLongInteger_ofList fun e he => ?_) _
    rw [List.mem_singleton.1 he]
    nofun
  exact ⟨rfl, htaken, (hmetered rfl hshort).1 ⟨Or.inl ⟨"GET", by decide +kernel⟩, hspan hkeeps⟩ hwritable,
    by decide +kernel, hfailed (by decide +kernel)⟩

/-- A remote procedure call with a status code. -/
def exampleRemoteCall (code : Nat) : Span :=
  { exampleCall with
    attributes := Table.ofList [(AttributeKey.rpcSystem, .string "grpc"),
      (AttributeKey.rpcGrpcStatusCode, .int code)] }

theorem statusCode?_exampleRemoteCall (code : Nat) :
    (exampleRemoteCall code).attributes.statusCode? = some (code : Int) := by
  have hkeys : [AttributeKey.rpcSystem, AttributeKey.rpcGrpcStatusCode].Nodup := by decide
  have hget : ∀ key, (exampleRemoteCall code).attributes.get? key =
      [(AttributeKey.rpcSystem, Value.string "grpc"),
        (AttributeKey.rpcGrpcStatusCode, .int code)].lookup key :=
    Table.get?_ofList hkeys
  rw [Attributes.statusCode?, Attributes.int?, Attributes.int?, hget, hget]
  rfl

/-- One of which the status code has too many digits to be written. -/
def exampleLongCode : Span := exampleRemoteCall (10 ^ Text.maxDigits)

/-- The exporter does not always hand on what the mapper does: a status code that nothing but the metric
    shows, and that has too many digits to be written, makes it hand on nothing. -/
theorem send_disagrees_on_long_code :
    ¬ ∀ s : Span, s.durationNanos.natAbs < Binary64.overflowBound * Metric.nanosPerMilli →
      let delivery := meteredSession.exporter.mapper.deliver s s.samplingPercentage meteredSession.sink
      delivery.error = none →
      ∃ metrics, (meteredSession.send [s]).2.sink = delivery.sink.afterTaking metrics := by
  intro halways
  have hshort : exampleLongCode.durationNanos.natAbs <
      Binary64.overflowBound * Metric.nanosPerMilli :=
    Nat.mul_pos Binary64.overflowBound_pos (by decide)
  -- the mapper hands on the items of the call and of its event
  have hdelivered : (meteredSession.exporter.mapper.deliver exampleLongCode
      exampleLongCode.samplingPercentage meteredSession.sink).error = none := by
    decide +kernel
  have hlength : (meteredSession.exporter.mapper.deliver exampleLongCode
      exampleLongCode.samplingPercentage meteredSession.sink).sink.taken.length = 2 := by
    decide +kernel
  obtain ⟨metrics, hsink⟩ := halways _ hshort hdelivered
  -- the exporter drops both of them
  have hmapped : (meteredSession.exporter.mapper.map exampleLongCode
      exampleLongCode.samplingPercentage).value?.isSome = true := by
    decide +kernel
  obtain ⟨i, hmap⟩ := Option.isSome_iff_exists.1 hmapped
  have hspan : i.data.isOfSpan = true :=
    Mapper.isOfSpan_map Mapper.keepsPayloads_default.keepsKinds hmap
  have hlong : ¬ Metric.Writable exampleLongCode.attributes i.data := by
    intro hwritable
    have hcode := hwritable.code _ (statusCode?_exampleRemoteCall _)
    rw [Int.natAbs_natCast] at hcode
    exact Nat.lt_irrefl _ hcode
  have hnothing : meteredSession.exporter.items? exampleLongCode = none :=
    Exporter.items?_of_not_writable rfl hshort ⟨by decide +kernel, hspan⟩ hmap hlong
  rw [(send_singleton rfl Sink.not_fails_reliable _).2, hnothing, Option.getD_none] at hsink
  have hnumber : (meteredSession.sink.afterTaking []).taken.length = 2 + metrics.length := by
    rw [hsink, ← hlength]
    exact List.length_append
  have hempty : (meteredSession.sink.afterTaking []).taken.length = 0 := rfl
  omega

end Session

end SpanTelemetry
