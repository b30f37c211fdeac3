import SpanTelemetry.Proofs.Export.Items
import SpanTelemetry.Proofs.Sink

namespace SpanTelemetry

/-!
# Batches

An exporter maps the spans of a batch one after the other and hands on the items of each before it
maps the next.  For the sink this is the same as to be handed one list of items:

* `Exporter.batchItems` — the items of the spans that can be mapped, in the order of the batch.
* `Exporter.sendAll_eq_handAll` — a batch is handed on as that list is.
* `Session.send_offers_batchItems` — what the sink is called with, what is answered and what is
  reported, for every sink that may fail at any of its calls.
-/

namespace Exporter

variable (x : Exporter)

/-- The items of a batch: those of its spans, one span after the other; a span that cannot be
    mapped has none. -/
def batchItems (spans : List Span) : List Item := (spans.filterMap x.items?).flatten

@[simp] theorem batchItems_nil : x.batchItems [] = [] := rfl

theorem batchItems_append (before after : List Span) :
    x.batchItems (before ++ after) = x.batchItems before ++ x.batchItems after := by
  simp [batchItems]

theorem batchItems_cons_of_none {s : Span} (h : x.items? s = none) (rest : List Span) :
    x.batchItems (s :: rest) = x.batchItems rest := by
  simp [batchItems, h]

theorem batchItems_cons_of_some {s : Span} {items : List Item} (h : x.items? s = some items)
    (rest : List Span) : x.batchItems (s :: rest) = items ++ x.batchItems rest := by
  simp [batchItems, h]

/-- What is collected for a span, where its percentage is read through a cache. -/
private theorem collect_result_cases (s : Span) (cache : Sampling.Cache) :
    (∃ e, (x.mapper.collect s (s.readSampling cache).value x.withMetrics).items.result = .error e ∧
      x.items? s = none) ∨
    ∃ items, (x.mapper.collect s (s.readSampling cache).value x.withMetrics).items.result =
      .ok items ∧ x.items? s = some items := by
  rw [Span.readSampling_value, ← value?_collect]
  cases h : (x.mapper.collect s s.samplingPercentage x.withMetrics).items.value? with
  | none =>
    obtain ⟨e, he⟩ := Mapping.value?_eq_none_iff.1 h
    exact Or.inl ⟨e, he, rfl⟩
  | some items => exact Or.inr ⟨items, Mapping.value?_eq_some_iff.1 h, rfl⟩

/-- **A batch is handed on as one list of items**, whatever is in the cache. -/
theorem sendAll_eq_handAll (cache : Sampling.Cache) (sink : Sink) (spans : List Span) :
    ((x.sendAll cache sink spans).failure, (x.sendAll cache sink spans).sink) =
      sink.handAll (x.batchItems spans) := by
  -- by induction on the batch; each span leaves another cache and another sink to the next
  induction spans generalizing cache sink with
  | nil => rfl
  | cons s rest ih =>
    unfold sendAll
    rcases x.collect_result_cases s cache with ⟨e, hresult, hitems⟩ | ⟨items, hresult, hitems⟩
    · simp only [hresult, BatchOutcome.afterSpan]
      rw [x.batchItems_cons_of_none hitems]
      exact ih _ sink
    · simp only [hresult]
      rw [x.batchItems_cons_of_some hitems, Sink.handAll_append]
      cases hhand : sink.handAll items with
      | mk failure next =>
        cases failure with
        | some failure => rfl
        | none => exact ih _ next

/-- The spans that are counted are those that can be mapped, unless the sink fails. -/
theorem sendAll_exported {cache : Sampling.Cache} {sink : Sink} {spans : List Span}
    (h : (x.sendAll cache sink spans).failure = none) :
    (x.sendAll cache sink spans).exported = (spans.filterMap x.items?).length := by
  induction spans generalizing cache sink with
  | nil => rfl
  | cons s rest ih =>
    unfold sendAll at h ⊢
    rcases x.collect_result_cases s cache with ⟨e, hresult, hitems⟩ | ⟨items, hresult, hitems⟩
    · simp only [hresult, BatchOutcome.afterSpan, List.filterMap_cons_none hitems] at h ⊢
      rw [ih h, Nat.zero_add]
    · simp only [hresult, List.filterMap_cons_some hitems] at h ⊢
      cases hhand : sink.handAll items with
      | mk failure next =>
        cases failure with
        | some failure => simp [hhand] at h
        | none =>
          simp only [hhand, BatchOutcome.afterSpan] at h ⊢
          rw [ih h, List.length_cons, Nat.add_comm]

end Exporter

namespace Session

variable {s : Session} {spans : List Span}

/-- The answer to a batch, by whether the sink has failed. -/
def resultOf : Option SinkFailure → CommandResult
  | none => .success
  | some _ => .failure

/-- How the items of a batch are handed to the sink of a session. -/
def handing (s : Session) (spans : List Span) : Option SinkFailure × Sink :=
  s.sink.handAll (s.exporter.batchItems spans)

/-- The outcome of a batch hands on its items. -/
private theorem sendAll_eq_handing (s : Session) (spans : List Span) :
    (s.exporter.sendAll s.cache s.sink spans).failure = (s.handing spans).1 ∧
      (s.exporter.sendAll s.cache s.sink spans).sink = (s.handing spans).2 :=
  Prod.ext_iff.1 (s.exporter.sendAll_eq_handAll s.cache s.sink spans)

/-- The sink after a batch, be it empty or not. -/
theorem send_sink (hopen : s.exporter.isShutdown = false) :
    (s.send spans).2.sink = (s.handing spans).2 := by
  cases spans with
  | nil => simp [send, hopen, handing, Sink.handAll]
  | cons first rest => simp [send, hopen, sendBatch, sendAll_eq_handing]

/-- The answer to a batch, be it empty or not. -/
theorem send_result (hopen : s.exporter.isShutdown = false) :
    (s.send spans).1.result = resultOf (s.handing spans).1 := by
  cases spans with
  | nil => simp [send, hopen, handing, Sink.handAll, resultOf]
  | cons first rest =>
    rw [← (s.sendAll_eq_handing (first :: rest)).1]
    simp only [send, hopen, sendBatch, BatchOutcome.report, List.isEmpty_cons]
    cases (s.exporter.sendAll s.cache s.sink (first :: rest)).failure <;> rfl

/-- What the sink has taken of a batch, be it empty or not. -/
theorem send_items (hopen : s.exporter.isShutdown = false) :
    (s.send spans).1.items = (s.handing spans).2.taken.drop s.sink.taken.length := by
  cases spans with
  | nil => simp [send, hopen, handing, Sink.handAll]
  | cons first rest => simp [send, hopen, sendBatch, sendAll_eq_handing]

/-- The last thing that is reported about a batch that the sink takes is how many of its spans could
    be mapped. -/
theorem send_log (hopen : s.exporter.isShutdown = false) (hspans : spans ≠ [])
    (htaken : (s.handing spans).1 = none) :
    (s.send spans).1.log.getLast? =
      some (.exported (spans.filterMap s.exporter.items?).length) := by
  rw [← (s.sendAll_eq_handing spans).1] at htaken
  have hcount := s.exporter.sendAll_exported htaken
  have hempty : spans.isEmpty = false := by simpa using hspans
  simp [send, hopen, hempty, sendBatch, BatchOutcome.report, htaken, hcount]

/-- A span that cannot be mapped leaves no trace in how a batch is handed on. -/
theorem handing_of_unmapped (s : Session) (before after : List Span) {bad : Span}
    (h : s.exporter.items? bad = none) :
    s.handing (before ++ bad :: after) = s.handing (before ++ after) := by
  unfold handing
  rw [Exporter.batchItems_append, Exporter.batchItems_append,
    s.exporter.batchItems_cons_of_none h]

/-- **The law of batches.**  The sink is called with an initial part of the items of the batch.  If
    it fails at none of them, it takes them all, the answer is a success, and the spans that could be
    mapped are counted; if it fails, its first failure is the last call and the answer is a failure.
    A span that cannot be mapped changes neither what the sink is called with nor the answer. -/
theorem send_offers_batchItems (s : Session) (spans : List Span)
    (hopen : s.exporter.isShutdown = false) (hspans : spans ≠ []) :
    let items := s.exporter.batchItems spans
    let answer := (s.send spans).1
    let sink := (s.send spans).2.sink
    (∃ calls, sink.offered = s.sink.offered ++ calls ∧ calls <+: items) ∧
    ((∀ n < items.length, ¬ s.sink.Fails n) →
      sink.offered = s.sink.offered ++ items ∧ answer.items = items ∧ answer.result = .success ∧
        answer.log.getLast? = some (.exported (spans.filterMap s.exporter.items?).length)) ∧
    (∀ n < items.length, s.sink.Fails n → (∀ j < n, ¬ s.sink.Fails j) →
      sink.offered = s.sink.offered ++ items.take (n + 1) ∧ answer.items = items.take n ∧
        answer.result = .failure) ∧
    ∀ before bad after, spans = before ++ bad :: after → s.exporter.items? bad = none →
      answer.result = (s.send (before ++ after)).1.result ∧
        answer.items = (s.send (before ++ after)).1.items ∧
        sink = (s.send (before ++ after)).2.sink := by
  intro items answer sink
  -- how the items are handed on decides the sink, what it has taken, and the answer
  have htaken : (∀ n < items.length, ¬ s.sink.Fails n) →
      s.handing spans = (none, s.sink.afterTaking items) := Sink.handAll_of_taken
  have hfailure : ∀ n < items.length, s.sink.Fails n → (∀ j < n, ¬ s.sink.Fails j) →
      s.handing spans = (some ⟨s.sink.calls + n⟩,
        { s.sink with
          offered := s.sink.offered ++ items.take (n + 1)
          taken := s.sink.taken ++ items.take n }) := fun n => Sink.handAll_of_failure
  refine ⟨?_, ?_, ?_, ?_⟩
  · rw [show sink = (s.handing spans).2 from send_sink hopen]
    exact s.sink.offered_handAll items
  · intro hnone
    refine ⟨?_, ?_, ?_, send_log hopen hspans (by rw [htaken hnone])⟩
    · simp [sink, send_sink hopen, htaken hnone, Sink.afterTaking]
    · simp [answer, send_items hopen, htaken hnone, Sink.afterTaking]
    · simp [answer, send_result hopen, htaken hnone, resultOf]
  · intro n hn hfails hfirst
    have hhanding := hfailure n hn hfails hfirst
    refine ⟨?_, ?_, ?_⟩
    · simp [sink, send_sink hopen, hhanding]
    · simp [answer, send_items hopen, hhanding]
    · simp [answer, send_result hopen, hhanding, resultOf]
  · rintro before bad after rfl hbad
    have hsame := s.handing_of_unmapped before after hbad
    refine ⟨?_, ?_, ?_⟩
    · simp only [answer, send_result hopen, hsame]
    · simp only [answer, send_items hopen, hsame]
    · simp only [sink, send_sink hopen, hsame]

/-- A call with one event. -/
def exampleCall : Span where
  name := "GET"
  kind := .client
  context := ⟨1, 2, ∅⟩
  events := [⟨"sent", 0, ∅⟩]

/-- A span of a kind that cannot be mapped. -/
def exampleJob : Span := { exampleCall with kind := .unsupported (.ok "JOB") }

/-- A session whose sink fails at its second call. -/
def exampleSession : Session where
  exporter := { mapper := {} }
  sink := { failsAt := fun n => n == 1 }

/-- The call makes two items, the job none; the sink fails at the second item. -/
theorem send_offers_batchItems_mixed :
    exampleSession.exporter.isShutdown = false ∧ [exampleJob, exampleCall] ≠ [] ∧
      (exampleSession.send [exampleJob, exampleCall]).1.result = .failure ∧
      (exampleSession.send [exampleJob, exampleCall]).1.items.length = 1 ∧
      (exampleSession.send [exampleJob, exampleCall]).2.sink.offered.length = 2 := by
  have hspans : [exampleJob, exampleCall] ≠ [] := by simp
  have hlength : (exampleSession.exporter.batchItems [exampleJob, exampleCall]).length = 2 := by
    decide +kernel
  obtain ⟨-, -, hfailure, -⟩ :=
    exampleSession.send_offers_batchItems [exampleJob, exampleCall] rfl hspans
  obtain ⟨hoffered, hitems, hresult⟩ := hfailure 1 (by rw [hlength]; decide) rfl (by decide)
  refine ⟨rfl, hspans, hresult, ?_, ?_⟩
  · rw [hitems, List.length_take, hlength]
    rfl
  · rw [hoffered, List.length_append, List.length_take, hlength]
    rfl

end Session

end SpanTelemetry
