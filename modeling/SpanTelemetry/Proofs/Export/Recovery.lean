import Mathlib.Data.List.Forall2
import SpanTelemetry.Proofs.Export.Run

namespace SpanTelemetry

/-!
# After a failure of the sink

An exporter keeps nothing of a batch, be it taken or not.  It goes on like one that has never seen the
batch and whose sink fails alike from then on.

* `Sink.FailsLike`, `Sink.Parallel` — two sinks that fail alike, and what both are handed.
* `Answer.Alike` — two answers that agree on all but the sink's own reasons and a cached warning.
* `Exporter.sendAll_alike`, `Session.step_alike`, `Session.run_alike` — a batch, a command and a run
  with two sinks that fail alike.
* `Session.run_follows_exports` — a whole run follows from what is exported before the first shutdown.
-/

/-! ### Two sinks -/

/-- Two sinks have failed both or not at all. -/
private theorem both_or_neither {a b : Option SinkFailure} (h : a.isSome = b.isSome) :
    (∃ failure failure', a = some failure ∧ b = some failure') ∨ (a = none ∧ b = none) := by
  cases a <;> cases b <;> simp_all

namespace Sink

/-- Two sinks fail alike from now on. -/
def FailsLike (k l : Sink) : Prop := ∀ n, k.Fails n ↔ l.Fails n

/-- From `k` and `l` on, `k'` and `l'` were called with the same items and took the same ones, and
    they still fail alike. -/
structure Parallel (k l k' l' : Sink) : Prop where
  offered : ∃ calls, k'.offered = k.offered ++ calls ∧ l'.offered = l.offered ++ calls
  taken : ∃ items, k'.taken = k.taken ++ items ∧ l'.taken = l.taken ++ items
  failsLike : k'.FailsLike l'

variable {k l k' l' k'' l'' : Sink}

/-- Sinks that are given nothing stay as far apart as they are. -/
theorem Parallel.refl (h : k.FailsLike l) : Parallel k l k l where
  offered := ⟨[], by simp⟩
  taken := ⟨[], by simp⟩
  failsLike := h

/-- What two sinks are given one after the other. -/
theorem Parallel.trans (h : Parallel k l k' l') (h' : Parallel k' l' k'' l'') :
    Parallel k l k'' l'' where
  offered := by
    obtain ⟨calls, hk, hl⟩ := h.offered
    obtain ⟨more, hk', hl'⟩ := h'.offered
    exact ⟨calls ++ more, by rw [hk', hk, List.append_assoc], by rw [hl', hl, List.append_assoc]⟩
  taken := by
    obtain ⟨items, hk, hl⟩ := h.taken
    obtain ⟨more, hk', hl'⟩ := h'.taken
    exact ⟨items ++ more, by rw [hk', hk, List.append_assoc], by rw [hl', hl, List.append_assoc]⟩
  failsLike := h'.failsLike

/-- What two sinks took in parallel is the same. -/
theorem Parallel.drop_taken (h : Parallel k l k' l') :
    k'.taken.drop k.taken.length = l'.taken.drop l.taken.length := by
  obtain ⟨items, hk, hl⟩ := h.taken
  rw [hk, hl, List.drop_left, List.drop_left]

/-- A call counts whether it fails or not. -/
theorem fails_hand (k : Sink) (i : Item) (n : Nat) : (k.hand i).2.Fails n ↔ k.Fails (n + 1) := by
  have hcalls : (k.hand i).2.calls = k.calls + 1 := by simp [calls, offered_hand]
  have hsame : (k.hand i).2.failsAt = k.failsAt := by
    unfold hand
    split <;> rfl
  rw [Fails, Fails, hcalls, hsame, Nat.add_assoc, Nat.add_comm 1]

/-- Sinks that fail alike take the same item, or both fail. -/
theorem hand_parallel (h : k.FailsLike l) (i : Item) :
    Parallel k l (k.hand i).2 (l.hand i).2 ∧ (k.hand i).1.isSome = (l.hand i).1.isSome := by
  have hlater : (k.hand i).2.FailsLike (l.hand i).2 := fun n => by
    rw [fails_hand, fails_hand]
    exact h (n + 1)
  have hoffered : ∃ calls, (k.hand i).2.offered = k.offered ++ calls ∧
      (l.hand i).2.offered = l.offered ++ calls := ⟨[i], k.offered_hand i, l.offered_hand i⟩
  by_cases hfails : k.Fails 0
  · have hk := k.hand_of_fails i hfails
    have hl := l.hand_of_fails i ((h 0).1 hfails)
    exact ⟨⟨hoffered, ⟨[], by simp [hk, hl]⟩, hlater⟩, by simp [hk, hl]⟩
  · have hk := k.hand_of_not_fails i hfails
    have hl := l.hand_of_not_fails i (mt (h 0).2 hfails)
    exact ⟨⟨hoffered, ⟨[i], by simp [hk, hl, afterTaking]⟩, hlater⟩, by simp [hk, hl]⟩

/-- **Two sinks that fail alike** are called with the same items, take the same ones, and fail both or
    not at all. -/
theorem handAll_parallel (h : k.FailsLike l) (items : List Item) :
    Parallel k l (k.handAll items).2 (l.handAll items).2 ∧
      (k.handAll items).1.isSome = (l.handAll items).1.isSome := by
  induction items generalizing k l with
  | nil => exact ⟨.refl h, rfl⟩
  | cons i rest ih =>
    obtain ⟨hfirst, hfailed⟩ := hand_parallel h i
    simp only [handAll]
    generalize k.hand i = first at hfirst hfailed ⊢
    generalize l.hand i = first' at hfirst hfailed ⊢
    obtain ⟨failure, next⟩ := first
    obtain ⟨failure', next'⟩ := first'
    rcases both_or_neither hfailed with ⟨_, _, rfl, rfl⟩ | ⟨rfl, rfl⟩
    · exact ⟨hfirst, rfl⟩
    · obtain ⟨hrest, hsame⟩ := ih hfirst.failsLike
      exact ⟨hfirst.trans hrest, hsame⟩

end Sink

/-! ### Two batches -/

/-- Whether an entry is about the spans of a batch.  What a sink gives as its reason is not, and
    whether a sampling percentage is reported depends on what the cache has seen. -/
def LogEntry.isOfSpans : LogEntry → Bool
  | badSamplingPercentage _ => false
  | exportFailed _ => false
  | _ => true

/-- The cache reports nothing but sampling percentages. -/
theorem Span.filter_warnings_readSampling (s : Span) (cache : Sampling.Cache) :
    (s.readSampling cache).warnings.filter LogEntry.isOfSpans = [] := by
  unfold readSampling Sampling.Cache.percentage
  split
  · rfl
  · rename_i text _
    unfold Sampling.Cache.read
    split
    · rfl
    · show (if (Binary64.read? text).isNone then [LogEntry.badSamplingPercentage text]
        else []).filter LogEntry.isOfSpans = []
      split <;> rfl

/-- Two outcomes of a batch, handed to `k` and to `l`, agree on all but the sink's own reasons and a
    cached warning. -/
structure BatchOutcome.Alike (k l : Sink) (o p : BatchOutcome) : Prop where
  log : o.log.filter LogEntry.isOfSpans = p.log.filter LogEntry.isOfSpans
  asked : o.asked = p.asked
  failed : o.failure.isSome = p.failure.isSome
  exported : o.exported = p.exported
  sink : Sink.Parallel k l o.sink p.sink

/-- A span in front, whatever the caches warned about. -/
theorem BatchOutcome.Alike.afterSpan {k l k' l' : Sink} {o p : BatchOutcome}
    (h : BatchOutcome.Alike k' l' o p) (hsinks : Sink.Parallel k l k' l') {log log' : List LogEntry}
    (hlog : log.filter LogEntry.isOfSpans = log'.filter LogEntry.isOfSpans) (asked : List Question)
    (exported : Nat) :
    BatchOutcome.Alike k l (o.afterSpan log asked exported) (p.afterSpan log' asked exported) where
  log := by
    simp only [BatchOutcome.afterSpan, List.filter_append]
    rw [hlog, h.log]
  asked := congrArg (asked ++ ·) h.asked
  failed := h.failed
  exported := congrArg (exported + ·) h.exported
  sink := hsinks.trans h.sink

namespace Exporter

/-- **Two batches.**  A batch comes to the same with two sinks that fail alike, whatever is in the
    caches. -/
theorem sendAll_alike (x : Exporter) (cache cache' : Sampling.Cache) {k l : Sink}
    (h : k.FailsLike l) (spans : List Span) :
    BatchOutcome.Alike k l (x.sendAll cache k spans) (x.sendAll cache' l spans) := by
  -- by induction on the batch, for any two caches and any two sinks that fail alike
  induction spans generalizing cache cache' k l with
  | nil => exact ⟨rfl, rfl, rfl, rfl, .refl h⟩
  | cons s rest ih =>
    -- what the caches warn about is not compared
    have hlog (built : List LogEntry) :
        ((s.readSampling cache).warnings ++ built).filter LogEntry.isOfSpans =
          ((s.readSampling cache').warnings ++ built).filter LogEntry.isOfSpans := by
      simp only [List.filter_append, Span.filter_warnings_readSampling]
    simp only [sendAll, Span.readSampling_value]
    cases (x.mapper.collect s s.samplingPercentage x.withMetrics).items.result with
    | error e =>
      simp only [List.append_assoc]
      exact (ih _ _ h).afterSpan (.refl h) (hlog _) _ _
    | ok items =>
      obtain ⟨hsinks, hfailed⟩ := Sink.handAll_parallel h items
      simp only
      generalize k.handAll items = handed at hsinks hfailed ⊢
      generalize l.handAll items = handed' at hsinks hfailed ⊢
      obtain ⟨failure, next⟩ := handed
      obtain ⟨failure', next'⟩ := handed'
      rcases both_or_neither hfailed with ⟨_, _, rfl, rfl⟩ | ⟨rfl, rfl⟩
      · exact ⟨hlog _, rfl, rfl, rfl, hsinks⟩
      · exact (ih _ _ hsinks.failsLike).afterSpan hsinks (hlog _) _ _

end Exporter

/-! ### Two runs -/

/-- Two answers agree on all but the sink's own reasons and a cached warning. -/
structure Answer.Alike (a b : Answer) : Prop where
  result : a.result = b.result
  items : a.items = b.items
  log : a.log.filter LogEntry.isOfSpans = b.log.filter LogEntry.isOfSpans
  asked : a.asked = b.asked

theorem Answer.Alike.refl (a : Answer) : a.Alike a := ⟨rfl, rfl, rfl, rfl⟩

/-- The report on a batch follows from what two alike outcomes agree on. -/
theorem BatchOutcome.Alike.report {k l : Sink} {o p : BatchOutcome}
    (h : BatchOutcome.Alike k l o p) :
    o.report.1 = p.report.1 ∧
      [o.report.2].filter LogEntry.isOfSpans = [p.report.2].filter LogEntry.isOfSpans := by
  unfold BatchOutcome.report
  rcases both_or_neither h.failed with ⟨failure, failure', hfailure, hfailure'⟩ | ⟨hnone, hnone'⟩
  · simp [hfailure, hfailure', LogEntry.isOfSpans]
  · simp [hnone, hnone', h.exported]

namespace Session

variable {s t : Session}

/-- Sessions with the same exporter answer a batch alike, and their sinks are offered the same. -/
theorem send_alike (hexporter : s.exporter = t.exporter) (hsinks : s.sink.FailsLike t.sink)
    (spans : List Span) :
    (s.send spans).1.Alike (t.send spans).1 ∧
      Sink.Parallel s.sink t.sink (s.send spans).2.sink (t.send spans).2.sink := by
  unfold send
  rw [hexporter]
  split
  -- a refused batch and an empty one do not reach the sink
  · exact ⟨.refl _, .refl hsinks⟩
  · split
    · exact ⟨.refl _, .refl hsinks⟩
    · have h := t.exporter.sendAll_alike s.cache t.cache hsinks spans
      obtain ⟨hresult, hlast⟩ := h.report
      simp only [sendBatch, hexporter]
      refine ⟨⟨hresult, h.sink.drop_taken, ?_, h.asked⟩, h.sink⟩
      simp only [List.filter_append]
      rw [h.log, hlast]

/-- **Two steps.**  A command comes to the same in two sessions that differ in their caches and in
    sinks that fail alike. -/
theorem step_alike (hexporter : s.exporter = t.exporter) (hsinks : s.sink.FailsLike t.sink)
    (c : Command) :
    (s.step c).1.Alike (t.step c).1 ∧
      Sink.Parallel s.sink t.sink (s.step c).2.sink (t.step c).2.sink := by
  cases c with
  | send spans => exact send_alike hexporter hsinks spans
  | _ => exact ⟨.refl _, .refl hsinks⟩

/-- **Two runs** of such sessions have the same answers, and hand on the same items. -/
theorem run_alike (hexporter : s.exporter = t.exporter) (hsinks : s.sink.FailsLike t.sink)
    (commands : List Command) :
    List.Forall₂ Answer.Alike (s.run commands).1 (t.run commands).1 ∧
      Sink.Parallel s.sink t.sink (s.run commands).2.sink (t.run commands).2.sink := by
  induction commands generalizing s t with
  | nil => exact ⟨.nil, .refl hsinks⟩
  | cons c rest ih =>
    obtain ⟨hanswer, hnext⟩ := step_alike hexporter hsinks c
    have hsame : (s.step c).2.exporter = (t.step c).2.exporter := by
      rw [step_exporter, step_exporter, hexporter]
    obtain ⟨hanswers, hlast⟩ := ih hsame hnext.failsLike
    exact ⟨.cons hanswer hanswers, hnext.trans hlast⟩

/-! ### The law of runs -/

/-- **A run follows from what is exported before the first shutdown.**  A sink that takes everything
    is handed the items of these spans, each built with duration metrics as they were switched when it
    was exported; so how the spans are divided into batches does not matter, nor do empty batches and
    flushes.  From the first shutdown on nothing is handed on, and every batch is refused.  A batch,
    also one at which the sink fails, leaves the exporter as it was: it goes on as it would without
    the batch, with a sink that fails alike from then on. -/
theorem run_follows_exports (s : Session) :
    ((∀ n, ¬ s.sink.Fails n) →
      (∀ commands,
        (s.run commands).2.sink = s.sink.afterTaking (s.exporter.history commands)) ∧
      ∀ before rest,
        (∀ first second, (s.run (before ++ .send first :: .send second :: rest)).2.sink =
          (s.run (before ++ .send (first ++ second) :: rest)).2.sink) ∧
        (s.run (before ++ .send [] :: rest)).2.sink = (s.run (before ++ rest)).2.sink ∧
        (s.run (before ++ .flush :: rest)).2.sink = (s.run (before ++ rest)).2.sink) ∧
    (∀ before rest,
      (s.run (before ++ .shutdown :: rest)).1 =
        (s.run before).1 ++ (.shutdown :: rest).map Command.refusal ∧
      (s.run (before ++ .shutdown :: rest)).2.sink = (s.run before).2.sink) ∧
    ∀ spans, (s.send spans).2.exporter = s.exporter ∧
      ∀ k : Sink, (s.send spans).2.sink.FailsLike k → ∀ commands,
        List.Forall₂ Answer.Alike ((s.send spans).2.run commands).1
          (({ s with sink := k } : Session).run commands).1 ∧
        Sink.Parallel (s.send spans).2.sink k ((s.send spans).2.run commands).2.sink
          (({ s with sink := k } : Session).run commands).2.sink := by
  refine ⟨fun htaken => ⟨s.run_sink htaken, fun before rest => ⟨fun first second => ?_, ?_, ?_⟩⟩,
    s.run_shutdown, fun spans => ⟨s.exporter_send spans, fun k hsinks commands => ?_⟩⟩
  · rw [s.run_sink htaken, s.run_sink htaken, Exporter.history_merge]
  · rw [s.run_sink htaken, s.run_sink htaken, Exporter.history_sendNothing]
  · rw [s.run_sink htaken, s.run_sink htaken, Exporter.history_flush]
  · exact run_alike (t := { s with sink := k }) (s.exporter_send spans) hsinks commands

/-- A session whose sink takes everything. -/
def steadySession : Session := { exampleSession with sink := .reliable }

/-- A call that is sent before the shutdown is handed on, one behind it is not.  After a failure of the
    sink a call is handed on as it would have been without it. -/
theorem run_follows_exports_calls :
    (∀ n, ¬ steadySession.sink.Fails n) ∧
      (steadySession.run [.send [exampleCall], .shutdown, .send [exampleCall]]).2.sink.taken.length =
        2 ∧
      (exampleSession.send [exampleCall]).1.result = .failure ∧
      (exampleSession.send [exampleCall]).2.sink.FailsLike .reliable ∧
      List.Forall₂ Answer.Alike
        ((exampleSession.send [exampleCall]).2.run [.send [exampleCall]]).1
        (steadySession.run [.send [exampleCall]]).1 := by
  have htaken : ∀ n, ¬ steadySession.sink.Fails n := Sink.not_fails_reliable
  have hhistory : (steadySession.exporter.history
      [.send [exampleCall], .shutdown, .send [exampleCall]]).length = 2 := by decide +kernel
  have hcalls : (exampleSession.send [exampleCall]).2.sink.calls = 2 := by decide +kernel
  have hsink : (exampleSession.send [exampleCall]).2.sink.failsAt = fun n => n == 1 := rfl
  have hlike : (exampleSession.send [exampleCall]).2.sink.FailsLike .reliable := fun n => by
    -- the call that fails lies behind
    have hbehind : ¬ 2 + n = 1 := by omega
    simp [Sink.Fails, hcalls, hsink, Sink.reliable, hbehind]
  refine ⟨htaken, ?_, by decide +kernel, hlike, ?_⟩
  · rw [(run_follows_exports steadySession).1 htaken |>.1, Sink.afterTaking, List.length_append,
      hhistory]
    rfl
  · exact (((run_follows_exports exampleSession).2.2 [exampleCall]).2 .reliable hlike _).1

end Session

end SpanTelemetry
