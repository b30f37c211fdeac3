import SpanTelemetry.Mapper.Delivery
import SpanTelemetry.Role

namespace SpanTelemetry

/-!
# Exporters

An exporter maps batches of spans and hands the items to a sink until it is shut down.  A span that
cannot be mapped is left out; a failure of the sink ends its batch.

* `Exporter` — a mapper with the switches of the exporter.
* `Exporter.ofConfiguration` — the exporter of a configuration, if its resource can be written.
* `Exporter.sendAll` — map the spans of a batch and hand on their items.
* `Session` — an exporter with its sink and the cache of sampling percentages.
* `Session.step`, `Session.run` — carry out commands.
-/

/-- A mapper with the switches of an exporter. -/
structure Exporter where
  mapper : Mapper
  /-- Whether duration metrics are sent. -/
  withMetrics : Bool := false
  isShutdown : Bool := false

/-- The mapper of a configuration, without defaults for its items. -/
def Mapper.ofConfiguration (c : Configuration) : Mapper where
  statusCodesFail := c.statusCodesFail.getD false

/-- An exporter that sends metrics as a configuration says. -/
def Exporter.ofMapper (c : Configuration) (m : Mapper) : Exporter where
  mapper := m
  withMetrics := c.preaggregatedMetrics.getD false

/-- The exporter of a configuration. The suppressor and the id of this component are not part of the
    configuration. -/
def Exporter.ofConfiguration (c : Configuration) (resource : Attributes) (hostName : String)
    (suppressor : SpanEvent → Option String → Bool) (appId : Option String) :
    Text.Written Exporter := do
  let defaults ← c.defaults resource hostName
  pure (.ofMapper c {
    Mapper.ofConfiguration c with
    initializer := fun i => .ok { item := defaults.apply i }
    suppressor
    appId })

/-! ### Batches -/

/-- What is known after a batch. -/
structure BatchOutcome where
  log : List LogEntry
  /-- What the suppressor was asked. -/
  asked : List Question
  /-- The failure of the sink that ended the batch early. -/
  failure : Option SinkFailure
  /-- The number of spans whose items were all taken. -/
  exported : Nat
  cache : Sampling.Cache
  sink : Sink

/-- The outcome with an earlier span in front. -/
def BatchOutcome.afterSpan (log : List LogEntry) (asked : List Question) (exported : Nat)
    (o : BatchOutcome) : BatchOutcome :=
  { o with log := log ++ o.log, asked := asked ++ o.asked, exported := exported + o.exported }

/-- The report on a span that is left out. -/
def Span.leftOut (s : Span) (e : MappingError) : LogEntry :=
  match e.message? with
  | some reason => .skipped s.name reason
  | none => .notMapped s.name

namespace Exporter

/-- The exporter shut down. -/
def shutdown (x : Exporter) : Exporter := { x with isShutdown := true }

/-- The exporter with duration metrics or without. -/
def setMetrics (x : Exporter) (on : Bool) : Exporter := { x with withMetrics := on }

/-- Map the spans of a batch and hand on the items of each before the next is mapped. -/
def sendAll (x : Exporter) (cache : Sampling.Cache) (sink : Sink) : List Span → BatchOutcome
  | [] => ⟨[], [], none, 0, cache, sink⟩
  | s :: rest =>
      let sampling := s.readSampling cache
      let built := x.mapper.collect s sampling.value x.withMetrics
      let log := sampling.warnings ++ built.items.warnings
      match built.items.result with
      | .error e =>
          (x.sendAll sampling.cache sink rest).afterSpan (log ++ [s.leftOut e]) built.asked 0
      | .ok items =>
          match sink.handAll items with
          | (some failure, sink) => ⟨log, built.asked, some failure, 0, sampling.cache, sink⟩
          | (none, sink) => (x.sendAll sampling.cache sink rest).afterSpan log built.asked 1

end Exporter

/-! ### Commands -/

/-- What a program asks of an exporter. -/
inductive Command where
  /-- Export a batch of spans. -/
  | send (spans : List Span)
  /-- Refuse all later batches. -/
  | shutdown
  /-- Hand on what is buffered; an exporter buffers nothing. -/
  | flush
  /-- Start or stop sending duration metrics. -/
  | setMetrics (on : Bool)

/-- What a command comes to. -/
inductive CommandResult where
  /-- The batch was exported, spans that cannot be mapped apart. -/
  | success
  /-- The batch was refused, or the sink failed. -/
  | failure
  /-- Nothing is buffered any more. -/
  | flushed
  /-- The switch is set. -/
  | noted
  deriving DecidableEq, Repr

/-- The answer to a command. -/
structure Answer where
  result : CommandResult
  /-- What the sink took. -/
  items : List Item := []
  log : List LogEntry := []
  /-- What the suppressor was asked. -/
  asked : List Question := []

/-- The result of a batch, and the last thing that is reported about it. -/
def BatchOutcome.report (o : BatchOutcome) : CommandResult × LogEntry :=
  match o.failure with
  | some failure => (.failure, .exportFailed failure.reason)
  | none => (.success, .exported o.exported)

/-- An exporter with its sink and the cache of sampling percentages. -/
structure Session where
  exporter : Exporter
  cache : Sampling.Cache := .empty
  sink : Sink := .reliable

namespace Session

/-- Export a batch that is not empty by an exporter that is not shut down. -/
def sendBatch (s : Session) (spans : List Span) : Answer × Session :=
  let o := s.exporter.sendAll s.cache s.sink spans
  let (result, last) := o.report
  let items := o.sink.taken.drop s.sink.taken.length
  (⟨result, items, o.log ++ [last], o.asked⟩, { s with cache := o.cache, sink := o.sink })

/-- Export a batch, unless the exporter is shut down. Of an empty batch nothing is reported. -/
def send (s : Session) (spans : List Span) : Answer × Session :=
  if s.exporter.isShutdown then ({ result := .failure, log := [.alreadyShutdown] }, s)
  else if spans.isEmpty then ({ result := .success }, s)
  else s.sendBatch spans

/-- Carry out a command. -/
def step (s : Session) : Command → Answer × Session
  | .send spans => s.send spans
  | .shutdown => ({ result := .noted }, { s with exporter := s.exporter.shutdown })
  | .flush => ({ result := .flushed }, s)
  | .setMetrics on => ({ result := .noted }, { s with exporter := s.exporter.setMetrics on })

/-- Carry out commands one after the other. -/
def run (s : Session) : List Command → List Answer × Session
  | [] => ([], s)
  | c :: rest =>
      let (answer, next) := s.step c
      let (answers, last) := next.run rest
      (answer :: answers, last)

end Session

end SpanTelemetry
