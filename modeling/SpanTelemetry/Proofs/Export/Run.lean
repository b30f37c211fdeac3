import SpanTelemetry.Proofs.Export.Batch

namespace SpanTelemetry

/-!
# Runs of an exporter

What an exporter hands to a sink that takes everything follows from the spans that are exported before
the first shutdown, and from nothing else that the exporter is asked.

* `Command.exports` — these spans, each with the switch for duration metrics as it was set then.
* `Exporter.history` — the items of these spans.
* `Session.step_exporter`, `Session.step_sink` — one command, and what it hands on.
* `Session.run_sink` — after a run the sink has taken the history.
* `Exporter.history_merge`, `Exporter.history_sendNothing`, `Exporter.history_flush` — what has no
  part in the history.
* `Session.run_of_isShutdown` — after the shutdown every batch is refused.
-/

/-! ### The history -/

/-- The spans that are exported before the first shutdown, each with whether duration metrics are
    wanted at that point. -/
def Command.exports (withMetrics : Bool) : List Command → List (Bool × Span)
  | [] => []
  | .send spans :: rest => spans.map (withMetrics, ·) ++ exports withMetrics rest
  | .shutdown :: _ => []
  | .flush :: rest => exports withMetrics rest
  | .setMetrics on :: rest => exports on rest

namespace Exporter

/-- The items of the spans that are exported before the first shutdown, one span after the other; a
    span that cannot be mapped has none. -/
def history (x : Exporter) (commands : List Command) : List Item :=
  if x.isShutdown then []
  else ((Command.exports x.withMetrics commands).filterMap fun e =>
    (x.setMetrics e.1).items? e.2).flatten

/-- The exporter after a command. -/
def after (x : Exporter) : Command → Exporter
  | .send _ => x
  | .shutdown => x.shutdown
  | .flush => x
  | .setMetrics on => x.setMetrics on

/-- What a command hands on. -/
def handsOn (x : Exporter) : Command → List Item
  | .send spans => if x.isShutdown then [] else x.batchItems spans
  | _ => []

variable (x : Exporter)

@[simp] theorem setMetrics_self : x.setMetrics x.withMetrics = x := rfl

@[simp] theorem setMetrics_setMetrics (on off : Bool) :
    (x.setMetrics on).setMetrics off = x.setMetrics off := rfl

@[simp] theorem isShutdown_setMetrics (on : Bool) : (x.setMetrics on).isShutdown = x.isShutdown := rfl

@[simp] theorem withMetrics_setMetrics (on : Bool) : (x.setMetrics on).withMetrics = on := rfl

theorem history_of_isShutdown (h : x.isShutdown = true) (commands : List Command) :
    x.history commands = [] := if_pos h

/-- As long as it is open, an exporter hands on what belongs to the spans that it is sent. -/
theorem history_of_open (h : x.isShutdown = false) (commands : List Command) :
    x.history commands = ((Command.exports x.withMetrics commands).filterMap fun e =>
      (x.setMetrics e.1).items? e.2).flatten := by
  simp [history, h]

@[simp] theorem history_nil : x.history [] = [] := by
  simp [history, Command.exports]

/-- **One command** of a history: what it hands on stands before the rest of the history. -/
theorem history_cons (c : Command) (rest : List Command) :
    x.history (c :: rest) = x.handsOn c ++ (x.after c).history rest := by
  cases hshut : x.isShutdown with
  | true =>
    -- no command opens it again, so that both sides are empty
    have hafter : (x.after c).isShutdown = true := by cases c <;> simp [after, hshut, shutdown]
    rw [history_of_isShutdown _ hshut, history_of_isShutdown _ hafter]
    cases c <;> simp [handsOn, hshut]
  | false =>
    rw [history_of_open _ hshut]
    cases c with
    | send spans =>
      -- for all spans of the batch the switch is as it is now
      simp [Command.exports, handsOn, after, hshut, history_of_open, batchItems,
        List.filterMap_map, Function.comp_def]
    | shutdown => simp [Command.exports, handsOn, after, history_of_isShutdown, shutdown]
    | flush => simp [Command.exports, handsOn, after, history_of_open, hshut]
    | setMetrics on => simp [Command.exports, handsOn, after, history_of_open, hshut]

/-- A history in two parts: the second is that of the exporter as the first part leaves it. -/
theorem history_append (before rest : List Command) :
    x.history (before ++ rest) = x.history before ++ (before.foldl after x).history rest := by
  induction before generalizing x with
  | nil => simp
  | cons c before ih =>
    rw [List.cons_append, history_cons, history_cons, ih, List.append_assoc]
    rfl

/-! ### What has no part in the history -/

variable (before rest : List Command)

/-- Where a batch ends and the next begins does not matter. -/
theorem history_merge (first second : List Span) :
    x.history (before ++ .send first :: .send second :: rest) =
      x.history (before ++ .send (first ++ second) :: rest) := by
  simp only [history_append, history_cons, handsOn, after]
  split <;> simp [batchItems_append]

/-- A batch without spans leaves no trace in the history. -/
theorem history_sendNothing : x.history (before ++ .send [] :: rest) = x.history (before ++ rest) := by
  simp [history_append, history_cons, handsOn, after]

/-- Nor does a flush. -/
theorem history_flush : x.history (before ++ .flush :: rest) = x.history (before ++ rest) := by
  simp [history_append, history_cons, handsOn, after]

end Exporter

namespace Session

variable (s : Session)

/-! ### One command -/

/-- Neither the items of a batch nor what the sink makes of them changes the exporter. -/
@[simp] theorem exporter_send (spans : List Span) : (s.send spans).2.exporter = s.exporter := by
  unfold send
  split
  · rfl
  · split <;> rfl

/-- A step changes the exporter as its command says, whatever the sink does. -/
theorem step_exporter (c : Command) : (s.step c).2.exporter = s.exporter.after c := by
  cases c with
  | send spans => exact s.exporter_send spans
  | _ => rfl

/-- **What one command hands on**, whatever the sink makes of it. -/
theorem step_sink (c : Command) :
    (s.step c).2.sink = (s.sink.handAll (s.exporter.handsOn c)).2 := by
  cases c with
  | send spans =>
    cases hshut : s.exporter.isShutdown with
    | true => simp [step, send, Exporter.handsOn, hshut, Sink.handAll]
    | false => simp [step, Exporter.handsOn, hshut, send_sink, handing]
  | _ => rfl

/-! ### Runs -/

theorem run_cons (c : Command) (rest : List Command) :
    s.run (c :: rest) =
      ((s.step c).1 :: ((s.step c).2.run rest).1, ((s.step c).2.run rest).2) := rfl

/-- Commands may be carried out in two runs. -/
theorem run_append (before rest : List Command) :
    s.run (before ++ rest) =
      ((s.run before).1 ++ ((s.run before).2.run rest).1, ((s.run before).2.run rest).2) := by
  induction before generalizing s with
  | nil => rfl
  | cons c before ih => simp only [List.cons_append, run_cons, ih]

/-- **What a run hands on** to a sink that takes everything is its history. -/
theorem run_sink (htaken : ∀ n, ¬ s.sink.Fails n) (commands : List Command) :
    (s.run commands).2.sink = s.sink.afterTaking (s.exporter.history commands) := by
  -- by induction on the commands: each leaves a sink that still takes everything
  induction commands generalizing s with
  | nil => simp [run]
  | cons c rest ih =>
    have hstep : (s.step c).2.sink = s.sink.afterTaking (s.exporter.handsOn c) := by
      rw [step_sink, Sink.handAll_of_taken fun n _ => htaken n]
    have hnext : ∀ n, ¬ (s.step c).2.sink.Fails n := by
      rw [hstep]
      exact s.sink.takes_afterTaking htaken _
    rw [run_cons, ih _ hnext, hstep, step_exporter, Sink.afterTaking_append,
      Exporter.history_cons]

end Session

/-! ### After the shutdown -/

/-- The answer to a command after the shutdown. -/
def Command.refusal : Command → Answer
  | .send _ => { result := .failure, log := [.alreadyShutdown] }
  | .flush => { result := .flushed }
  | _ => { result := .noted }

namespace Session

/-- **After the shutdown** every batch is refused, and nothing is handed on. -/
theorem run_of_isShutdown (s : Session) (h : s.exporter.isShutdown = true)
    (commands : List Command) :
    (s.run commands).1 = commands.map Command.refusal ∧ (s.run commands).2.sink = s.sink := by
  induction commands generalizing s with
  | nil => exact ⟨rfl, rfl⟩
  | cons c rest ih =>
    have hnext : (s.step c).2.exporter.isShutdown = true := by
      rw [step_exporter]
      cases c <;> simp [Exporter.after, Exporter.shutdown, h]
    have hanswer : (s.step c).1 = c.refusal := by
      cases c <;> simp [step, send, Command.refusal, h]
    have hsink : (s.step c).2.sink = s.sink := by
      cases c <;> simp [step, send, h]
    obtain ⟨hanswers, hlast⟩ := ih _ hnext
    rw [run_cons]
    exact ⟨by simp only [hanswer, hanswers, List.map_cons], hlast.trans hsink⟩

/-- A shutdown ends what is handed on. -/
theorem run_shutdown (s : Session) (before rest : List Command) :
    (s.run (before ++ .shutdown :: rest)).1 =
        (s.run before).1 ++ (.shutdown :: rest).map Command.refusal ∧
      (s.run (before ++ .shutdown :: rest)).2.sink = (s.run before).2.sink := by
  obtain ⟨hanswers, hsink⟩ :=
    run_of_isShutdown ((s.run before).2.step .shutdown).2 rfl rest
  rw [run_append, run_cons]
  exact ⟨by simp only [hanswers, List.map_cons]; rfl, hsink⟩

end Session

end SpanTelemetry
