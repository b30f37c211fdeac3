import SpanTelemetry.Item.Basic
import SpanTelemetry.Text.Basic

namespace SpanTelemetry

/-!
# Sinks

A sink takes items one at a time and may fail at any of them.  Which calls fail is given by
their numbers, counted over the whole life of the sink.

* `Sink` — a sink with what it has taken so far.
* `Sink.hand` — hand an item to a sink.
* `Sink.handAll` — hand items to a sink until it fails.
-/

/-- A sink with its history. -/
structure Sink where
  /-- Whether the sink fails at the call of a number. -/
  failsAt : Nat → Bool
  /-- The items that it was called with. -/
  offered : List Item := []
  /-- The items that it took. -/
  taken : List Item := []

/-- The failure of a sink at a call. -/
structure SinkFailure where
  call : Nat
  deriving DecidableEq, Repr

/-- The reason that a sink gives for a failure. -/
def SinkFailure.reason (f : SinkFailure) : String := "sink down at " ++ Text.integer f.call

namespace Sink

/-- A sink that takes everything. -/
def reliable : Sink := { failsAt := fun _ => false }

/-- The number of calls so far. -/
def calls (k : Sink) : Nat := k.offered.length

/-- Hand an item to a sink: it takes the item or fails, and the call counts either way. -/
def hand (k : Sink) (i : Item) : Option SinkFailure × Sink :=
  if k.failsAt k.calls then (some ⟨k.calls⟩, { k with offered := k.offered ++ [i] })
  else (none, { k with offered := k.offered ++ [i], taken := k.taken ++ [i] })

/-- Hand items to a sink one after the other, up to the first failure. -/
def handAll (k : Sink) : List Item → Option SinkFailure × Sink
  | [] => (none, k)
  | i :: rest =>
      match k.hand i with
      | (some failure, k) => (some failure, k)
      | (none, k) => k.handAll rest

end Sink

end SpanTelemetry
