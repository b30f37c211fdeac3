namespace SpanTelemetry.Text

/-!
# Runs of code points

Properties of characters are kept as runs of code points that have them.

* `inRuns` — whether a code point lies in one of the runs.
-/

/-- Whether a code point lies in one of the given runs; both ends of a run belong to it. -/
def inRuns (runs : List (Nat × Nat)) (code : Nat) : Bool :=
  runs.any fun (first, last) => decide (first ≤ code) && decide (code ≤ last)

end SpanTelemetry.Text
