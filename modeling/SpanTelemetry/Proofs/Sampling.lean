import SpanTelemetry.Mapper.Delivery

namespace SpanTelemetry.Sampling

/-!
# The sampling cache is invisible

* `Cache.read_value` — a cached text gives what reading it gives, whatever the cache holds.
* `Cache.percentage_value` — hence a trace state has the percentage that it has without a cache.
* `percentage_isSome` — a percentage with a number to fall back on is a number.
-/

namespace Cache

/-- Reading a text through a cache gives what reading it without one gives. -/
@[simp] theorem read_value (cache : Cache) (text : String) :
    (cache.read text).value = Binary64.read? text := by
  unfold read
  split
  · rename_i e he
    have htext : e.text = text := by simpa using List.find?_some he
    rw [← htext]
    exact e.isReading
  · rfl

/-- The percentage of a trace state is the same with a cache and without. -/
@[simp] theorem percentage_value (cache : Cache) (state : Option TraceState) (fallback : Quantity) :
    (cache.percentage state fallback).value = Sampling.percentage state fallback := by
  unfold percentage Sampling.percentage
  cases text? state with
  | none => rfl
  | some text => simp

end Cache

/-- A percentage with a number to fall back on is a number. -/
theorem percentage_isSome (state : Option TraceState) {fallback : Quantity}
    (h : fallback.isSome) : (percentage state fallback).isSome := by
  simp [percentage, h]

end SpanTelemetry.Sampling

namespace SpanTelemetry.Span

/-- The percentage of a span is the same with a cache and without. -/
@[simp] theorem readSampling_value (s : Span) (cache : Sampling.Cache) :
    (s.readSampling cache).value = s.samplingPercentage :=
  cache.percentage_value _ _

end SpanTelemetry.Span
