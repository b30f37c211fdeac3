import SpanTelemetry.Binary64.Reading
import SpanTelemetry.Log
import SpanTelemetry.Quantity
import SpanTelemetry.Span

namespace SpanTelemetry.Sampling

/-!
# Sampling percentages

The percentage at which a trace is sampled travels in its trace state.  Reading it is cached,
because most spans carry one of few texts, and so that a text that is no number is reported once.

* `percentage` — the percentage of a trace state, without a cache.
* `Cache` — the percentages of the texts that were read last.
* `Cache.percentage` — the percentage of a trace state, with the warnings and the next cache.
-/

/-- The key of the sampling percentage in a trace state. -/
abbrev traceStateKey : String := "ai-internal-sp"

/-- The percentage of traces that carry none: everything is sampled. -/
def everything : Quantity := .double (Binary64.ofNat 100)

/-- The text of the sampling percentage of a trace state that may be missing. -/
def text? (state : Option TraceState) : Option String := state.bind (·.get? traceStateKey)

/-- The sampling percentage of a trace state, or `fallback` if it carries none that is a number. -/
def percentage (state : Option TraceState) (fallback : Quantity) : Quantity :=
  (((text? state).bind Binary64.read?).map Scalar.double).or fallback

/-! ### The cache -/

/-- What was read from a text. -/
structure CacheEntry where
  text : String
  percentage : Option Binary64
  /-- It is what reading the text gives. -/
  isReading : percentage = Binary64.read? text
  deriving DecidableEq, Repr

/-- The results of the texts that were read last, the most recent one first. -/
structure Cache where
  entries : List CacheEntry
  deriving DecidableEq, Repr

/-- An answer of the cache: a result, the warnings given on the way, and the next cache. -/
structure Reading (α : Type) where
  value : α
  warnings : List LogEntry
  cache : Cache
  deriving Repr

namespace Cache

/-- The number of texts that the cache remembers. -/
def capacity : Nat := 100

/-- The cache before anything was read. -/
def empty : Cache := ⟨[]⟩

instance : Inhabited Cache := ⟨empty⟩

/-- Read a text. A text that is remembered moves to the front; another one is read, with a
    warning if it is no number, and displaces the text that was not asked for the longest. -/
def read (cache : Cache) (text : String) : Reading (Option Binary64) :=
  match cache.entries.find? fun e => e.text = text with
  | some e =>
      ⟨e.percentage, [], ⟨e :: cache.entries.filter fun f => f.text ≠ text⟩⟩
  | none =>
      let value := Binary64.read? text
      let warnings := if value.isNone then [.badSamplingPercentage text] else []
      ⟨value, warnings, ⟨(⟨text, value, rfl⟩ :: cache.entries).take capacity⟩⟩

/-- The sampling percentage of a trace state, or `fallback` if it carries none that is a number. -/
def percentage (cache : Cache) (state : Option TraceState) (fallback : Quantity) :
    Reading Quantity :=
  match text? state with
  | none => ⟨fallback, [], cache⟩
  | some text =>
      let reading := cache.read text
      ⟨(reading.value.map Scalar.double).or fallback, reading.warnings, reading.cache⟩

/-- The sampling percentages of trace states that are read one after the other. -/
def percentages (cache : Cache) :
    List (Option TraceState × Quantity) → Reading (List Quantity)
  | [] => ⟨[], [], cache⟩
  | (state, fallback) :: rest =>
      let first := cache.percentage state fallback
      let more := first.cache.percentages rest
      ⟨first.value :: more.value, first.warnings ++ more.warnings, more.cache⟩

end Cache

end SpanTelemetry.Sampling
