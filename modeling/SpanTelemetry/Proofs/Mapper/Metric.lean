import SpanTelemetry.Mapper.Metric
import SpanTelemetry.Proofs.Binary64.Overflow
import SpanTelemetry.Proofs.Mapping
import SpanTelemetry.Proofs.Protocol.Written
import SpanTelemetry.Proofs.Table
import SpanTelemetry.Proofs.Value.Text

namespace SpanTelemetry

/-!
# What is known of metric items

* `View.get?_apply` — what a view lets through.
* `IsMetric` — the items of this kind.
* `HoldsPoint` — those that are nothing but one value with its dimensions.
* `holdsPoint_request`, `holdsPoint_dependency` — the metrics of calls are such.
* `exists_durationMillis_iff` — which durations are doubles.
* `Writable`, `value?_reviewView_iff` — which metrics can be written.
* `metricOf?`, `value?_ofSpan_iff` — when a span has a metric, and which.
* `instrument`, `holdsPoint_ofSpan` — the metric of a span is its duration, by the name of its instrument.
* `exists_holdsPoint_ofSpan`, `isMetric_ofSpan` — so it is one of them.
* `exists_metric_iff`, `value?_ofSpan_of_not_writable`, `value?_ofSpan_of_not_measured` — which spans have a
  metric.
-/

/-! ### Views -/

/-- A view lets the attributes through that it lists. -/
theorem View.get?_apply (view : View) (attributes : Attributes) (key : String) :
    (view.apply attributes ∅).get? key = if key ∈ view then attributes.get? key else none := by
  have hnone : view.apply attributes ∅ = attributes.filter fun key _ => view.contains key := rfl
  rw [hnone, Table.get?_filter]
  by_cases hkey : key ∈ view
  · rw [if_pos hkey]
    cases attributes.get? key <;> simp [hkey]
  · rw [if_neg hkey]
    cases attributes.get? key <;> simp [hkey]

namespace Metric

/-! ### Items that are metrics -/

/-- An item whose payload is a metric. -/
def IsMetric (i : Item) : Prop := ∃ d, i.data = .metric d

/-- An item that is nothing but one measured value with its dimensions: it has no time, no instrumentation
    key, no sample rate and no tags. -/
def HoldsPoint (i : Item) (p : MetricPoint) : Prop :=
  ∃ properties, i = { data := .metric { metrics := [p], properties } }

section HoldsPoint

variable {i : Item} {p : MetricPoint}

theorem HoldsPoint.isMetric (h : HoldsPoint i p) : IsMetric i := by
  obtain ⟨properties, rfl⟩ := h
  exact ⟨_, rfl⟩

/-- A dimension is nothing but a property. -/
theorem HoldsPoint.addProperty (h : HoldsPoint i p) (key value : String) :
    HoldsPoint (i.addProperty key value) p := by
  obtain ⟨properties, rfl⟩ := h
  exact ⟨_, rfl⟩

/-- So is one that may be missing. -/
theorem HoldsPoint.addDimension? (h : HoldsPoint i p) (key : String) (value : Option String) :
    HoldsPoint (addDimension? i key value) p := by
  cases value with
  | none => exact h
  | some text => exact h.addProperty key text

/-- The dimensions of a view are nothing but properties. -/
theorem HoldsPoint.addView (h : HoldsPoint i p) (es : List (String × Value)) :
    HoldsPoint (es.foldl addViewAttribute i) p := by
  induction es generalizing i with
  | nil => exact h
  | cons e rest ih => exact ih (h.addDimension? e.1 (dimensionText? e.2))

end HoldsPoint

/-- A value that was measured once: it is the least and the greatest one, too. -/
def singlePoint (name : String) (value : Quantity) : MetricPoint :=
  { name, value, count := .int 1, min := value, max := value }

section Items

variable (name : String) (value : Quantity) (attributes : Attributes)
  (resultCode : Option String) (success : Bool) (isSynthetic : Option Bool)

/-- What all metrics of calls have in common. -/
theorem holdsPoint_item :
    HoldsPoint (item name value attributes isSynthetic) (singlePoint name value) :=
  ((HoldsPoint.addView ⟨_, rfl⟩ attributes.entries).addProperty _ _).addDimension? _ _

/-- The metric of a request is one point with its dimensions. -/
theorem holdsPoint_request :
    HoldsPoint (request name value attributes resultCode success isSynthetic)
      (singlePoint name value) :=
  (((holdsPoint_item name value attributes isSynthetic).addProperty _ _).addDimension?
    _ _).addProperty _ _

/-- So is that of a dependency. -/
theorem holdsPoint_dependency (type target : Option String) :
    HoldsPoint (dependency name value attributes resultCode success type target isSynthetic)
      (singlePoint name value) :=
  (((((holdsPoint_item name value attributes isSynthetic).addProperty _ _).addDimension?
    _ _).addProperty _ _).addDimension? _ _).addDimension? _ _

end Items

/-! ### Durations -/

/-- A duration in milliseconds is a double unless it is too large for one. -/
theorem exists_durationMillis_iff {s : Span} :
    (∃ millis, durationMillis s = .ok millis) ↔
      s.durationNanos.natAbs < Binary64.overflowBound * nanosPerMilli := by
  have hpos : 0 < nanosPerMilli := by decide
  simp only [durationMillis, doubleOrError_eq_ok_iff]
  rw [← Option.ne_none_iff_exists', ne_eq, Binary64.ofIntQuotient?_eq_none_iff hpos, Nat.not_le]

/-- HTTP and RPC calls are measured. -/
theorem isMeasured_iff {attributes : Attributes} :
    isMeasured attributes = true ↔
      (∃ method, attributes.string? AttributeKey.httpMethod = some method) ∨
        ∃ system, attributes.string? AttributeKey.rpcSystem = some system := by
  simp [isMeasured, isRpc, Option.isSome_iff_exists, or_comm]

/-! ### Texts -/

/-- The view of the attributes that the metric of a call carries, by the side of the call. -/
def viewOf : ItemData → View
  | .request _ => View.server
  | _ => View.client

/-- A metric can be written: neither an attribute that its view lets through nor the status code has an
    integer with too many digits. -/
structure Writable (attributes : Attributes) (data : ItemData) : Prop where
  view : ∀ key ∈ viewOf data, ∀ value, attributes.get? key = some value → ¬ value.HasLongInteger
  code : ∀ code, attributes.statusCode? = some code → code.natAbs < 10 ^ Text.maxDigits

/-- Attributes that can be written make a metric that can. -/
theorem Writable.of_hasNoLongInteger {attributes : Attributes} (h : attributes.HasNoLongInteger)
    (data : ItemData) : Writable attributes data where
  view key _ value hvalue := h key value hvalue
  code _ hcode := h.statusCode hcode

/-- An attribute passes a view unless its text cannot be written. -/
theorem value?_reviewDimension_iff {value : Value} :
    (reviewDimension value).value? = some () ↔ ¬ value.HasLongInteger := by
  unfold reviewDimension
  cases htext : value.text? with
  | none =>
    refine iff_of_true rfl fun hlong => ?_
    obtain ⟨e, he⟩ := Value.exists_text?_eq_error_iff.2 hlong
    rw [htext] at he
    cases he
  | some text =>
    cases text with
    | ok text => exact iff_of_true rfl (Value.text?_eq_ok_iff.1 htext).2
    | error e => exact iff_of_false nofun fun h => h (Value.exists_text?_eq_error_iff.1 ⟨e, htext⟩)

/-- The attributes of a view pass unless the text of one of them cannot be written. -/
theorem value?_reviewView_iff {view : View} {attributes : Attributes} :
    (reviewView (view.apply attributes ∅)).value? = some () ↔
      ∀ key ∈ view, ∀ value, attributes.get? key = some value → ¬ value.HasLongInteger := by
  simp only [reviewView, Mapping.value?_forM_iff, value?_reviewDimension_iff, Prod.forall,
    Table.mem_entries_iff, View.get?_apply]
  constructor
  · intro h key hkey value hvalue
    exact h key value (by rw [if_pos hkey, hvalue])
  · intro h key value hvalue
    split at hvalue
    · rename_i hkey
      exact h key hkey value hvalue
    · cases hvalue

/-! ### The metric of a span -/

/-- The name of the instrument that measures a call, by its protocol and its side. -/
def instrument (attributes : Attributes) : ItemData → String
  | .request _ => if isRpc attributes then "rpc.server.duration" else "http.server.duration"
  | _ => if isRpc attributes then "rpc.client.duration" else "http.client.duration"

/-- The metric of a call of the given length, as it is sent if it can be written. -/
def metricOf? (attributes : Attributes) (millis : Binary64) (data : ItemData) : Option Item :=
  let view := (viewOf data).apply attributes ∅
  let code := attributes.statusCode?.map Text.integer
  match data with
  | .request d =>
      some (request (instrument attributes data) (.double millis) view code d.success none)
  | .dependency d =>
      some (dependency (instrument attributes data) (.double millis) view code d.success d.type
        d.target none)
  | _ => none

/-- A metric can be built iff its view passes and its status code can be written. -/
theorem value?_written_iff {attributes : Attributes} (data : ItemData)
    {build : Option String → Item} {metric : Item} :
    (reviewView ((viewOf data).apply attributes ∅) >>= fun _ =>
        Mapping.written (attributes.statusCode?.mapM Text.ofInt) >>= fun code =>
          pure (some (build code))).value? = some (some metric) ↔
      Writable attributes data ∧ build (attributes.statusCode?.map Text.integer) = metric := by
  simp only [Mapping.value?_bind, Mapping.value?_written, Option.bind_eq_some_iff,
    Mapping.toOption_eq_some_iff, mapM_ofInt_eq_ok_iff, Mapping.pure_eq, Mapping.value?_ok,
    Option.some.injEq]
  constructor
  · rintro ⟨⟨⟩, hview, code, ⟨hcode, rfl⟩, hmetric⟩
    exact ⟨⟨value?_reviewView_iff.1 hview, hcode⟩, hmetric⟩
  · rintro ⟨⟨hview, hcode⟩, hmetric⟩
    exact ⟨(), value?_reviewView_iff.2 hview, _, ⟨hcode, rfl⟩, hmetric⟩

section OfSpan

variable {s : Span} {i metric : Item}

/-- **A span has a metric** iff it belongs to an HTTP or RPC call, its duration is a double, and the metric
    can be written. -/
theorem value?_ofSpan_iff : (ofSpan s i).value? = some (some metric) ↔
    isMeasured s.attributes = true ∧ ∃ millis, durationMillis s = .ok millis ∧
      Writable s.attributes i.data ∧ metricOf? s.attributes millis i.data = some metric := by
  unfold ofSpan
  by_cases hmeasured : isMeasured s.attributes = true
  swap
  · simp [hmeasured]
  simp only [hmeasured, if_true, true_and, Mapping.value?_bind, Mapping.value?_ofExcept,
    Option.bind_eq_some_iff, Mapping.toOption_eq_some_iff]
  refine exists_congr fun millis => and_congr_right fun _ => ?_
  cases hdata : i.data with
  | request d =>
    simp only [metricOf?, Option.some.injEq]
    exact value?_written_iff (.request d)
  | dependency d =>
    simp only [metricOf?, Option.some.injEq]
    exact value?_written_iff (.dependency d)
  | _ => simp [metricOf?]

/-- **The metric of a span** is its duration as its instrument measured it, once. -/
theorem holdsPoint_ofSpan (h : (ofSpan s i).value? = some (some metric)) :
    isMeasured s.attributes = true ∧ ∃ millis, durationMillis s = .ok millis ∧
      HoldsPoint metric (singlePoint (instrument s.attributes i.data) (.double millis)) := by
  obtain ⟨hmeasured, millis, hmillis, -, hmetric⟩ := value?_ofSpan_iff.1 h
  refine ⟨hmeasured, millis, hmillis, ?_⟩
  -- only requests and dependencies have a metric
  cases hdata : i.data with
  | request d =>
    rw [hdata] at hmetric
    obtain rfl := Option.some.inj hmetric
    exact holdsPoint_request ..
  | dependency d =>
    rw [hdata] at hmetric
    obtain rfl := Option.some.inj hmetric
    exact holdsPoint_dependency ..
  | _ => simp [hdata, metricOf?] at hmetric

/-- The metric of a span is one measured value with its dimensions. -/
theorem exists_holdsPoint_ofSpan (h : (ofSpan s i).value? = some (some metric)) :
    ∃ p, HoldsPoint metric p := by
  obtain ⟨-, millis, -, hpoint⟩ := holdsPoint_ofSpan h
  exact ⟨_, hpoint⟩

/-- The metric of a span has the payload of a metric. -/
theorem isMetric_ofSpan (h : (ofSpan s i).value? = some (some metric)) : IsMetric metric := by
  obtain ⟨p, hp⟩ := exists_holdsPoint_ofSpan h
  exact hp.isMetric

/-- Requests and dependencies have a metric, as far as it can be written. -/
theorem isSome_metricOf? (attributes : Attributes) (millis : Binary64) (data : ItemData) :
    (metricOf? attributes millis data).isSome = data.isOfSpan := by
  cases data <;> rfl

/-- An HTTP or RPC call whose item is a request or a dependency, and whose duration is a double, has a
    metric iff that can be written. -/
theorem exists_metric_iff (hmeasured : isMeasured s.attributes = true)
    (hspan : i.data.isOfSpan = true) {millis : Binary64} (hmillis : durationMillis s = .ok millis) :
    (∃ metric, (ofSpan s i).value? = some (some metric)) ↔ Writable s.attributes i.data := by
  simp only [value?_ofSpan_iff]
  constructor
  · rintro ⟨metric, -, _, -, hwritable, -⟩
    exact hwritable
  · intro hwritable
    obtain ⟨metric, hmetric⟩ := Option.isSome_iff_exists.1
      ((isSome_metricOf? s.attributes millis i.data).trans hspan)
    exact ⟨metric, hmeasured, millis, hmillis, hwritable, hmetric⟩

/-- It is not taken for a span without a metric. -/
theorem value?_ofSpan_ne_some_none (hmeasured : isMeasured s.attributes = true)
    (hspan : i.data.isOfSpan = true) : (ofSpan s i).value? ≠ some none := by
  intro hnone
  simp only [ofSpan, hmeasured, if_true, Mapping.value?_bind, Option.bind_eq_some_iff] at hnone
  obtain ⟨millis, -, hnone⟩ := hnone
  cases hdata : i.data with
  | request d => simp [hdata, Mapping.value?_bind, Option.bind_eq_some_iff] at hnone
  | dependency d => simp [hdata, Mapping.value?_bind, Option.bind_eq_some_iff] at hnone
  | _ => simp [hdata, ItemData.isOfSpan] at hspan

/-- If its metric cannot be written, nothing comes of the span. -/
theorem value?_ofSpan_of_not_writable (hmeasured : isMeasured s.attributes = true)
    (hspan : i.data.isOfSpan = true) {millis : Binary64} (hmillis : durationMillis s = .ok millis)
    (hwritable : ¬ Writable s.attributes i.data) : (ofSpan s i).value? = none := by
  refine Option.eq_none_iff_forall_ne_some.2 fun metric? hmetric => ?_
  cases metric? with
  | none => exact value?_ofSpan_ne_some_none hmeasured hspan hmetric
  | some metric => exact hwritable ((exists_metric_iff hmeasured hspan hmillis).1 ⟨metric, hmetric⟩)

/-- Any other span has none. -/
theorem value?_ofSpan_of_not_measured
    (h : ¬ (isMeasured s.attributes = true ∧ i.data.isOfSpan = true)) {millis : Binary64}
    (hmillis : durationMillis s = .ok millis) : (ofSpan s i).value? = some none := by
  unfold ofSpan
  by_cases hmeasured : isMeasured s.attributes = true
  · simp only [hmeasured, if_true, Mapping.value?_bind, hmillis, Mapping.value?_ofExcept]
    cases hdata : i.data with
    | request d => exact absurd ⟨hmeasured, by rw [hdata]; rfl⟩ h
    | dependency d => exact absurd ⟨hmeasured, by rw [hdata]; rfl⟩ h
    | _ => rfl
  · simp [hmeasured]

end OfSpan

end Metric

end SpanTelemetry
