import Mathlib.Data.List.Basic
import SpanTelemetry.Proofs.Export.Agreement
import SpanTelemetry.Proofs.Table

namespace SpanTelemetry

/-!
# The dimensions of duration metrics

A duration metric carries few dimensions, however many attributes its span has: what a view lets through,
and what the mapper knows of the call.

* `View.apply_alike` — what a view lets through depends on nothing else.
* `Metric.knownOfRequest`, `Metric.knownOfDependency` — what the mapper knows of a call.
* `Metric.HasDimensions` — the dimensions of a view, the known ones, and no others.
* `Metric.hasDimensions_request`, `Metric.hasDimensions_dependency` — the metrics of calls have them.
* `Metric.SameCall` — two payloads describe calls that a metric cannot tell apart but by their attributes.
* `Metric.ofSpan_alike` — nothing else of a span counts.
* `Metric.dimensions_bounded` — which dimensions metrics have, and what they depend on.
-/

/-! ### Views -/

/-- What a view lets through depends on nothing else. -/
theorem View.apply_alike {view : View} {attributes others : Attributes}
    (h : ∀ key ∈ view, attributes.get? key = others.get? key) :
    view.apply attributes ∅ = view.apply others ∅ := by
  apply Table.ext_get?
  intro key
  rw [get?_apply, get?_apply]
  by_cases hkey : key ∈ view
  · rw [if_pos hkey, if_pos hkey, h key hkey]
  · rw [if_neg hkey, if_neg hkey]

namespace Metric

/-! ### Dimensions -/

/-- The attributes that a view lists as dimensions; one without a text is missing. -/
def viewDimensions (view : View) (attributes : Attributes) : List (String × Option String) :=
  view.map fun key => (key, (attributes.get? key).bind dimensionText?)

/-- What the mapper knows of a request; what has no value is missing. -/
def knownOfRequest (attributes : Attributes) (success : Bool) : List (String × Option String) := [
  ("_MS.IsAutocollected", some "True"),
  ("_MS.MetricId", some "requests/duration"),
  ("request/resultCode", ((attributes.int? "http.status_code").or
    (attributes.int? "rpc.grpc.status_code")).map Text.integer),
  ("request/success", some (truthText success))]

/-- What the mapper knows of a dependency. -/
def knownOfDependency (attributes : Attributes) (success : Bool) (type target : Option String) :
    List (String × Option String) := [
  ("_MS.IsAutocollected", some "True"),
  ("_MS.MetricId", some "dependencies/duration"),
  ("dependency/resultCode", ((attributes.int? "http.status_code").or
    (attributes.int? "rpc.grpc.status_code")).map Text.integer),
  ("dependency/success", some (truthText success)),
  ("dependency/type", type),
  ("dependency/target", target)]

/-! ### Adding dimensions -/

section Adding

variable {key : String}

theorem get?_addDimension? (i : Item) (dimension : String) (text : Option String) :
    (addDimension? i dimension text).properties.get? key =
      if key = dimension then text.or (i.properties.get? key) else i.properties.get? key := by
  cases text with
  | none => simp [addDimension?]
  | some t => simp [addDimension?]

/-- Dimensions with different keys are found again. -/
theorem get?_addDimensions {dimensions : List (String × Option String)}
    (h : (dimensions.map Prod.fst).Nodup) (i : Item) :
    (dimensions.foldl (fun i d => addDimension? i d.1 d.2) i).properties.get? key =
      (dimensions.lookup key).join.or (i.properties.get? key) := by
  -- by induction on the dimensions: a later one has another key and leaves the first as it is
  induction dimensions generalizing i with
  | nil => rfl
  | cons d rest ih =>
    obtain ⟨dimension, text⟩ := d
    obtain ⟨hfirst, hrest⟩ := List.nodup_cons.1 h
    rw [List.foldl_cons, ih hrest, get?_addDimension?]
    by_cases hkey : key = dimension
    · subst hkey
      rw [Table.lookup_eq_none_of_not_mem hfirst, List.lookup_cons_self, if_pos rfl]
      rfl
    · have hbeq : (key == dimension) = false := beq_eq_false_iff_ne.2 hkey
      simp only [List.lookup_cons, hbeq, if_neg hkey]

/-- The dimensions of a view come from the attributes that it lists. -/
theorem get?_addViewAttributes (view : View) (attributes : Attributes) (i : Item)
    (hempty : i.properties = ∅) :
    ((view.apply attributes ∅).entries.foldl addViewAttribute i).properties.get? key =
      ((viewDimensions view attributes).lookup key).join := by
  -- the attribute of one key decides about the dimension of that key
  have hstep : ∀ (i : Item) (k : String) (v : Value),
      (addViewAttribute i (k, v)).properties.get? key =
        (if k = key then dimensionText? v else none).or (i.properties.get? key) := by
    intro i k v
    rw [addViewAttribute, get?_addDimension?]
    by_cases hkey : key = k
    · simp [hkey]
    · simp [hkey, Ne.symm hkey]
  have hview := (view.apply attributes ∅).view_foldl (fun i : Item => i.properties.get? key) key
    dimensionText? hstep i
  refine hview.trans ?_
  rw [hempty, Table.get?_empty, Option.or_none, View.get?_apply, viewDimensions]
  by_cases hkey : key ∈ view
  · rw [if_pos hkey, List.lookup_graph _ hkey]
    rfl
  · rw [if_neg hkey, Table.lookup_eq_none_of_not_mem (by simpa using hkey)]
    rfl

/-- What a metric carries is what the view lets through, and what the mapper knows of the call. -/
theorem get?_known {view : View} {attributes : Attributes} {known : List (String × Option String)}
    (h : ((viewDimensions view attributes ++ known).map Prod.fst).Nodup) (i : Item)
    (hempty : i.properties = ∅) :
    (known.foldl (fun i d => addDimension? i d.1 d.2)
        ((view.apply attributes ∅).entries.foldl addViewAttribute i)).properties.get? key =
      ((viewDimensions view attributes ++ known).lookup key).join := by
  rw [List.map_append] at h
  obtain ⟨-, hknown, hdisjoint⟩ := List.nodup_append.1 h
  rw [get?_addDimensions hknown, get?_addViewAttributes view attributes i hempty, List.lookup_append]
  by_cases hkey : key ∈ (viewDimensions view attributes).map Prod.fst
  · -- no attribute takes the place of what the mapper knows
    have hnone : known.lookup key = none :=
      Table.lookup_eq_none_of_not_mem fun hmem => hdisjoint _ hkey _ hmem rfl
    rw [hnone]
    simp
  · rw [Table.lookup_eq_none_of_not_mem hkey]
    simp

end Adding

/-! ### The metrics of requests and dependencies -/

/-- A metric has the dimensions of a view, and known ones, and no others. -/
structure HasDimensions (view : View) (attributes : Attributes) (known : List (String × Option String))
    (metric : Item) : Prop where
  ofView : ∀ key ∈ view, metric.properties.get? key = (attributes.get? key).bind dimensionText?
  ofKnown : ∀ d ∈ known, metric.properties.get? d.1 = d.2
  bounded : ∀ key value, metric.properties.get? key = some value → key ∈ view ++ known.map Prod.fst

theorem hasDimensions_of_lookup {view : View} {attributes : Attributes}
    {known : List (String × Option String)} {metric : Item}
    (hnodup : ((viewDimensions view attributes ++ known).map Prod.fst).Nodup)
    (h : ∀ key, metric.properties.get? key =
      ((viewDimensions view attributes ++ known).lookup key).join) :
    HasDimensions view attributes known metric where
  ofView key hkey := by
    have hmem : (key, (attributes.get? key).bind dimensionText?) ∈
        viewDimensions view attributes ++ known :=
      List.mem_append_left _ (List.mem_map_of_mem hkey)
    rw [h, Table.lookup_eq_some_of_mem hnodup hmem]
    rfl
  ofKnown d hd := by
    rw [h, Table.lookup_eq_some_of_mem hnodup (List.mem_append_right _ hd)]
    rfl
  bounded key value hvalue := by
    by_contra hkey
    have hnone : key ∉ (viewDimensions view attributes ++ known).map Prod.fst := by
      simpa [viewDimensions] using hkey
    rw [h, Table.lookup_eq_none_of_not_mem hnone] at hvalue
    cases hvalue

section Items

variable (name : String) (value : Quantity) (attributes : Attributes) (success : Bool)

/-- **The dimensions of the metric of a request.** -/
theorem hasDimensions_request :
    HasDimensions View.server attributes (knownOfRequest attributes success)
      (request name value (View.server.apply attributes ∅) (attributes.statusCode?.map Text.integer)
        success none) := by
  have hnodup : ((viewDimensions View.server attributes ++
      knownOfRequest attributes success).map Prod.fst).Nodup := by
    show List.Nodup ["rpc.system", "_MS.IsAutocollected", "_MS.MetricId", "request/resultCode",
      "request/success"]
    decide
  exact hasDimensions_of_lookup hnodup fun key => get?_known hnodup _ rfl

/-- **The dimensions of the metric of a dependency.** -/
theorem hasDimensions_dependency (type target : Option String) :
    HasDimensions View.client attributes (knownOfDependency attributes success type target)
      (dependency name value (View.client.apply attributes ∅)
        (attributes.statusCode?.map Text.integer) success type target none) := by
  have hnodup : ((viewDimensions View.client attributes ++
      knownOfDependency attributes success type target).map Prod.fst).Nodup := by
    show List.Nodup ["rpc.system", "net.peer.name", "net.peer.port", "_MS.IsAutocollected",
      "_MS.MetricId", "dependency/resultCode", "dependency/success", "dependency/type",
      "dependency/target"]
    decide
  exact hasDimensions_of_lookup hnodup fun key => get?_known hnodup _ rfl

end Items

/-! ### The metrics of spans -/

/-- A metric holds the duration of a span in milliseconds, measured once. -/
def HoldsDuration (s : Span) (metric : Item) : Prop :=
  ∃ name millis, durationMillis s = .ok millis ∧
    HoldsPoint metric (singlePoint name (.double millis))

/-- Two payloads describe calls of one kind, with the same success, and the same type and target. -/
inductive SameCall : ItemData → ItemData → Prop where
  | request {d e : RequestData} (success : d.success = e.success) :
      SameCall (.request d) (.request e)
  | dependency {d e : DependencyData} (success : d.success = e.success) (type : d.type = e.type)
      (target : d.target = e.target) : SameCall (.dependency d) (.dependency e)

section OfSpan

variable {s : Span} {i : Item}

/-- **The metric of a span** holds its duration, with the dimensions of a request or of a dependency. -/
theorem holdsDuration_ofSpan {metric : Item} (h : (ofSpan s i).value? = some (some metric)) :
    HoldsDuration s metric ∧
      (∀ d, i.data = .request d →
        HasDimensions View.server s.attributes (knownOfRequest s.attributes d.success) metric) ∧
      ∀ d, i.data = .dependency d →
        HasDimensions View.client s.attributes
          (knownOfDependency s.attributes d.success d.type d.target) metric := by
  obtain ⟨-, millis, hmillis, -, hmetric⟩ := value?_ofSpan_iff.1 h
  obtain ⟨-, value, hvalue, hpoint⟩ := holdsPoint_ofSpan h
  refine ⟨⟨_, value, hvalue, hpoint⟩, fun d hdata => ?_, fun d hdata => ?_⟩
  · rw [hdata] at hmetric
    obtain rfl := Option.some.inj hmetric
    exact hasDimensions_request ..
  · rw [hdata] at hmetric
    obtain rfl := Option.some.inj hmetric
    exact hasDimensions_dependency ..

/-- A duration that is too large for a double is no value of a metric. -/
theorem result_ofSpan_of_overflow (hmeasured : isMeasured s.attributes = true)
    (hlarge : Binary64.overflowBound * nanosPerMilli ≤ s.durationNanos.natAbs) :
    (ofSpan s i).result = .error .numberTooLarge := by
  have hmillis : durationMillis s = .error .numberTooLarge := by
    cases hmillis : durationMillis s with
    | ok millis => exact absurd (exists_durationMillis_iff.1 ⟨millis, hmillis⟩) (Nat.not_lt.2 hlarge)
    | error e => rw [durationMillis, doubleOrError_eq_error_iff] at hmillis; rw [hmillis.2]
  simp only [ofSpan, hmeasured, if_true, hmillis]
  rfl

/-- **Nothing else of a span counts** for its metric, nor for the warnings on the way to it. -/
theorem ofSpan_alike {t : Span} {j : Item} (hs : isMeasured s.attributes = true)
    (ht : isMeasured t.attributes = true) (hcall : SameCall i.data j.data)
    (hduration : s.durationNanos = t.durationNanos)
    (hview : ∀ key ∈ View.client, s.attributes.get? key = t.attributes.get? key)
    (hcodes : ∀ key ∈ [AttributeKey.httpStatusCode, AttributeKey.rpcGrpcStatusCode],
      s.attributes.int? key = t.attributes.int? key) :
    ofSpan s i = ofSpan t j := by
  have hmillis : durationMillis s = durationMillis t := by rw [durationMillis, hduration]; rfl
  have hrpc : isRpc s.attributes = isRpc t.attributes := by
    rw [isRpc, isRpc, Attributes.string?, Attributes.string?, hview _ (by simp [View.client])]
  have hcode : s.attributes.statusCode? = t.attributes.statusCode? := by
    rw [Attributes.statusCode?, Attributes.statusCode?, hcodes _ (by simp), hcodes _ (by simp)]
  have hclient : View.client.apply s.attributes ∅ = View.client.apply t.attributes ∅ :=
    View.apply_alike hview
  -- the server's view lists fewer attributes than the client's
  have hserver : View.server.apply s.attributes ∅ = View.server.apply t.attributes ∅ := by
    apply View.apply_alike
    intro key hkey
    apply hview key
    simpa [View.client] using Or.inl (List.mem_singleton.1 hkey)
  unfold ofSpan
  simp only [hs, ht, if_true, hmillis, hrpc, hcode, hclient, hserver]
  generalize i.data = ours at hcall ⊢
  generalize j.data = theirs at hcall ⊢
  cases hcall with
  | request hsuccess => simp only [hsuccess]
  | dependency hsuccess htype htarget => simp only [hsuccess, htype, htarget]

end OfSpan

/-- **The dimensions of metrics are bounded and independent of everything else.**  An HTTP or RPC call has a
    metric unless its duration is too large for a double, or a dimension has an integer with too many digits.
    The metric holds the duration of its span, measured once; it has no dimensions but those of its kind, and
    those that the mapper knows have the mapper's values.  The item of a span is a request or a dependency.
    Two spans whose items are of one kind and agree on success, type and target, and which agree on their
    duration and on the few attributes that count, have equal metrics. -/
theorem dimensions_bounded :
    (∀ (s : Span) (i : Item),
      ((∃ method, s.attributes.string? "http.method" = some method) ∨
        ∃ system, s.attributes.string? "rpc.system" = some system) →
      i.data.isOfSpan = true →
      (Binary64.overflowBound * 1000000 ≤ s.durationNanos.natAbs →
        (ofSpan s i).result = .error .numberTooLarge) ∧
      (s.durationNanos.natAbs < Binary64.overflowBound * 1000000 →
        ((∃ metric, (ofSpan s i).result = .ok (some metric)) ↔ Writable s.attributes i.data)) ∧
      ∀ metric, (ofSpan s i).result = .ok (some metric) →
        HoldsDuration s metric ∧
        (∀ d, i.data = .request d →
          (∀ e ∈ knownOfRequest s.attributes d.success, metric.properties.get? e.1 = e.2) ∧
          ∀ key value, metric.properties.get? key = some value →
            key ∈ ["rpc.system", "_MS.IsAutocollected", "_MS.MetricId", "request/resultCode",
              "request/success"]) ∧
        (∀ d, i.data = .dependency d →
          (∀ e ∈ knownOfDependency s.attributes d.success d.type d.target,
            metric.properties.get? e.1 = e.2) ∧
          ∀ key value, metric.properties.get? key = some value →
            key ∈ ["rpc.system", "net.peer.name", "net.peer.port", "_MS.IsAutocollected",
              "_MS.MetricId", "dependency/resultCode", "dependency/success", "dependency/type",
              "dependency/target"])) ∧
    (∀ (m : Mapper) (s : Span) (percentage : Quantity) (i : Item), m.KeepsKinds →
      (m.map s percentage).value? = some i → i.data.isOfSpan = true) ∧
    (∀ (s t : Span) (i j : Item),
      ((∃ method, s.attributes.string? "http.method" = some method) ∨
        ∃ system, s.attributes.string? "rpc.system" = some system) →
      ((∃ method, t.attributes.string? "http.method" = some method) ∨
        ∃ system, t.attributes.string? "rpc.system" = some system) →
      SameCall i.data j.data → s.durationNanos = t.durationNanos →
      (∀ key ∈ ["rpc.system", "net.peer.name", "net.peer.port"],
        s.attributes.get? key = t.attributes.get? key) →
      (∀ key ∈ ["http.status_code", "rpc.grpc.status_code"],
        s.attributes.int? key = t.attributes.int? key) →
      ofSpan s i = ofSpan t j) := by
  refine ⟨?_, fun m s percentage i hkeeps hmap => m.isOfSpan_map hkeeps hmap, ?_⟩
  · intro s i hcall hspan
    have hmeasured := isMeasured_iff.2 hcall
    refine ⟨result_ofSpan_of_overflow hmeasured, fun hsmall => ?_, fun metric hmetric => ?_⟩
    · obtain ⟨millis, hmillis⟩ := exists_durationMillis_iff.2 hsmall
      simp only [← Mapping.value?_eq_some_iff]
      exact exists_metric_iff hmeasured hspan hmillis
    · obtain ⟨hduration, hrequest, hdependency⟩ :=
        holdsDuration_ofSpan (Mapping.value?_eq_some_iff.2 hmetric)
      refine ⟨hduration, fun d hd => ?_, fun d hd => ?_⟩
      · exact ⟨(hrequest d hd).ofKnown, (hrequest d hd).bounded⟩
      · exact ⟨(hdependency d hd).ofKnown, (hdependency d hd).bounded⟩
  · intro s t i j hs ht hcall hduration hview hcodes
    exact ofSpan_alike (isMeasured_iff.2 hs) (isMeasured_iff.2 ht) hcall hduration hview hcodes

/-- A call with attributes that are named like dimensions. -/
def exampleForged : Span where
  name := "GET /orders"
  kind := .client
  context := ⟨1, 2, ∅⟩
  attributes := Table.ofList [("http.method", .string "GET"), ("net.peer.name", .string "orders"),
    ("dependency/success", .string "no"), ("_MS.MetricId", .string "mine")]
  endTime := some 2500000

/-- A call of the same length to the same peer, for someone who is named. -/
def examplePersonal : Span where
  name := "POST /orders"
  kind := .client
  context := ⟨1, 3, ∅⟩
  attributes := Table.ofList [("http.method", .string "POST"), ("net.peer.name", .string "orders"),
    ("enduser.id", .string "u17")]
  startTime := some 1000000
  endTime := some 3500000

/-- The two calls have the same metric, and no attribute takes the place of a dimension. -/
theorem dimensions_bounded_orders :
    (∃ i metric, (({} : Mapper).map exampleForged Sampling.everything).value? = some i ∧
      (ofSpan exampleForged i).result = .ok (some metric) ∧
      metric.properties.get? "dependency/success" = some "True") ∧
    ∃ i j, (({} : Mapper).map exampleForged Sampling.everything).value? = some i ∧
      (({} : Mapper).map examplePersonal Sampling.everything).value? = some j ∧
      ofSpan exampleForged i = ofSpan examplePersonal j := by
  let forged : DependencyData := {
    id := some "0000000000000002", name := some "GET /orders", duration := some "00:00:00.002500",
    type := some "Http", target := some "orders"
    properties := Table.ofList [("dependency/success", "no"), ("_MS.MetricId", "mine")] }
  let personal : DependencyData := {
    id := some "0000000000000003", name := some "POST /orders", duration := some "00:00:00.002500",
    type := some "Http", target := some "orders" }
  let i : Item := {
    data := .dependency forged, time := some "1970-01-01T00:00:00.000000Z"
    tags := Table.ofList [("ai.operation.id", "00000000000000000000000000000001")] }
  let j : Item := {
    data := .dependency personal, time := some "1970-01-01T00:00:00.001000Z"
    tags := Table.ofList [("ai.operation.id", "00000000000000000000000000000001"),
      ("ai.user.id", "u17")] }
  have hi : (({} : Mapper).map exampleForged Sampling.everything).value? = some i := by
    decide +kernel
  have hj : (({} : Mapper).map examplePersonal Sampling.everything).value? = some j := by
    decide +kernel
  have hkeeps : ({} : Mapper).KeepsKinds := Mapper.keepsPayloads_default.keepsKinds
  obtain ⟨hdims, hspan, halike⟩ := dimensions_bounded
  have hforged : ∃ method, exampleForged.attributes.string? "http.method" = some method :=
    ⟨"GET", by decide +kernel⟩
  have hpersonal : ∃ method, examplePersonal.attributes.string? "http.method" = some method :=
    ⟨"POST", by decide +kernel⟩
  obtain ⟨-, hexists, hall⟩ := hdims exampleForged i (Or.inl hforged) (hspan _ _ _ _ hkeeps hi)
  have hwritable : Writable exampleForged.attributes i.data := by
    refine .of_hasNoLongInteger (Attributes.hasNoLongInteger_ofList fun e he => ?_) _
    simp only [List.mem_cons, List.not_mem_nil, or_false] at he
    rcases he with rfl | rfl | rfl | rfl <;> nofun
  obtain ⟨metric, hmetric⟩ := (hexists (by decide +kernel)).2 hwritable
  obtain ⟨-, -, hdependency⟩ := hall metric hmetric
  have hsuccess := (hdependency forged rfl).1 ("dependency/success", some "True")
    (.tail _ (.tail _ (.tail _ (.head _))))
  refine ⟨⟨i, metric, hi, hmetric, hsuccess⟩, i, j, hi, hj, ?_⟩
  have hcodes : ∀ key ∈ ["http.status_code", "rpc.grpc.status_code"],
      exampleForged.attributes.int? key = examplePersonal.attributes.int? key := by
    decide +kernel
  apply halike _ _ i j (Or.inl hforged) (Or.inl hpersonal) (.dependency rfl rfl rfl) rfl _ hcodes
  intro key hkey
  rw [exampleForged, examplePersonal, Table.get?_ofList (by decide), Table.get?_ofList (by decide)]
  simp only [List.mem_cons, List.not_mem_nil, or_false] at hkey
  rcases hkey with rfl | rfl | rfl <;> rfl

end Metric

end SpanTelemetry
