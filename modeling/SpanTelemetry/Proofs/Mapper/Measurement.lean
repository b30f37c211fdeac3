import SpanTelemetry.Proofs.Binary64.Rounding
import SpanTelemetry.Proofs.Mapper.Builders
import SpanTelemetry.Proofs.Mapper.Metric
import SpanTelemetry.Proofs.Protocol.Target
import SpanTelemetry.Proofs.Time.Duration

namespace SpanTelemetry

/-!
# What a duration metric says, and what the item says

A call has its item and its metric, and both tell how long it took and which protocol it used. They agree
on calls that end after they start, and on calls of which the attributes name one protocol.

* `Span.CallsOut` — the spans of calls to another component.
* `ItemData.duration?`, `Mapper.duration?_of_map` — the length of time that an item tells.
* `Mapper.dependency_of_map` — the dependency of a call to another component is as its protocol says.
* `Metric.reports_signed_duration` — a metric tells the length of time with its sign.
* `Metric.callProtocol_eq_http_iff`, `Metric.callProtocol_eq_rpc_iff` — the protocol of a call.
* `Metric.protocols_agree_iff` — when the instrument is of the protocol of the call.
* `Metric.named_by_rpc_system` — a metric is named for RPC wherever a system is named.
-/

/-! ### Items -/

/-- The text of the length of time that a payload tells; only requests and dependencies tell one. -/
def ItemData.duration? : ItemData → Option String
  | request d => d.duration
  | dependency d => d.duration
  | _ => none

/-- A span of a call to another component: what a client or a producer starts, or messages that are
    received because they were asked for. -/
inductive Span.CallsOut (s : Span) : Prop where
  | client (kind : s.kind = .client)
  | producer (kind : s.kind = .producer)
  | receive (kind : s.kind = .consumer)
      (operation : s.attributes.string? "messaging.operation" = some "receive")

theorem Span.CallsOut.itemKind {s : Span} (h : s.CallsOut) : s.itemKind = .ok (.dependency false) := by
  unfold Span.itemKind
  cases h with
  | client kind => rw [kind]
  | producer kind => rw [kind]
  | receive kind operation =>
    have hreceive : s.isReceive = true := beq_iff_eq.2 operation
    simp [kind, hreceive]

namespace Mapper

section Mapped

variable {m : Mapper} {s : Span} {percentage : Quantity} {i : Item}

/-- **The item of a span** tells the length of time from its start to its end. -/
theorem duration?_of_map (hkeeps : m.KeepsTypes) (h : (m.map s percentage).value? = some i) :
    ∃ text, durationText s.durationNanos = .ok text ∧ i.data.duration? = some text := by
  rcases map_cases h with ⟨-, hrequest⟩ | ⟨inProcess, -, hdependency⟩
  · obtain ⟨base, d, hd, hdata⟩ := data_request (fun new => hkeeps _ new .request) hrequest
    obtain ⟨text, _, _, htext, -, -, rfl⟩ := RequestData.describe_eq_ok_iff.1 hd
    exact ⟨text, htext, by rw [hdata]; rfl⟩
  · obtain ⟨base, d, hd, hdata⟩ := data_dependency (fun new => hkeeps _ new .dependency) hdependency
    obtain ⟨text, type, target, data, resultCode, htext, rfl⟩ := DependencyData.ofSpan_frame hd
    exact ⟨text, htext, by rw [hdata]; rfl⟩

/-- **The dependency of a call** to another component is described by the protocol of the call. -/
theorem dependency_of_map (hkeeps : m.KeepsTypes) (hkind : s.itemKind = .ok (.dependency false))
    (h : (m.map s percentage).value? = some i) :
    ∃ base d : DependencyData,
      base.describe s.kind s.attributes m.appId = .ok d ∧ i.data = .dependency d := by
  rw [map, hkind] at h
  obtain ⟨base, d, hd, hdata⟩ := data_dependency (fun new => hkeeps _ new .dependency) h
  obtain ⟨duration, -, hdescribed⟩ := DependencyData.ofSpan_eq_ok_iff.1 hd
  exact ⟨_, d, hdescribed, hdata⟩

/-- The metric of a span is that of its item. -/
theorem value?_metric_iff {metric : Item} :
    (m.metric s percentage).value? = some (some metric) ↔
      ∃ i, (m.map s percentage).value? = some i ∧ (Metric.ofSpan s i).value? = some (some metric) := by
  unfold Mapper.metric
  by_cases hmeasured : Metric.isMeasured s.attributes = true
  · simp [hmeasured, Option.bind_eq_some_iff]
  · refine iff_of_false (by simp [hmeasured]) ?_
    rintro ⟨i, -, hmetric⟩
    exact hmeasured (Metric.holdsPoint_ofSpan hmetric).1

end Mapped

end Mapper

namespace Metric

/-! ### Lengths of time -/

section Mapped

variable {m : Mapper} {s : Span} {percentage : Quantity} {i : Item}

/-- The item of a span is a request or a dependency. -/
theorem isOfSpan_of_map (hkeeps : m.KeepsTypes) (hmapped : (m.map s percentage).value? = some i) :
    i.data.isOfSpan = true := by
  obtain ⟨text, -, htext⟩ := Mapper.duration?_of_map hkeeps hmapped
  cases hdata : i.data <;> simp_all [ItemData.duration?, ItemData.isOfSpan]

/-- The milliseconds of a span are correctly rounded. -/
theorem isRounded_durationMillis {millis : Binary64} (h : durationMillis s = .ok millis) :
    millis.IsRounded s.durationNanos 1000000 :=
  Binary64.isRounded_ofIntQuotient? (by decide) (doubleOrError_eq_ok_iff.1 h)

/-- There are more than a million units in one. -/
theorem nanosPerMilli_le_unitsInOne : 1000000 ≤ Binary64.unitsInOne :=
  Nat.le_trans (show 1000000 ≤ Binary64.twoTo 20 by decide) (Binary64.twoTo_le_unitsInOne (by decide))

end Mapped

/-- **A metric reports the signed length of its span.**  An HTTP or RPC call has a metric unless its length
    of time is too large for a double or the metric cannot be written. Its value is the correctly rounded
    quotient of the nanoseconds from the start to the end by a million, and it is negative where the span
    ends before it starts. There it is not what the text of the item's duration tells, which counts such a
    length of time as none; everywhere else it is. -/
theorem reports_signed_duration (m : Mapper) (hkeeps : m.KeepsTypes) (s : Span) (percentage : Quantity)
    {i : Item} (hmapped : (m.map s percentage).value? = some i)
    (hcall : (∃ method, s.attributes.string? "http.method" = some method) ∨
      ∃ system, s.attributes.string? "rpc.system" = some system) :
    let d : Int := s.endTime.getD 0 - s.startTime.getD 0
    (d.natAbs < Binary64.overflowBound * 1000000 →
      ((∃ metric, (m.metric s percentage).value? = some (some metric)) ↔
        Writable s.attributes i.data)) ∧
    ∀ metric, (m.metric s percentage).value? = some (some metric) →
      ∃ name millis units text duration,
        (ofSpan s i).value? = some (some metric) ∧
        HoldsPoint metric (singlePoint name (.double millis)) ∧
        millis.IsRounded d 1000000 ∧
        millis.units? = some units ∧ (units < 0 ↔ d < 0) ∧
        i.data.duration? = some text ∧ Duration.read? text.toList = some duration ∧
        (duration.microseconds : Int) = max d 0 / 1000 ∧
        (millis.IsRounded (max d 0) 1000000 ↔ 0 ≤ d) := by
  intro d
  have hofSpan : ∀ metric, (m.metric s percentage).value? = some (some metric) ↔
      (ofSpan s i).value? = some (some metric) := by
    intro metric
    simp [Mapper.value?_metric_iff, hmapped]
  refine ⟨fun hfits => ?_, fun metric hmetric => ?_⟩
  · obtain ⟨millis, hmillis⟩ := exists_durationMillis_iff.2 hfits
    simp only [hofSpan]
    exact exists_metric_iff (isMeasured_iff.2 hcall) (isOfSpan_of_map hkeeps hmapped) hmillis
  · rw [hofSpan] at hmetric
    obtain ⟨-, millis, hmillis, hpoint⟩ := holdsPoint_ofSpan hmetric
    have hpos : 0 < 1000000 := by decide
    have hrounded := isRounded_durationMillis hmillis
    obtain ⟨units, hunits⟩ := hrounded.exists_units
    -- the text is that of the same nanoseconds
    obtain ⟨text, htext, hitem⟩ := Mapper.duration?_of_map hkeeps hmapped
    have hmicros : ((Duration.ofMicroseconds (wholeMicroseconds s.durationNanos)).microseconds : Int) =
        max d 0 / 1000 := by
      rw [Duration.microseconds_ofMicroseconds, wholeMicroseconds_eq]
      rfl
    exact ⟨_, millis, units, text, _, hmetric, hpoint, hrounded, hunits,
      hrounded.neg_iff hpos nanosPerMilli_le_unitsInOne hunits, hitem, read?_durationText htext, hmicros,
      hrounded.max_zero_iff hpos nanosPerMilli_le_unitsInOne⟩

/-- A call that ends a millisecond before it starts. -/
def exampleBackwards : Span where
  name := "GET /"
  kind := .client
  context := ⟨1, 2, ∅⟩
  attributes := Table.ofList [("http.method", .string "GET")]
  startTime := some 2000000
  endTime := some 1000000

/-- It has a metric. -/
theorem exists_metric_backwards :
    ∃ metric, (({} : Mapper).metric exampleBackwards Sampling.everything).value? =
      some (some metric) :=
  Mapping.exists_value?_iff.2 (by decide +kernel)

/-- Its item tells that it took no time, and the value of its metric is negative. -/
theorem reports_signed_duration_backwards :
    ({} : Mapper).KeepsTypes ∧
    (∃ method, exampleBackwards.attributes.string? "http.method" = some method) ∧
    (-1000000 : Int).natAbs < Binary64.overflowBound * 1000000 ∧
    ∃ i metric name millis units text duration,
      (({} : Mapper).map exampleBackwards Sampling.everything).value? = some i ∧
      Writable exampleBackwards.attributes i.data ∧
      (({} : Mapper).metric exampleBackwards Sampling.everything).value? = some (some metric) ∧
      HoldsPoint metric (singlePoint name (.double millis)) ∧
      millis.IsRounded (-1000000) 1000000 ∧ millis.units? = some units ∧ units < 0 ∧
      i.data.duration? = some text ∧ Duration.read? text.toList = some duration ∧
      duration.microseconds = 0 := by
  have hkeeps : ({} : Mapper).KeepsTypes := Mapper.keepsPayloads_default.keepsTypes
  have hcall : ∃ method, exampleBackwards.attributes.string? "http.method" = some method :=
    ⟨"GET", by decide +kernel⟩
  obtain ⟨metric, hmetric⟩ := exists_metric_backwards
  obtain ⟨i, hi, hofSpan⟩ := Mapper.value?_metric_iff.1 hmetric
  obtain ⟨-, value, hvalue, -⟩ := holdsPoint_ofSpan hofSpan
  have hfits := exists_durationMillis_iff.1 ⟨value, hvalue⟩
  obtain ⟨hexists, hall⟩ := reports_signed_duration {} hkeeps exampleBackwards Sampling.everything hi
    (Or.inl hcall)
  obtain ⟨name, millis, units, text, duration, -, hpoint, hrounded, hunits, hneg, htext, hread, hmicros,
    -⟩ := hall metric hmetric
  refine ⟨hkeeps, hcall, hfits, i, metric, name, millis, units, text, duration, hi,
    (hexists hfits).1 ⟨metric, hmetric⟩, hmetric, hpoint, hrounded, hunits, hneg.2 (by decide), htext,
    hread, ?_⟩
  exact Int.ofNat_inj.1 (hmicros.trans (by decide))

/-- The value of a metric is not always the quotient of a length of time that counts as none where a span
    ends before it starts. -/
theorem metric_not_always_clamped :
    ¬ ∀ (m : Mapper) (s : Span) (percentage : Quantity) (i metric : Item) (name : String)
      (millis : Binary64),
      (m.map s percentage).value? = some i → (ofSpan s i).value? = some (some metric) →
      HoldsPoint metric (singlePoint name (.double millis)) →
      millis.IsRounded (max (s.endTime.getD 0 - s.startTime.getD 0) 0) 1000000 := by
  intro halways
  obtain ⟨metric, hmetric⟩ := exists_metric_backwards
  obtain ⟨i, hi, hofSpan⟩ := Mapper.value?_metric_iff.1 hmetric
  obtain ⟨-, millis, hmillis, hpoint⟩ := holdsPoint_ofSpan hofSpan
  -- a quotient that is rounded both ways would be that of a length of time that is not negative
  have hclamped := halways {} exampleBackwards _ i metric _ millis hi hofSpan hpoint
  have hnonneg := ((isRounded_durationMillis hmillis).max_zero_iff (by decide)
    nanosPerMilli_le_unitsInOne).1 hclamped
  exact absurd hnonneg (by decide)

/-! ### Protocols -/

section Protocols

variable {attributes : Attributes}

theorem isRpc_iff : isRpc attributes = true ↔ ∃ system, attributes.string? "rpc.system" = some system :=
  Option.isSome_iff_exists

/-- The metric of a dependency is named for RPC iff a system is named, and for HTTP otherwise. -/
theorem instrument_dependency_iff (attributes : Attributes) (d : DependencyData) :
    (instrument attributes (.dependency d) = "rpc.client.duration" ↔ isRpc attributes = true) ∧
      (instrument attributes (.dependency d) = "http.client.duration" ↔ isRpc attributes = false) := by
  cases hrpc : isRpc attributes <;> simp [instrument, hrpc]

/-- HTTP is tried first. -/
theorem callProtocol_eq_http_iff :
    callProtocol attributes = .http ↔ ∃ method, attributes.string? "http.method" = some method := by
  unfold callProtocol
  cases hmethod : attributes.string? AttributeKey.httpMethod with
  | some method => simp
  | none =>
    cases hrpc : attributes.string? AttributeKey.rpcSystem with
    | some system => simp
    | none =>
      cases hdb : attributes.string? AttributeKey.dbSystem with
      | some system => simp
      | none => cases hmessage : attributes.messagingSystem? <;> simp

/-- RPC is tried where no method of HTTP is named. -/
theorem callProtocol_eq_rpc_iff {system : String} :
    callProtocol attributes = .rpc system ↔
      attributes.string? "http.method" = none ∧ attributes.string? "rpc.system" = some system := by
  unfold callProtocol
  cases hmethod : attributes.string? AttributeKey.httpMethod with
  | some method => simp
  | none =>
    cases hrpc : attributes.string? AttributeKey.rpcSystem with
    | some named => simp
    | none =>
      cases hdb : attributes.string? AttributeKey.dbSystem with
      | some named => simp
      | none => cases hmessage : attributes.messagingSystem? <;> simp

/-- The types of calls by HTTP and by RPC. -/
theorem type_describe_of_protocol {base d : DependencyData} {kind : SpanKind} {appId : Option String}
    (h : base.describe kind attributes appId = .ok d) :
    (callProtocol attributes = .http →
      d.type = some "Http" ∨ d.type = some "Http (tracked component)") ∧
    ∀ system, callProtocol attributes = .rpc system → d.type = some system := by
  rw [DependencyData.type_describe h]
  refine ⟨fun hhttp => ?_, fun system hrpc => ?_⟩
  · rw [hhttp]
    cases hother : (attributes.otherComponent? appId).isSome with
    | true => exact Or.inr rfl
    | false => exact Or.inl rfl
  · rw [hrpc]

/-- The two ways to tell the protocol of a measured call agree unless the attributes name both. -/
theorem protocols_agree_iff (hmeasured : isMeasured attributes = true) :
    ((isRpc attributes = false ↔ callProtocol attributes = .http) ∧
      (isRpc attributes = true ↔ ∃ system, callProtocol attributes = .rpc system)) ↔
    ¬ ((∃ method, attributes.string? "http.method" = some method) ∧
      ∃ system, attributes.string? "rpc.system" = some system) := by
  have hnamed := isMeasured_iff.1 hmeasured
  rw [← Bool.not_eq_true, isRpc_iff, callProtocol_eq_http_iff]
  simp only [callProtocol_eq_rpc_iff]
  cases hmethod : attributes.string? "http.method" with
  | none =>
    obtain ⟨method, hfound⟩ | ⟨system, hfound⟩ := hnamed
    · cases hmethod.symm.trans hfound
    · simp [hfound]
  | some method => cases attributes.string? "rpc.system" <;> simp

end Protocols

/-- **A metric is named for RPC wherever a system is named.**  The dependency of the same call is described
    by the rules of HTTP wherever a method is named, and by those of RPC only elsewhere. So the metric and
    the dependency agree on the protocol iff the attributes do not name both. -/
theorem named_by_rpc_system (m : Mapper) (hkeeps : m.KeepsTypes) (s : Span) (percentage : Quantity)
    {metric : Item} (hcall : s.CallsOut)
    (hmetric : (m.metric s percentage).value? = some (some metric)) :
    ∃ i d base name millis,
      (m.map s percentage).value? = some i ∧ i.data = .dependency d ∧
      DependencyData.describe base s.kind s.attributes m.appId = .ok d ∧
      HoldsPoint metric (singlePoint name (.double millis)) ∧
      (name = "rpc.client.duration" ↔ ∃ system, s.attributes.string? "rpc.system" = some system) ∧
      (name = "http.client.duration" ↔ s.attributes.string? "rpc.system" = none) ∧
      (callProtocol s.attributes = .http ↔
        ∃ method, s.attributes.string? "http.method" = some method) ∧
      (∀ system, callProtocol s.attributes = .rpc system ↔
        s.attributes.string? "http.method" = none ∧ s.attributes.string? "rpc.system" = some system) ∧
      (callProtocol s.attributes = .http →
        d.type = some "Http" ∨ d.type = some "Http (tracked component)") ∧
      (∀ system, callProtocol s.attributes = .rpc system → d.type = some system) ∧
      (((name = "http.client.duration" ↔ callProtocol s.attributes = .http) ∧
          (name = "rpc.client.duration" ↔ ∃ system, callProtocol s.attributes = .rpc system)) ↔
        ¬ ((∃ method, s.attributes.string? "http.method" = some method) ∧
          ∃ system, s.attributes.string? "rpc.system" = some system)) := by
  obtain ⟨i, hmapped, hofSpan⟩ := Mapper.value?_metric_iff.1 hmetric
  obtain ⟨base, d, hdescribed, hdata⟩ := Mapper.dependency_of_map hkeeps hcall.itemKind hmapped
  obtain ⟨hmeasured, millis, -, hpoint⟩ := holdsPoint_ofSpan hofSpan
  -- the instrument depends on the item only through its being a dependency
  have hnamed := instrument_dependency_iff s.attributes d
  rw [← hdata] at hnamed
  obtain ⟨hrpc, hhttp⟩ := hnamed
  have hnone : isRpc s.attributes = false ↔ s.attributes.string? "rpc.system" = none :=
    Option.isSome_eq_false_iff.trans Option.isNone_iff_eq_none
  have hagree := protocols_agree_iff hmeasured
  rw [← hrpc, ← hhttp] at hagree
  obtain ⟨htypeHttp, htypeRpc⟩ := type_describe_of_protocol hdescribed
  exact ⟨i, d, base, _, millis, hmapped, hdata, hdescribed, hpoint, hrpc.trans isRpc_iff, hhttp.trans hnone,
    callProtocol_eq_http_iff, fun _ => callProtocol_eq_rpc_iff, htypeHttp, htypeRpc, hagree⟩

/-- A call by HTTP that names a system of remote procedure calls as well. -/
def exampleTwoProtocols : Span where
  name := "POST /shop.Cart/Add"
  kind := .client
  context := ⟨1, 2, ∅⟩
  attributes := Table.ofList [("http.method", .string "POST"), ("rpc.system", .string "grpc")]
  startTime := some 0
  endTime := some 1000000

/-- It has a metric. -/
theorem exists_metric_twoProtocols :
    ∃ metric, (({} : Mapper).metric exampleTwoProtocols Sampling.everything).value? =
      some (some metric) :=
  Mapping.exists_value?_iff.2 (by decide +kernel)

/-- Its dependency is one of HTTP, and its metric is named for RPC. -/
theorem named_by_rpc_system_twoProtocols :
    ({} : Mapper).KeepsTypes ∧ exampleTwoProtocols.CallsOut ∧
    ∃ i d name metric millis,
      (({} : Mapper).metric exampleTwoProtocols Sampling.everything).value? = some (some metric) ∧
      (({} : Mapper).map exampleTwoProtocols Sampling.everything).value? = some i ∧
      i.data = .dependency d ∧ HoldsPoint metric (singlePoint name (.double millis)) ∧
      callProtocol exampleTwoProtocols.attributes = .http ∧
      (d.type = some "Http" ∨ d.type = some "Http (tracked component)") ∧
      name = "rpc.client.duration" := by
  have hkeeps : ({} : Mapper).KeepsTypes := Mapper.keepsPayloads_default.keepsTypes
  have hcall : exampleTwoProtocols.CallsOut := .client rfl
  have hhttp : callProtocol exampleTwoProtocols.attributes = .http := by decide +kernel
  have hsystem : exampleTwoProtocols.attributes.string? "rpc.system" = some "grpc" := by decide +kernel
  obtain ⟨metric, hmetric⟩ := exists_metric_twoProtocols
  obtain ⟨i, d, base, name, millis, hmapped, hdata, -, hpoint, hname, -, -, -, htype, -⟩ :=
    named_by_rpc_system {} hkeeps exampleTwoProtocols Sampling.everything hcall hmetric
  exact ⟨hkeeps, hcall, i, d, name, metric, millis, hmetric, hmapped, hdata, hpoint, hhttp,
    htype hhttp, hname.2 ⟨"grpc", hsystem⟩⟩

/-- A metric is not always named for HTTP where the dependency of its call is described by HTTP. -/
theorem metric_not_always_named_as_described :
    ¬ ∀ (m : Mapper) (s : Span) (percentage : Quantity) (metric : Item) (name : String)
      (millis : Binary64),
      s.CallsOut → (m.metric s percentage).value? = some (some metric) →
      HoldsPoint metric (singlePoint name (.double millis)) →
      (name = "http.client.duration" ↔ callProtocol s.attributes = .http) := by
  intro halways
  obtain ⟨metric, hmetric⟩ := exists_metric_twoProtocols
  obtain ⟨i, hmapped, hofSpan⟩ := Mapper.value?_metric_iff.1 hmetric
  obtain ⟨-, millis, -, hpoint⟩ := holdsPoint_ofSpan hofSpan
  have hcall : exampleTwoProtocols.CallsOut := .client rfl
  obtain ⟨base, d, -, hdata⟩ :=
    Mapper.dependency_of_map Mapper.keepsPayloads_default.keepsTypes hcall.itemKind hmapped
  have hhttp : callProtocol exampleTwoProtocols.attributes = .http := by decide +kernel
  have hname := (halways {} exampleTwoProtocols _ metric _ millis hcall hmetric hpoint).2 hhttp
  rw [hdata, (instrument_dependency_iff _ _).2] at hname
  exact absurd hname (by decide +kernel)

end Metric

end SpanTelemetry
