import SpanTelemetry.Mapper.Dependency
import SpanTelemetry.Mapper.Request
import SpanTelemetry.Proofs.Traversal

namespace SpanTelemetry

/-!
# Descriptions of payloads

The fields of a payload that follow from its span are described before anything else is put on the item.

* `RequestData.describe_eq_ok_iff`, `DependencyData.ofSpan_eq_ok_iff` — when a payload is described, and how.
* `DependencyData.ofSpan_frame` — what a span says about a call, whatever its protocol.
* `ItemData.IsDescription` — descriptions in which properties have no part, and which leave the kind of a
  payload.
* `NewItem.describe_frame` — a new item that is described has other fields in its payload, or none.
-/

/-! ### What a span says about a payload -/

namespace RequestData

/-- A request is described as soon as its duration, its response code and its source can be written; the
    rest of the payload is kept. -/
theorem describe_eq_ok_iff {d d' : RequestData} {s : Span} {statusCodesFail : Bool}
    {appId : Option String} :
    d.describe s statusCodesFail appId = .ok d' ↔
      ∃ duration responseCode source, durationText s.durationNanos = .ok duration ∧
        s.attributes.responseCode = .ok responseCode ∧ s.source? appId = .ok source ∧
        { d with
          id := some (spanIdText s.context.spanId)
          name := some s.operationName
          duration := some duration
          success := s.isSuccessful statusCodesFail
          url := s.attributes.serverUrl?
          responseCode := some responseCode
          source } = d' := by
  simp only [describe, bind_eq_ok_iff]
  constructor
  · rintro ⟨duration, hduration, responseCode, hcode, source, hsource, hd⟩
    exact ⟨duration, responseCode, source, hduration, hcode, hsource, Except.ok.inj hd⟩
  · rintro ⟨duration, responseCode, source, hduration, hcode, hsource, rfl⟩
    exact ⟨duration, hduration, responseCode, hcode, source, hsource, rfl⟩

/-- The properties of a request have no part in its description. -/
theorem describe_withProperties (d : RequestData) (properties : Table String) (s : Span)
    (statusCodesFail : Bool) (appId : Option String) :
    describe { d with properties } s statusCodesFail appId =
      (d.describe s statusCodesFail appId).map ({ · with properties }) := by
  unfold describe
  cases durationText s.durationNanos with
  | error e => rfl
  | ok duration =>
    cases s.attributes.responseCode with
    | error e => rfl
    | ok responseCode => cases s.source? appId <;> rfl

end RequestData

namespace DependencyData

/-- A protocol says nothing but the type, the target, the data and the result of a call. -/
theorem describe_frame {d d' : DependencyData} {kind : SpanKind} {attributes : Attributes}
    {appId : Option String} (h : d.describe kind attributes appId = .ok d') :
    ∃ type target data resultCode, d' = { d with type, target, data, resultCode } := by
  unfold describe at h
  cases hprotocol : callProtocol attributes with
  | http =>
    simp only [hprotocol, describeHttp, bind_eq_ok_iff] at h
    obtain ⟨target, -, resultCode, -, hd⟩ := h
    obtain rfl := Except.ok.inj hd
    -- the component that answered decides the type and the target
    cases attributes.targetAppId? with
    | none => exact ⟨_, _, _, _, rfl⟩
    | some other => simp only; split <;> exact ⟨_, _, _, _, rfl⟩
  | rpc system =>
    simp only [hprotocol, describeRpc, bind_eq_ok_iff] at h
    obtain ⟨target, -, hd⟩ := h
    obtain rfl := Except.ok.inj hd
    exact ⟨_, _, _, _, rfl⟩
  | database system =>
    simp only [hprotocol, describeDatabase, bind_eq_ok_iff] at h
    obtain ⟨target, -, hd⟩ := h
    obtain rfl := Except.ok.inj hd
    exact ⟨_, _, _, _, rfl⟩
  | messaging system =>
    simp only [hprotocol, describeMessaging, bind_eq_ok_iff] at h
    obtain ⟨target, -, hd⟩ := h
    obtain rfl := Except.ok.inj hd
    exact ⟨_, _, _, _, rfl⟩
  | peer =>
    simp only [hprotocol, describePeer, bind_eq_ok_iff] at h
    obtain ⟨target, -, hd⟩ := h
    cases target <;> obtain rfl := Except.ok.inj hd <;> exact ⟨_, _, _, _, rfl⟩

/-- The properties of a call have no part in what its protocol says. -/
theorem describe_withProperties (d : DependencyData) (properties : Table String) (kind : SpanKind)
    (attributes : Attributes) (appId : Option String) :
    describe { d with properties } kind attributes appId =
      (d.describe kind attributes appId).map ({ · with properties }) := by
  unfold describe
  cases callProtocol attributes with
  | http =>
    simp only [describeHttp]
    cases attributes.httpTarget with
    | error e => rfl
    | ok target =>
      cases (attributes.int? AttributeKey.httpStatusCode).mapM Text.ofInt with
      | error e => rfl
      | ok resultCode =>
        cases attributes.targetAppId? with
        | none => rfl
        | some other =>
          simp only [bind, Except.bind]
          split <;> rfl
  | rpc system =>
    simp only [describeRpc]
    cases attributes.peerTarget? 0 <;> rfl
  | database system =>
    simp only [describeDatabase]
    cases attributes.databaseTarget system <;> rfl
  | messaging system =>
    simp only [describeMessaging]
    cases attributes.messagingEndpoint? <;> rfl
  | peer =>
    simp only [describePeer]
    cases attributes.peerTarget? noDefaultPort with
    | error e => rfl
    | ok target => cases target <;> rfl

/-- The fields of a call that do not depend on its protocol. -/
def atSpan (d : DependencyData) (s : Span) (statusCodesFail : Bool) (duration : String) :
    DependencyData :=
  { d with
    id := some (spanIdText s.context.spanId)
    name := some (s.attributes.dependencyName s.name)
    duration := some duration
    success := s.isSuccessful statusCodesFail }

/-- A call is described as soon as its duration and what its protocol says can be written. -/
theorem ofSpan_eq_ok_iff {d d' : DependencyData} {s : Span} {inProcess statusCodesFail : Bool}
    {appId : Option String} :
    d.ofSpan s inProcess statusCodesFail appId = .ok d' ↔
      ∃ duration, durationText s.durationNanos = .ok duration ∧
        if inProcess then { d.atSpan s statusCodesFail duration with type := some inProcessType } = d'
        else (d.atSpan s statusCodesFail duration).describe s.kind s.attributes appId = .ok d' := by
  simp only [ofSpan, bind_eq_ok_iff]
  cases inProcess with
  | true => simp only [if_true, pure, Except.pure, Except.ok.injEq]; rfl
  | false => rfl

/-- A span says everything about a call but its properties and measurements, and the fields that
    only its protocol knows. -/
theorem ofSpan_frame {d d' : DependencyData} {s : Span} {inProcess statusCodesFail : Bool}
    {appId : Option String} (h : d.ofSpan s inProcess statusCodesFail appId = .ok d') :
    ∃ duration type target data resultCode, durationText s.durationNanos = .ok duration ∧
      d' = { d.atSpan s statusCodesFail duration with type, target, data, resultCode } := by
  obtain ⟨duration, hduration, hd⟩ := ofSpan_eq_ok_iff.1 h
  cases inProcess with
  | true => exact ⟨duration, _, _, _, _, hduration, hd.symm⟩
  | false =>
    obtain ⟨type, target, data, resultCode, hframe⟩ := describe_frame hd
    exact ⟨duration, type, target, data, resultCode, hduration, hframe⟩

/-- The properties of a call have no part in what its span says. -/
theorem ofSpan_withProperties (d : DependencyData) (properties : Table String) (s : Span)
    (inProcess statusCodesFail : Bool) (appId : Option String) :
    ofSpan { d with properties } s inProcess statusCodesFail appId =
      (d.ofSpan s inProcess statusCodesFail appId).map ({ · with properties }) := by
  unfold ofSpan
  cases durationText s.durationNanos with
  | error e => rfl
  | ok duration =>
    cases inProcess with
    | true => rfl
    | false => exact describe_withProperties (d.atSpan s statusCodesFail duration) properties _ _ _

end DependencyData

/-! ### Descriptions of payloads -/

/-- A description of payloads in which their properties have no part, and which leaves their kind. -/
structure ItemData.IsDescription (f : ItemData → Text.Written ItemData) : Prop where
  isOfSpan : ∀ {x y}, f x = .ok y → y.isOfSpan = x.isOfSpan
  withProperties : ∀ x properties,
    f (x.withProperties properties) = (f x).map (·.withProperties properties)

namespace ItemData

/-- A payload that is described has the properties that it had. -/
theorem IsDescription.properties {f : ItemData → Text.Written ItemData} (hf : IsDescription f)
    {x y : ItemData} (h : f x = .ok y) : y.properties = x.properties := by
  have hsame := hf.withProperties x x.properties
  rw [x.withProperties_self, h] at hsame
  rw [Except.ok.inj hsame, properties_withProperties]

variable (m : Mapper) (s : Span)

/-- A description of requests. -/
theorem isDescription_request : IsDescription (describeRequest m s) where
  isOfSpan := by
    intro x y h
    cases x with
    | request d =>
      obtain ⟨d', -, rfl⟩ := map_eq_ok_iff.1 h
      rfl
    | _ => obtain rfl := Except.ok.inj h; rfl
  withProperties := by
    intro x properties
    cases x with
    | request d =>
      have hd := d.describe_withProperties properties s m.statusCodesFail m.appId
      simp only [ItemData.withProperties, describeRequest, hd]
      cases d.describe s m.statusCodesFail m.appId <;> rfl
    | _ => rfl

/-- A description of dependencies. -/
theorem isDescription_dependency (inProcess : Bool) :
    IsDescription (describeDependency m s inProcess) where
  isOfSpan := by
    intro x y h
    cases x with
    | dependency d =>
      obtain ⟨d', -, rfl⟩ := map_eq_ok_iff.1 h
      rfl
    | _ => obtain rfl := Except.ok.inj h; rfl
  withProperties := by
    intro x properties
    cases x with
    | dependency d =>
      have hd := d.ofSpan_withProperties properties s inProcess m.statusCodesFail m.appId
      simp only [ItemData.withProperties, describeDependency, hd]
      cases d.ofSpan s inProcess m.statusCodesFail m.appId <;> rfl
    | _ => rfl

end ItemData

namespace NewItem

variable {n : NewItem} {f : ItemData → Text.Written ItemData} {i : Item}

/-- A payload that is in its place is described there. -/
theorem describe_of_inPlace (h : n.displaced = none) :
    n.describe f = (f n.item.data).map fun data => { n.item with data } := by
  simp only [describe, made, h, Option.getD_none]
  cases f n.item.data <;> rfl

/-- A payload that another one stands for is described where the item does not show it. -/
theorem describe_of_displaced {data : ItemData} (h : n.displaced = some data) :
    n.describe f = (f data).map fun _ => n.item := by
  simp only [describe, made, h, Option.getD_some]
  cases f data <;> rfl

/-- **A new item that is described** has its payload described or left as it is, and nothing else of it is
    changed. -/
theorem describe_frame (h : n.describe f = .ok i) :
    ∃ data, i = { n.item with data } ∧ (data = n.item.data ∨ f n.item.data = .ok data) := by
  cases hplace : n.displaced with
  | none =>
    rw [describe_of_inPlace hplace] at h
    obtain ⟨data, hdata, rfl⟩ := map_eq_ok_iff.1 h
    exact ⟨data, rfl, Or.inr hdata⟩
  | some made =>
    rw [describe_of_displaced hplace] at h
    obtain ⟨data, -, rfl⟩ := map_eq_ok_iff.1 h
    exact ⟨n.item.data, rfl, Or.inl rfl⟩

section Described

variable (h : n.describe f = .ok i)

include h

/-- The item has the tags that it had. -/
theorem tag?_of_describe (tag : TagKey) : i.tag? tag = n.item.tag? tag := by
  obtain ⟨data, rfl, -⟩ := describe_frame h
  rfl

/-- It has the sample rate that it had. -/
theorem sampleRate_of_describe : i.sampleRate = n.item.sampleRate := by
  obtain ⟨data, rfl, -⟩ := describe_frame h
  rfl

/-- It has the instrumentation key that it had. -/
theorem instrumentationKey_of_describe : i.instrumentationKey = n.item.instrumentationKey := by
  obtain ⟨data, rfl, -⟩ := describe_frame h
  rfl

/-- The item is of the kind that it was. -/
theorem isOfSpan_of_describe (hf : ItemData.IsDescription f) :
    i.data.isOfSpan = n.item.data.isOfSpan := by
  obtain ⟨data, rfl, rfl | hdata⟩ := describe_frame h
  · rfl
  · exact hf.isOfSpan hdata

/-- The item has the properties that it had. -/
theorem properties_of_describe (hf : ItemData.IsDescription f) : i.properties = n.item.properties := by
  obtain ⟨data, rfl, rfl | hdata⟩ := describe_frame h
  · rfl
  · exact hf.properties hdata

end Described

end NewItem

end SpanTelemetry
