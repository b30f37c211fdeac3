import SpanTelemetry.Proofs.Export.Batch
import SpanTelemetry.Proofs.Mapper.Builders
import SpanTelemetry.Proofs.Mapper.Delivery
import SpanTelemetry.Proofs.Mapper.Metric

namespace SpanTelemetry

/-!
# Items of events belong to the item of their span

The items of one span are shown together: those of its events point to its own by their tags.  The
initializer may set defaults, as long as it sets the same ones on every item.

* `Item.BelongsTo` — what the item of an event shares with the item of its span.
* `Item.Heads` — what the mapper puts on the item of a span for the items of its events.
* `Group`, `Group.Correlated` — the items that are handed on for a span, and how they belong together.
* `HandsGroups` — what is handed to a sink is made of such groups.
* `Mapper.handed_correlated` — single spans and batches of them hand on such groups.
-/

/-- An item of an event belongs to the item of a span. -/
structure Item.BelongsTo (e i : Item) : Prop where
  sameOperation : (i.tag? .operationId).isSome ∧ e.tag? .operationId = i.tag? .operationId
  isChild : i.data.id?.isSome ∧ e.tag? .operationParentId = i.data.id?
  sameName : e.tag? .operationName = i.tag? .operationName
  sameRate : e.sampleRate = i.sampleRate

/-- What the mapper puts on the item of a span for the items of its events. -/
structure Item.Heads (i : Item) (d : ItemDefaults) (s : Span) (percentage : Quantity) : Prop where
  isOfSpan : i.data.isOfSpan = true
  id : i.data.id? = some (spanIdText s.context.spanId)
  operationId : i.tag? .operationId = some (traceIdText s.context.traceId)
  /-- Where it names no operation, neither a bridge nor a default does. -/
  operationName : (i.tag? .operationName).or
    ((bridgedOperationName? s.attributes).or (d.tag? .operationName)) = i.tag? .operationName
  sampleRate : i.sampleRate = if percentage.isNumber 100 then d.sampleRate else percentage
  nameOfRequest : ∀ r, i.data = .request r → r.name.isSome ∧ i.tag? .operationName = r.name

variable {m : Mapper} {d : ItemDefaults} {s : Span} {percentage : Quantity} {i j : Item}

/-! ### The item of a span -/

/-- A request heads the items of the events of its span. -/
theorem Mapper.request_heads (hinit : m.SetsDefaults d)
    (h : (m.request s percentage).value? = some i) : i.Heads d s percentage := by
  obtain ⟨base, r, hr, hdata⟩ := data_request (fun new => hinit.keepsPayloads.keepsTypes _ new .request) h
  obtain ⟨new, time, i, waiting, hnew, -, -, hi, -, hfilled⟩ := value?_request_iff.1 h
  obtain ⟨duration, responseCode, source, -, -, -, rfl⟩ := RequestData.describe_eq_ok_iff.1 hr
  obtain ⟨measurements, rfl⟩ := Item.addMeasurement?_frame hfilled
  obtain rfl := hinit _ _ .request hnew
  have htag (tag : TagKey) : (i.fillRequest s percentage time).tag? tag =
      (s.requestTag? tag).or (d.tag? tag) := by
    rw [Item.tag?_fillRequest, NewItem.tag?_of_describe hi, ItemDefaults.tag?_apply_new]
  have hname : (i.fillRequest s percentage time).tag? .operationName = some s.operationName :=
    htag .operationName
  refine ⟨?_, ?_, htag .operationId, ?_, ?_, ?_⟩
  · rw [hdata]
    rfl
  · rw [hdata]
    rfl
  · -- a request names its operation, so that nothing is left to a bridge or a default
    exact hname ▸ rfl
  · show (i.fillRequest s percentage time).sampleRate = _
    rw [Item.sampleRate_fillRequest, NewItem.sampleRate_of_describe hi,
      ItemDefaults.sampleRate_apply_new]
  · intro r' hr'
    rw [hdata] at hr'
    cases hr'
    exact ⟨rfl, hname⟩

/-- A dependency heads the items of the events of its span. -/
theorem Mapper.dependency_heads (hinit : m.SetsDefaults d) {inProcess : Bool}
    (h : (m.dependency s percentage inProcess).value? = some i) : i.Heads d s percentage := by
  obtain ⟨base, c, hc, hdata⟩ :=
    data_dependency (fun new => hinit.keepsPayloads.keepsTypes _ new .dependency) h
  obtain ⟨new, time, i, hnew, -, -, hi, rfl⟩ := value?_dependency_iff.1 h
  obtain ⟨duration, type, target, data, resultCode, -, rfl⟩ := DependencyData.ofSpan_frame hc
  obtain rfl := hinit _ _ .dependency hnew
  have htag (tag : TagKey) : (i.fillDependency s percentage time).tag? tag =
      (s.dependencyTag? tag).or (d.tag? tag) := by
    rw [Item.tag?_fillDependency, NewItem.tag?_of_describe hi, ItemDefaults.tag?_apply_new]
  refine ⟨?_, ?_, htag .operationId, ?_, ?_, ?_⟩
  · rw [hdata]
    rfl
  · rw [hdata]
    rfl
  · -- a dependency is named by a bridge or by a default, as its events would be
    rw [htag]
    cases hbridged : bridgedOperationName? s.attributes <;> simp [Span.dependencyTag?, hbridged]
  · rw [Item.sampleRate_fillDependency, NewItem.sampleRate_of_describe hi,
      ItemDefaults.sampleRate_apply_new]
  · intro r hr
    rw [hdata] at hr
    cases hr

/-- The item of a span heads the items of its events. -/
theorem Mapper.map_heads (hinit : m.SetsDefaults d)
    (h : (m.map s percentage).value? = some i) : i.Heads d s percentage := by
  rcases map_cases h with ⟨-, h⟩ | ⟨inProcess, -, h⟩
  · exact request_heads hinit h
  · exact dependency_heads hinit h

/-! ### The items of its events -/

/-- An item belongs to the item of a span if it has the tags of an event and the rate of the span. -/
theorem Item.Heads.belongsTo (h : i.Heads d s percentage) (attributes : Attributes)
    (htag : ∀ tag, j.tag? tag =
      (s.eventTag? (i.tag? .operationName) attributes tag).or (d.tag? tag))
    (hrate : j.sampleRate = if percentage.isNumber 100 then d.sampleRate else percentage) :
    j.BelongsTo i where
  sameOperation := by
    rw [htag, h.operationId]
    exact ⟨rfl, rfl⟩
  isChild := by
    rw [htag, h.id]
    exact ⟨rfl, rfl⟩
  sameName := by
    rw [htag, Span.eventTag?, Option.or_assoc]
    exact h.operationName
  sameRate := by rw [hrate, h.sampleRate]

/-- An item of an event is of no span, and belongs to the item of its span. -/
theorem Item.Heads.belongsTo_of_emit (h : i.Heads d s percentage)
    (hinit : m.SetsDefaults d) {built : Mapping Item}
    (hbuilt : .emit built ∈ m.eventSteps s (i.tag? .operationName) percentage)
    (hj : built.value? = some j) : j.data.isOfSpan = false ∧ j.BelongsTo i := by
  have hkeeps := hinit.keepsPayloads
  rcases Mapper.emit_mem_eventSteps hbuilt with ⟨e, rfl⟩ | ⟨stackTrace, rfl⟩
  · obtain ⟨properties, hdata⟩ := Mapper.data_message hkeeps hj
    obtain ⟨new, time, hnew, -, -, rfl⟩ := Mapper.value?_message_iff.1 hj
    obtain rfl := hinit _ _ (.message e.name) hnew
    refine ⟨by rw [hdata]; rfl, h.belongsTo e.attributes (fun tag => ?_) ?_⟩
    · rw [Item.tag?_fillMessage, ItemDefaults.tag?_apply_new]
    · rw [Item.sampleRate_fillMessage, ItemDefaults.sampleRate_apply_new]
  · obtain ⟨details, properties, -, hdata⟩ := Mapper.data_exception hkeeps hj
    obtain ⟨new, time, details, hnew, -, -, rfl⟩ := Mapper.value?_exception_iff.1 hj
    obtain rfl := hinit _ _ .exception hnew
    refine ⟨by rw [hdata]; rfl, h.belongsTo ∅ (fun tag => ?_) ?_⟩
    · rw [Item.tag?_fillException, ItemDefaults.tag?_apply_new]
    · rw [Item.sampleRate_fillException, ItemDefaults.sampleRate_apply_new]

/-! ### Groups -/

/-- What is handed on for a span: its own item, and behind it those of its events and its metric. -/
structure Group where
  span : Span
  item : Item
  rest : List Item

namespace Group

/-- The items of a group. -/
def items (g : Group) : List Item := g.item :: g.rest

/-- The items of a group belong together, where the mapper sets the given defaults. -/
structure Correlated (g : Group) (m : Mapper) (d : ItemDefaults) : Prop where
  isMapped : (m.map g.span g.span.samplingPercentage).value? = some g.item
  isOfSpan : g.item.data.isOfSpan = true
  nameOfRequest : ∀ r, g.item.data = .request r →
    r.name.isSome ∧ g.item.tag? .operationName = r.name
  isSampled : d.sampleRate = none →
    (g.item.sampleRate.isSome ↔ g.span.samplingPercentage.isNumber 100 = false)
  noOtherSpan : ∀ e ∈ g.rest, e.data.isOfSpan = false
  belongs : ∀ e ∈ g.rest, e.data.isOfEvent = true → e.BelongsTo g.item

/-- A group is correlated if all behind its first item are items of events or metrics. -/
theorem correlated_of_rest (hinit : m.SetsDefaults d)
    (hmap : (m.map s s.samplingPercentage).value? = some i) (rest : List Item)
    (hrest : ∀ e ∈ rest, Metric.IsMetric e ∨ ∃ built,
      .emit built ∈ m.eventSteps s (i.tag? .operationName) s.samplingPercentage ∧
        built.value? = some e) : Correlated ⟨s, i, rest⟩ m d := by
  have hheads := m.map_heads hinit hmap
  have heach : ∀ e ∈ rest, e.data.isOfSpan = false ∧ (e.data.isOfEvent = true → e.BelongsTo i) := by
    intro e he
    rcases hrest e he with ⟨metric, hmetric⟩ | ⟨built, hbuilt, hvalue⟩
    · rw [hmetric]
      exact ⟨rfl, fun h => absurd h (by simp [ItemData.isOfEvent])⟩
    · obtain ⟨hspan, hbelongs⟩ := hheads.belongsTo_of_emit hinit hbuilt hvalue
      exact ⟨hspan, fun _ => hbelongs⟩
  refine ⟨hmap, hheads.isOfSpan, hheads.nameOfRequest, ?_, fun e he => (heach e he).1,
    fun e he => (heach e he).2⟩
  intro hnone
  have hsome : s.samplingPercentage.isSome := Sampling.percentage_isSome _ rfl
  rw [hheads.sampleRate, hnone]
  split <;> simp_all

end Group

/-! ### Exporting -/

/-- What is handed to a sink for spans: correlated groups, at most one for each span, in the order of
    the spans. -/
def HandsGroups (m : Mapper) (d : ItemDefaults) (spans : List Span) (before after : Sink) : Prop :=
  ∃ groups : List Group, after.offered = before.offered ++ groups.flatMap Group.items ∧
    (groups.map Group.span).Sublist spans ∧ ∀ g ∈ groups, g.Correlated m d

section Exporting

variable {x : Exporter} {items calls : List Item}

/-- Behind the item of a span stand the items of its events and its metric. -/
theorem Exporter.items?_eq_cons (h : x.items? s = some items) :
    ∃ i rest, items = i :: rest ∧ (x.mapper.map s s.samplingPercentage).value? = some i ∧
      ∀ e ∈ rest, Metric.IsMetric e ∨ ∃ built,
        .emit built ∈ x.mapper.eventSteps s (i.tag? .operationName) s.samplingPercentage ∧
          built.value? = some e := by
  obtain ⟨i, events, metric, hi, hevents, hmetric, rfl⟩ := items?_eq_some h
  refine ⟨i, _, rfl, hi, fun e he => ?_⟩
  rcases List.mem_append.1 he with he | he
  · exact Or.inr (EventStep.mem_items? hevents he)
  · left
    obtain rfl : metric = some e := by simpa using he
    unfold metricItem? at hmetric
    split at hmetric
    · exact Metric.isMetric_ofSpan hmetric
    · simp at hmetric

/-- An initial part of the items of a span is nothing or a correlated group. -/
theorem Exporter.correlated_of_prefix (hinit : x.mapper.SetsDefaults d)
    (h : x.items? s = some items) (hcalls : calls <+: items) :
    calls = [] ∨ ∃ g : Group, g.span = s ∧ g.items = calls ∧ g.Correlated x.mapper d := by
  obtain ⟨i, rest, rfl, hmap, hrest⟩ := items?_eq_cons h
  rcases List.prefix_cons_iff.1 hcalls with rfl | ⟨part, rfl, hpart⟩
  · exact Or.inl rfl
  · exact Or.inr ⟨⟨s, i, part⟩, rfl, rfl,
      Group.correlated_of_rest hinit hmap part fun e he => hrest e (hpart.mem he)⟩

/-- An initial part of the items of a batch is made of correlated groups. -/
theorem Exporter.groups_of_prefix (hinit : x.mapper.SetsDefaults d)
    {spans : List Span} (h : calls <+: x.batchItems spans) :
    ∃ groups : List Group, calls = groups.flatMap Group.items ∧
      (groups.map Group.span).Sublist spans ∧ ∀ g ∈ groups, g.Correlated x.mapper d := by
  induction spans generalizing calls with
  | nil => exact ⟨[], by simpa using h, by simp, by simp⟩
  | cons s rest ih =>
    cases hs : x.items? s with
    | none =>
      rw [x.batchItems_cons_of_none hs] at h
      obtain ⟨groups, hcalls, hspans, heach⟩ := ih h
      exact ⟨groups, hcalls, hspans.cons s, heach⟩
    | some items =>
      rw [x.batchItems_cons_of_some hs] at h
      -- either the calls end within the items of the span, or all of these are among them
      rcases List.prefix_or_prefix_of_prefix h (List.prefix_append items _) with hpart | hall
      · rcases correlated_of_prefix hinit hs hpart with rfl | ⟨g, hspan, hitems, hg⟩
        · exact ⟨[], by simp, by simp, by simp⟩
        · exact ⟨[g], by simp [hitems], by simp [hspan], by simpa using hg⟩
      · obtain ⟨more, rfl⟩ := hall
        obtain ⟨groups, rfl, hspans, heach⟩ := ih ((List.prefix_append_right_inj items).1 h)
        rcases correlated_of_prefix hinit hs (List.prefix_refl items) with rfl | ⟨g, hspan, hitems, hg⟩
        · exact ⟨groups, rfl, hspans.cons s, heach⟩
        · refine ⟨g :: groups, by simp [hitems], ?_, ?_⟩
          · rw [List.map_cons, hspan]
            exact hspans.cons_cons s
          · intro g' hg'
            rcases List.mem_cons.1 hg' with rfl | hg'
            · exact hg
            · exact heach g' hg'

/-- A batch hands on groups, whether its exporter is shut down or not. -/
theorem Session.send_handsGroups (x : Session)
    (hinit : x.exporter.mapper.SetsDefaults d) (spans : List Span) :
    HandsGroups x.exporter.mapper d spans x.sink (x.send spans).2.sink := by
  cases hshut : x.exporter.isShutdown with
  | true => exact ⟨[], by simp [send, hshut], by simp, by simp⟩
  | false =>
    rw [send_sink hshut]
    obtain ⟨calls, hoffered, hcalls⟩ := x.sink.offered_handAll (x.exporter.batchItems spans)
    obtain ⟨groups, rfl, hspans, heach⟩ := Exporter.groups_of_prefix hinit hcalls
    exact ⟨groups, hoffered, hspans, heach⟩

end Exporting

/-- **Items of events belong to the item of their span.**  If the initializer does nothing but set
    defaults, then a span hands on a group, whatever the sink does: its item, and behind it items of
    its events that carry the operation id, the operation name and the sample rate of that item, and
    its id as their parent.  A batch hands on nothing but such groups, at most one for each span. -/
theorem Mapper.handed_correlated (m : Mapper) (d : ItemDefaults)
    (hinit : m.SetsDefaults d) :
    (∀ (s : Span) (k : Sink), (m.map s s.samplingPercentage).value? = none →
      (m.deliver s s.samplingPercentage k).sink.offered = k.offered) ∧
    (∀ (s : Span) (k : Sink) (i : Item), (m.map s s.samplingPercentage).value? = some i →
      ∃ rest, (m.deliver s s.samplingPercentage k).sink.offered = k.offered ++ i :: rest ∧
        Group.Correlated ⟨s, i, rest⟩ m d ∧
        ((∀ n, ¬ k.Fails n) → ∀ events,
          m.eventItems? s (i.tag? .operationName) s.samplingPercentage = some events →
            rest = events)) ∧
    ∀ (x : Session) (spans : List Span), x.exporter.mapper = m →
      HandsGroups m d spans x.sink (x.send spans).2.sink := by
  refine ⟨fun s k => offered_deliver_of_none, ?_, ?_⟩
  · intro s k i hmap
    obtain ⟨rest, hoffered, heach, hall⟩ := offered_deliver_of_some (k := k) hmap
    refine ⟨rest, hoffered, ?_, hall⟩
    exact Group.correlated_of_rest hinit hmap rest fun e he => Or.inr (heach e he)
  · rintro x spans rfl
    exact x.send_handsGroups hinit spans

/-- Defaults that name an operation. -/
def exampleDefaults : ItemDefaults where
  tags := [(.operationName, "nightly")]

/-- A mapper that sets them. -/
def exampleMapper : Mapper where
  initializer := fun i => .ok { item := exampleDefaults.apply i }

/-- A call with an event hands on two items, which belong together by the default name. -/
theorem handed_correlated_nightly :
    exampleMapper.SetsDefaults exampleDefaults ∧
      ∃ i rest, (exampleMapper.map Session.exampleCall
          Session.exampleCall.samplingPercentage).value? = some i ∧
        (exampleMapper.deliver Session.exampleCall Session.exampleCall.samplingPercentage
          .reliable).sink.offered = i :: rest ∧
        Group.Correlated ⟨Session.exampleCall, i, rest⟩ exampleMapper exampleDefaults ∧
        (i :: rest).map (fun i => i.tag? .operationName) = [some "nightly", some "nightly"] := by
  have hinit : exampleMapper.SetsDefaults exampleDefaults := by
    rintro data new - ⟨⟩
    rfl
  have hmapped : (exampleMapper.map Session.exampleCall
      Session.exampleCall.samplingPercentage).value?.isSome := by decide +kernel
  have htags : (exampleMapper.deliver Session.exampleCall Session.exampleCall.samplingPercentage
      .reliable).sink.offered.map (fun i => i.tag? .operationName) =
        [some "nightly", some "nightly"] := by decide +kernel
  obtain ⟨i, hi⟩ := Option.isSome_iff_exists.1 hmapped
  obtain ⟨rest, hoffered, hgroup, -⟩ :=
    (exampleMapper.handed_correlated exampleDefaults hinit).2.1 Session.exampleCall .reliable i hi
  rw [hoffered] at htags
  exact ⟨hinit, i, rest, hi, hoffered, hgroup, htags⟩

end SpanTelemetry
