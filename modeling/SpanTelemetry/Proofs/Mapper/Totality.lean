import SpanTelemetry.Proofs.Binary64.Overflow
import SpanTelemetry.Proofs.Mapper.Builders
import SpanTelemetry.Proofs.Protocol.Written
import SpanTelemetry.Proofs.Time.Duration
import SpanTelemetry.Proofs.Time.Timestamp

namespace SpanTelemetry

/-!
# Which spans can be mapped

Without an initializer a span can be mapped unless its kind is unknown, it starts too late or lasts too
long to be written down, or it was waiting for too long to be measured.  As long as its attributes have no
integers with too many digits, nothing that they, its trace state, its scope or its parent say can keep it
from being mapped otherwise.

* `Span.Serves` — the spans that become requests, without reference to how they are told apart.
* `Span.StartsTooLate`, `Span.LastsTooLong`, `Span.WaitsTooLong` — the times and the numbers that are too
  large.
* `Span.itemKind_cases` — the kind of item of a span.
* `enqueuedMillis?_eq_error_iff` — when the waiting time fails; the time of start does if it is too late.
* `RequestData.exists_describe_iff`, `DependencyData.exists_ofSpan_iff` — when a payload is described.
* `Mapper.request_cases`, `Mapper.dependency_cases` — what building an item comes to.
* `Mapper.map_total` — when a span is mapped, and to what.
-/

/-! ### Conditions -/

/-- An integer for which there is no double. -/
def Binary64.Overflows (n : Int) : Prop := Binary64.overflowBound ≤ n.natAbs

namespace Span

variable (s : Span)

/-- What this component served. -/
inductive Serves : Prop where
  /-- A call to it. -/
  | call (kind : s.kind = .server)
  /-- A message that it was given; one that it has asked for is a call of its own. -/
  | message (kind : s.kind = .consumer)
      (given : s.attributes.string? AttributeKey.messagingOperation ≠ some "receive")
  /-- A job that nothing but a scheduler has started. -/
  | job (kind : s.kind = .internal) (scope : String) (hasScope : s.scope = some scope)
      (scheduled : schedulingScope.toList <+: scope.toList)
      (hasNoParent : ∀ p, s.parent = some p → ¬ p.IsValid)

/-- The span starts after the last second that can be written down. -/
def StartsTooLate : Prop := (lastSecond : Int) < max s.start 0 / 1000000000

/-- The span lasts for so many days that they have too many digits to be written. -/
def LastsTooLong : Prop := 10 ^ Text.maxDigits ≤ max s.durationNanos 0 / 86400000000000

/-- The span carries a time in seconds at which its message was put in, or the milliseconds that it was
    waiting, and the waiting time has no double. -/
def WaitsTooLong : Prop :=
  (∃ enqueued, s.attributes.int? AttributeKey.enqueuedTime = some enqueued ∧
    Binary64.Overflows (max 0 (s.start.fdiv 1000000 - enqueued * 1000))) ∨
  ∃ waited, s.attributes.int? AttributeKey.kafkaRecordQueueTime = some waited ∧
    Binary64.Overflows waited

/-! ### Kinds -/

/-- A scheduled job is known by its scope and by having no parent. -/
theorem isScheduledJob_iff : s.isScheduledJob = true ↔
    ∃ scope, s.scope = some scope ∧ schedulingScope.toList <+: scope.toList ∧
      ∀ p, s.parent = some p → ¬ p.IsValid := by
  unfold isScheduledJob validParent?
  cases s.scope with
  | none => simp
  | some scope =>
    cases s.parent <;> simp [Text.startsWith_eq_true_iff, Option.filter]

/-- **The kind of item of a span**: unknown, a request, or a dependency, which is one within the process
    iff the span is internal. -/
theorem itemKind_cases :
    (∃ name e, s.kind = .unsupported name ∧ s.itemKind = .error e ∧
      ∀ text, e = .unsupportedKind text ↔ name = .ok text) ∨
    ((∀ name, s.kind ≠ .unsupported name) ∧ s.Serves ∧ s.itemKind = .ok .request) ∨
    (∀ name, s.kind ≠ .unsupported name) ∧ ¬ s.Serves ∧
      s.itemKind = .ok (.dependency (decide (s.kind = .internal))) := by
  unfold itemKind
  cases hkind : s.kind with
  | server => exact Or.inr (Or.inl ⟨nofun, .call hkind, rfl⟩)
  | unsupported name => cases name <;> exact Or.inl ⟨_, _, rfl, rfl, by simp⟩
  | internal =>
    by_cases hjob : s.isScheduledJob = true
    · obtain ⟨scope, hscope, hbegins, hparent⟩ := s.isScheduledJob_iff.1 hjob
      exact Or.inr (Or.inl ⟨nofun, .job hkind scope hscope hbegins hparent, by simp [hjob]⟩)
    · refine Or.inr (Or.inr ⟨nofun, fun h => ?_, by simp [hjob]⟩)
      cases h with
      | job _ scope hscope hbegins hparent =>
        exact hjob (s.isScheduledJob_iff.2 ⟨scope, hscope, hbegins, hparent⟩)
      | _ => simp_all
  | consumer =>
    by_cases hreceive : s.attributes.string? AttributeKey.messagingOperation = some "receive"
    · refine Or.inr (Or.inr ⟨nofun, fun h => ?_, by simp [isReceive, hreceive]⟩)
      cases h with
      | message _ hgiven => exact hgiven hreceive
      | _ => simp_all
    · exact Or.inr (Or.inl ⟨nofun, .message hkind hreceive, by simp [isReceive, hreceive]⟩)
  | _ =>
    refine Or.inr (Or.inr ⟨nofun, fun h => ?_, rfl⟩)
    cases h <;> simp_all

end Span

/-! ### Times and numbers -/

/-- An integer fails for being too large for a double, and for nothing else. -/
theorem doubleOf?_eq_error_iff {n? : Option Int} {e : MappingError} :
    doubleOf? n? = .error e ↔ (∃ n, n? = some n ∧ Binary64.Overflows n) ∧ e = .numberTooLarge := by
  cases n? with
  | none => simp [doubleOf?]
  | some n =>
    have herror : doubleOf? (some n) = .error e ↔ doubleOrError (Binary64.ofInt? n) = .error e := by
      rw [doubleOf?]
      cases doubleOrError (Binary64.ofInt? n) <;> simp [Except.map]
    rw [herror, doubleOrError_eq_error_iff, Binary64.ofInt?_eq_none_iff]
    simp [Binary64.Overflows]

/-- The waiting time of a span can be measured unless one of the two numbers is too large. -/
theorem enqueuedMillis?_eq_error_iff {s : Span} {e : MappingError} :
    enqueuedMillis? s.start s.attributes = .error e ↔ s.WaitsTooLong ∧ e = .numberTooLarge := by
  have hwaits : s.WaitsTooLong ↔
      (∃ n, (s.attributes.int? AttributeKey.enqueuedTime).map (millisSince · s.start) = some n ∧
        Binary64.Overflows n) ∨
      ∃ n, s.attributes.int? AttributeKey.kafkaRecordQueueTime = some n ∧ Binary64.Overflows n := by
    cases hn : s.attributes.int? AttributeKey.enqueuedTime <;>
      simp [Span.WaitsTooLong, millisSince, hn]
  rw [hwaits, or_and_right, ← doubleOf?_eq_error_iff, ← doubleOf?_eq_error_iff, enqueuedMillis?]
  generalize hsince : doubleOf? ((s.attributes.int? AttributeKey.enqueuedTime).map
    (millisSince · s.start)) = since
  generalize hmeasured : doubleOf? (s.attributes.int? AttributeKey.kafkaRecordQueueTime) = measured
  cases since with
  | ok since => cases measured <;> simp [bind, Except.bind, pure, Except.pure]
  | error e' =>
    -- the first number fails alone, but the second would fail in the same way
    obtain ⟨-, rfl⟩ := doubleOf?_eq_error_iff.1 hsince
    refine ⟨Or.inl, fun h => ?_⟩
    rcases h with h | rfl
    · exact h
    · obtain ⟨-, rfl⟩ := doubleOf?_eq_error_iff.1 hmeasured
      rfl

/-! ### Texts -/

namespace Attributes.HasNoLongInteger

variable {attributes : Attributes} (h : attributes.HasNoLongInteger)

include h

/-- Then all attributes can be written. -/
theorem writable : attributes.Writable := fun key value hvalue _ => h key value hvalue

/-- The code that a request was answered with can be written. -/
theorem exists_responseCode : ∃ code, attributes.responseCode = .ok code := by
  refine ⟨_, Text.ofInt_eq_ok_iff.2 ⟨?_, rfl⟩⟩
  cases hcode : attributes.statusCode? with
  | none => exact Nat.pow_pos (by decide)
  | some code => exact h.statusCode hcode

end Attributes.HasNoLongInteger

/-- Where the attributes can be written, a request is described unless its duration cannot be. -/
theorem RequestData.exists_describe_iff (d : RequestData) {s : Span} (statusCodesFail : Bool)
    (appId : Option String) (hshort : s.attributes.HasNoLongInteger) :
    (∃ d', d.describe s statusCodesFail appId = .ok d') ↔ ¬ s.LastsTooLong := by
  rw [Span.LastsTooLong, ← exists_durationText_error_iff]
  cases hduration : durationText s.durationNanos with
  | error e =>
    refine iff_of_false ?_ (not_not_intro ⟨e, rfl⟩)
    rintro ⟨d', hd⟩
    obtain ⟨duration, -, -, hwritten, -⟩ := describe_eq_ok_iff.1 hd
    rw [hduration] at hwritten
    cases hwritten
  | ok duration =>
    refine iff_of_true ?_ (by simp)
    obtain ⟨code, hcode⟩ := hshort.exists_responseCode
    have hsource : ∃ source, s.source? appId = .ok source := by
      unfold Span.source?
      split
      · exact ⟨_, rfl⟩
      · exact Attributes.exists_messagingEndpoint? (hshort.hasShortIntegers _)
    obtain ⟨source, hsource⟩ := hsource
    exact ⟨_, describe_eq_ok_iff.2 ⟨duration, code, source, hduration, hcode, hsource, rfl⟩⟩

/-- So is a call. -/
theorem DependencyData.exists_ofSpan_iff (d : DependencyData) {s : Span}
    (inProcess statusCodesFail : Bool) (appId : Option String)
    (hshort : s.attributes.HasNoLongInteger) :
    (∃ d', d.ofSpan s inProcess statusCodesFail appId = .ok d') ↔ ¬ s.LastsTooLong := by
  rw [Span.LastsTooLong, ← exists_durationText_error_iff]
  cases hduration : durationText s.durationNanos with
  | error e =>
    refine iff_of_false ?_ (not_not_intro ⟨e, rfl⟩)
    rintro ⟨d', hd⟩
    obtain ⟨duration, hwritten, -⟩ := ofSpan_eq_ok_iff.1 hd
    rw [hduration] at hwritten
    cases hwritten
  | ok duration =>
    refine iff_of_true ?_ (by simp)
    cases inProcess with
    | true => exact ⟨_, ofSpan_eq_ok_iff.2 ⟨duration, hduration, rfl⟩⟩
    | false =>
      obtain ⟨d', hd⟩ := exists_describe (d.atSpan s statusCodesFail duration) s.kind appId
        (hshort.hasShortIntegers _)
      exact ⟨d', ofSpan_eq_ok_iff.2 ⟨duration, hduration, hd⟩⟩

/-! ### What building an item comes to -/

/-- A request takes every measurement. -/
theorem Item.addMeasurement?_of_request {i : Item} {r : RequestData} (h : i.data = .request r)
    (key : String) (value : Option Binary64) :
    ∃ j r', i.addMeasurement? key value = .ok j ∧ j.data = .request r' := by
  cases value with
  | none => exact ⟨i, r, rfl, h⟩
  | some x =>
    let r' : RequestData := { r with measurements := r.measurements.insert key (.double x) }
    refine ⟨{ i with data := .request r' }, r', ?_, rfl⟩
    simp only [addMeasurement?, addMeasurement, h]
    rfl

/-- A new request that no initializer has touched is described as a request is. -/
theorem NewItem.describe_request (m : Mapper) (s : Span) :
    ({ item := { data := .request {} } } : NewItem).describe (ItemData.describeRequest m s) =
      (RequestData.describe {} s m.statusCodesFail m.appId).map fun d => { data := .request d } := by
  rw [describe_of_inPlace rfl, ItemData.describeRequest]
  cases RequestData.describe {} s m.statusCodesFail m.appId <;> rfl

/-- So is a new dependency. -/
theorem NewItem.describe_dependency (m : Mapper) (s : Span) (inProcess : Bool) :
    ({ item := { data := .dependency {} } } : NewItem).describe
        (ItemData.describeDependency m s inProcess) =
      (DependencyData.ofSpan {} s inProcess m.statusCodesFail m.appId).map fun d =>
        { data := .dependency d } := by
  rw [describe_of_inPlace rfl, ItemData.describeDependency]
  cases DependencyData.ofSpan {} s inProcess m.statusCodesFail m.appId <;> rfl

namespace Mapper

section Building

variable {m : Mapper} (hinit : ∀ i, m.initializer i = .ok { item := i }) {s : Span}
  (hshort : s.attributes.HasNoLongInteger) (percentage : Quantity)

include hinit hshort

/-- **Requests.**  Nothing keeps a request from being built but its time, its duration and its waiting
    time. -/
theorem request_cases :
    ((s.StartsTooLate ∨ s.LastsTooLong ∨ s.WaitsTooLong) ∧
      ∃ e, (m.request s percentage).result = .error e ∧ ∀ name, e ≠ .unsupportedKind name) ∨
    (¬ (s.StartsTooLate ∨ s.LastsTooLong ∨ s.WaitsTooLong) ∧
      ∃ i r, (m.request s percentage).result = .ok i ∧ i.data = .request r) := by
  have hlate : s.StartsTooLate ↔ ∃ e, timestampText s.start = .error e :=
    exists_timestampText_error_iff.symm
  have hlasts := RequestData.exists_describe_iff {} m.statusCodesFail m.appId hshort
  have hnew := NewItem.describe_request m s
  rw [request, newItem_of_ok (hinit _), reviewAttributes_of_writable hshort.writable]
  -- what is written one after the other, and the first that cannot be
  cases htime : timestampText s.start with
  | error e =>
    refine Or.inl ⟨Or.inl (hlate.2 ⟨e, htime⟩), .time e, ?_, by simp⟩
    rw [Mapping.timestamp_of_error htime]
    rfl
  | ok time =>
    rw [Mapping.timestamp_of_ok htime]
    cases hd : RequestData.describe {} s m.statusCodesFail m.appId with
    | error e =>
      have hlong : s.LastsTooLong := by simpa [hd] using hlasts
      refine Or.inl ⟨Or.inr (Or.inl hlong), .text e, ?_, by simp⟩
      simp [Mapping.written_of_error (hnew.trans (map_eq_error_iff.2 hd))]
    | ok d =>
      have hwritten := hnew.trans (map_eq_ok_iff.2 ⟨d, hd, rfl⟩)
      cases hwaiting : enqueuedMillis? s.start s.attributes with
      | error e =>
        obtain ⟨hlong, rfl⟩ := enqueuedMillis?_eq_error_iff.1 hwaiting
        refine Or.inl ⟨Or.inr (Or.inr hlong), .numberTooLarge, ?_, by simp⟩
        simp [Mapping.written_of_ok hwritten, Mapping.ofExcept]
      | ok waiting =>
        have hfits : ¬ (s.StartsTooLate ∨ s.LastsTooLong ∨ s.WaitsTooLong) := by
          rintro (hstarts | hlong | hwaits)
          · obtain ⟨e, he⟩ := hlate.1 hstarts
            rw [htime] at he
            cases he
          · exact hlasts.1 ⟨d, hd⟩ hlong
          · have herror := enqueuedMillis?_eq_error_iff.2 ⟨hwaits, rfl⟩
            rw [hwaiting] at herror
            cases herror
        obtain ⟨j, r, hj, hr⟩ := Item.addMeasurement?_of_request
          (Item.data_fillRequest { data := .request d } s percentage time) waitingTime waiting
        refine Or.inr ⟨hfits, j, r, ?_, hr⟩
        simp [Mapping.written_of_ok hwritten, Mapping.ofExcept, hj]

/-- **Dependencies.**  Nothing keeps a dependency from being built but its time and its duration.  One
    within the process is described by its type alone. -/
theorem dependency_cases (inProcess : Bool) :
    ((s.StartsTooLate ∨ s.LastsTooLong) ∧
      ∃ e, (m.dependency s percentage inProcess).result = .error e ∧
        ∀ name, e ≠ .unsupportedKind name) ∨
    (¬ (s.StartsTooLate ∨ s.LastsTooLong) ∧
      ∃ i d, (m.dependency s percentage inProcess).result = .ok i ∧ i.data = .dependency d ∧
        (inProcess = true →
          d.type = some inProcessType ∧ d.target = none ∧ d.data = none ∧ d.resultCode = none)) := by
  have hlate : s.StartsTooLate ↔ ∃ e, timestampText s.start = .error e :=
    exists_timestampText_error_iff.symm
  have hlasts := DependencyData.exists_ofSpan_iff {} inProcess m.statusCodesFail m.appId hshort
  have hnew := NewItem.describe_dependency m s inProcess
  rw [dependency, newItem_of_ok (hinit _), reviewAttributes_of_writable hshort.writable]
  cases htime : timestampText s.start with
  | error e =>
    refine Or.inl ⟨Or.inl (hlate.2 ⟨e, htime⟩), .time e, ?_, by simp⟩
    rw [Mapping.timestamp_of_error htime]
    rfl
  | ok time =>
    rw [Mapping.timestamp_of_ok htime]
    cases hd : DependencyData.ofSpan {} s inProcess m.statusCodesFail m.appId with
    | error e =>
      have hlong : s.LastsTooLong := by simpa [hd] using hlasts
      refine Or.inl ⟨Or.inr hlong, .text e, ?_, by simp⟩
      simp [Mapping.written_of_error (hnew.trans (map_eq_error_iff.2 hd))]
    | ok d =>
      have hfits : ¬ (s.StartsTooLate ∨ s.LastsTooLong) := by
        rintro (hstarts | hlong)
        · obtain ⟨e, he⟩ := hlate.1 hstarts
          rw [htime] at he
          cases he
        · exact hlasts.1 ⟨d, hd⟩ hlong
      refine Or.inr ⟨hfits, _, _, ?_,
        Item.data_fillDependency { data := .dependency d } s percentage time, ?_⟩
      · simp [Mapping.written_of_ok (hnew.trans (map_eq_ok_iff.2 ⟨d, hd, rfl⟩))]
      · rintro rfl
        obtain ⟨duration, -, rfl⟩ := DependencyData.ofSpan_eq_ok_iff.1 hd
        exact ⟨rfl, rfl, rfl, rfl⟩

end Building

/-- **Every span is mapped that can be.**  Without an initializer, mapping a span whose attributes can be
    written fails iff its kind is unknown, which is what the error then says if the kind can be written, or
    it starts too late or lasts too long, or it becomes a request and waits too long.  Otherwise it becomes a
    request iff this component served it, and a dependency if not; one of an internal span is described by
    its type alone. -/
theorem map_total (m : Mapper) (hinit : ∀ i, m.initializer i = .ok { item := i }) (s : Span)
    (hshort : s.attributes.HasNoLongInteger) (percentage : Quantity) :
    ((∃ e, (m.map s percentage).result = .error e) ↔
      (∃ name, s.kind = .unsupported name) ∨ s.StartsTooLate ∨ s.LastsTooLong ∨
        (s.Serves ∧ s.WaitsTooLong)) ∧
    (∀ name, (m.map s percentage).result = .error (.unsupportedKind name) ↔
      s.kind = .unsupported (.ok name)) ∧
    ∀ i, (m.map s percentage).result = .ok i →
      ((∃ r, i.data = .request r) ↔ s.Serves) ∧
      (¬ s.Serves → ∃ d, i.data = .dependency d ∧
        (s.kind = .internal →
          d.type = some inProcessType ∧ d.target = none ∧ d.data = none ∧ d.resultCode = none)) := by
  rcases s.itemKind_cases with
    ⟨name, e, hkind, hitem, hname⟩ | ⟨hkind, hserves, hitem⟩ | ⟨hkind, hserves, hitem⟩
  -- one case for each kind of item, and within it one for each way that building it can end
  · have hmap : (m.map s percentage).result = .error e := by
      rw [map, hitem]
      rfl
    rw [hmap]
    exact ⟨by simp [hkind], by simp [hkind, hname], by simp⟩
  · have hmap : m.map s percentage = m.request s percentage := by
      rw [map, hitem]
    rw [hmap]
    rcases request_cases hinit hshort percentage with
      ⟨hlong, e, he, hother⟩ | ⟨hfits, i, r, hi, hr⟩
    · exact ⟨by simpa [he, hserves] using Or.inr hlong, by simp [he, hother, hkind], by simp [he]⟩
    · refine ⟨by simpa [hi, hkind, hserves] using hfits, by simp [hi, hkind], fun j hj => ?_⟩
      obtain rfl : i = j := Except.ok.inj (hi.symm.trans hj)
      exact ⟨by simp [hr, hserves], fun hnot => absurd hserves hnot⟩
  · have hmap : m.map s percentage = m.dependency s percentage (decide (s.kind = .internal)) := by
      rw [map, hitem]
    rw [hmap]
    rcases dependency_cases hinit hshort percentage (decide (s.kind = .internal)) with
      ⟨hlong, e, he, hother⟩ | ⟨hfits, i, d, hi, hd, hinternal⟩
    · exact ⟨by simpa [he, hserves] using Or.inr hlong, by simp [he, hother, hkind], by simp [he]⟩
    · refine ⟨by simpa [hi, hkind, hserves] using hfits, by simp [hi, hkind], fun j hj => ?_⟩
      obtain rfl : i = j := Except.ok.inj (hi.symm.trans hj)
      exact ⟨by simp [hd, hserves], fun _ => ⟨d, hd, fun h => hinternal (decide_eq_true h)⟩⟩

end Mapper

/-- A message that was waiting for longer than can be measured. -/
def exampleStaleMessage : Span where
  name := "poll"
  kind := .consumer
  context := ⟨1, 2, ∅⟩
  attributes := Table.ofList
    [(AttributeKey.kafkaRecordQueueTime, .int (Binary64.overflowBound : Int))]

/-- A step within the process. -/
def exampleStep : Span where
  name := "step"
  kind := .internal
  context := ⟨1, 2, ∅⟩

/-- The message is not mapped, and the step becomes a dependency within the process. -/
theorem map_total_examples :
    (∀ i, ({} : Mapper).initializer i = .ok { item := i }) ∧
      exampleStaleMessage.attributes.HasNoLongInteger ∧ exampleStep.attributes.HasNoLongInteger ∧
      (∃ e, (({} : Mapper).map exampleStaleMessage Sampling.everything).result = .error e) ∧
      ∃ i d, (({} : Mapper).map exampleStep Sampling.everything).result = .ok i ∧
        i.data = .dependency d ∧ d.type = some inProcessType ∧ d.target = none := by
  have hinit : ∀ i, ({} : Mapper).initializer i = .ok { item := i } := fun _ => rfl
  have hserves : exampleStaleMessage.Serves := .message rfl (by decide +kernel)
  have hlong : exampleStaleMessage.WaitsTooLong := Or.inr ⟨_, rfl, Nat.le_refl _⟩
  have hmapped : (({} : Mapper).map exampleStep Sampling.everything).value?.isSome := by
    decide +kernel
  obtain ⟨i, hi⟩ := Option.isSome_iff_exists.1 hmapped
  have hresult := Mapping.value?_eq_some_iff.1 hi
  have hbound : ¬ 10 ^ Text.maxDigits ≤ (Binary64.overflowBound : Int).natAbs := by decide +kernel
  have hshort : exampleStaleMessage.attributes.HasNoLongInteger := by
    refine Attributes.hasNoLongInteger_ofList fun e he => ?_
    rw [List.mem_singleton.1 he]
    exact fun hlong => hbound (Scalar.isLong_int_iff.1 (Value.hasLongInteger_scalar_iff.1 hlong))
  have hshort' : exampleStep.attributes.HasNoLongInteger := nofun
  obtain ⟨hfails, -, -⟩ := Mapper.map_total {} hinit exampleStaleMessage hshort Sampling.everything
  obtain ⟨-, -, hstep⟩ := Mapper.map_total {} hinit exampleStep hshort' Sampling.everything
  have hnot : ¬ exampleStep.Serves := by
    rintro (⟨⟨⟩⟩ | ⟨⟨⟩, -⟩ | ⟨-, scope, ⟨⟩, -, -⟩)
  obtain ⟨d, hd, hdescribed⟩ := (hstep i hresult).2 hnot
  obtain ⟨htype, htarget, -⟩ := hdescribed rfl
  exact ⟨hinit, hshort, hshort', hfails.2 (Or.inr (Or.inr (Or.inr ⟨hserves, hlong⟩))), i, d, hresult, hd,
    htype, htarget⟩

/-- A step within the process that lasts for some days. -/
def exampleLongStep (days : Nat) : Span :=
  { exampleStep with endTime := some (86400000000000 * days) }

/-- The step lasts too long iff its number of days has too many digits. -/
theorem lastsTooLong_exampleLongStep (days : Nat) :
    (exampleLongStep days).LastsTooLong ↔ (10 : Int) ^ Text.maxDigits ≤ days := by
  have hduration : (exampleLongStep days).durationNanos = 86400000000000 * (days : Int) := by
    simp [exampleLongStep, exampleStep, Span.durationNanos, Span.finish, Span.start]
  rw [Span.LastsTooLong, hduration]
  generalize (10 : Int) ^ Text.maxDigits = limit
  omega

/-- Not every span is mapped whose kind is known and whose time and waiting time are not too large: one may
    last for too many days. -/
theorem long_step_not_mapped :
    ¬ ∀ s : Span, s.attributes.HasNoLongInteger → ∀ percentage,
      ((∃ e, (({} : Mapper).map s percentage).result = .error e) ↔
        (∃ name, s.kind = .unsupported name) ∨ s.StartsTooLate ∨ (s.Serves ∧ s.WaitsTooLong)) := by
  intro halways
  let s := exampleLongStep (10 ^ Text.maxDigits)
  have hshort : s.attributes.HasNoLongInteger := nofun
  have hlong : s.LastsTooLong := by
    rw [lastsTooLong_exampleLongStep, Int.natCast_pow]
    exact Int.le_refl _
  have hmap : ({} : Mapper).map s Sampling.everything =
      ({} : Mapper).dependency s Sampling.everything true := rfl
  have hfails : ∃ e, (({} : Mapper).map s Sampling.everything).result = .error e := by
    rw [hmap]
    obtain ⟨-, e, he, -⟩ | ⟨hfits, -⟩ :=
      Mapper.dependency_cases (m := {}) (fun _ => rfl) hshort Sampling.everything true
    · exact ⟨e, he⟩
    · exact absurd (Or.inr hlong) hfits
  obtain ⟨name, hkind⟩ | hlate | ⟨hserves, -⟩ := (halways s hshort Sampling.everything).1 hfails
  · cases hkind
  · have hstart : s.start = 0 := rfl
    rw [Span.StartsTooLate, hstart] at hlate
    exact absurd hlate (by decide)
  · obtain ⟨⟨⟩⟩ | ⟨⟨⟩, -⟩ | ⟨-, scope, ⟨⟩, -, -⟩ := hserves

end SpanTelemetry
