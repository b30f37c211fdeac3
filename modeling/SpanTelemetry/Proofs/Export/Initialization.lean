import SpanTelemetry.Proofs.Export.Agreement
import SpanTelemetry.Proofs.Export.Run

namespace SpanTelemetry

/-!
# Initialized items

A configuration with a connection string names an instrumentation key, the instance of the role and the
version of the exporter.  Every item that is built for a span or an event starts from these.  The metric of
a span does not: the initializer never sees it, and it carries none of them.

* `Item.IsInitialized` — the three are there.
* `Mapper.Initializes` — new items are initialized.
* `Configuration.initializes` — a configuration with a connection string makes such a mapper.
* `Mapper.Initializes.map`, `Mapper.Initializes.emit` — what is built from new items stays initialized.
* `Item.IsInitializedOrPoint` — what can be said of every item that is handed on.
* `Session.step_initializedOrPoint`, `Session.run_initializedOrPoint` — one command, and a run.
* `Session.initialized_iff_not_metric` — exactly the metrics are handed on uninitialized.
-/

/-! ### Initialized items -/

/-- The item names its instrumentation key, the instance of the role that it comes from, and the version
    of the exporter. -/
structure Item.IsInitialized (i : Item) : Prop where
  instrumentationKey : i.instrumentationKey.isSome = true
  roleInstance : (i.tag? .cloudRoleInstance).isSome = true
  sdkVersion : (i.tag? .internalSdkVersion).isSome = true

/-- An item is still initialized where some of its tags and its key are replaced. -/
theorem Item.IsInitialized.replaced {i j : Item} (h : i.IsInitialized) {key : Option String}
    {tag? : TagKey → Option String}
    (hkey : j.instrumentationKey = key.or i.instrumentationKey)
    (htag : ∀ tag, j.tag? tag = (tag? tag).or (i.tag? tag)) : j.IsInitialized where
  instrumentationKey := by simp [hkey, h.instrumentationKey]
  roleInstance := by simp [htag, h.roleInstance]
  sdkVersion := by simp [htag, h.sdkVersion]

/-- A new item is as initialized when it is described. -/
theorem Item.IsInitialized.describe {n : NewItem} (h : n.item.IsInitialized)
    {f : ItemData → Text.Written ItemData} {i : Item} (hi : n.describe f = .ok i) : i.IsInitialized where
  instrumentationKey := by
    rw [NewItem.instrumentationKey_of_describe hi]
    exact h.instrumentationKey
  roleInstance := by
    rw [NewItem.tag?_of_describe hi]
    exact h.roleInstance
  sdkVersion := by
    rw [NewItem.tag?_of_describe hi]
    exact h.sdkVersion

/-- New items are initialized, and nothing of their payloads is changed but the properties. -/
structure Mapper.Initializes (m : Mapper) : Prop where
  keepsPayloads : m.KeepsPayloads
  isInitialized : m.Leaves fun new _ => new.item.IsInitialized

/-! ### Configurations -/

/-- An instrumentation key that is found is not empty. -/
theorem nonEmpty?_readInstrumentationKey {text key : String}
    (h : ConnectionString.readInstrumentationKey text = .ok key) :
    nonEmpty? (some key) = some key := by
  unfold ConnectionString.readInstrumentationKey at h
  simp only [bind, Except.bind] at h
  split at h
  · cases h
  · split at h
    · split at h
      · cases h
      · rename_i hkey
        cases h
        simp [nonEmpty?, hkey]
    · cases h

namespace Configuration

variable {given : GivenSettings} {around : Surroundings} {c : Configuration}

/-- A connection string that is not empty is accepted only with an instrumentation key in it. -/
theorem exists_instrumentationKey (hresolve : resolve given around = .ok c) {text : String}
    (hconnection : nonEmpty? c.connectionString = some text) :
    ∃ key, nonEmpty? c.instrumentationKey = some key := by
  unfold resolve at hresolve
  simp only [bind, Except.bind] at hresolve
  split at hresolve
  · cases hresolve
  · rename_i found hfound
    cases hresolve
    simp only at hconnection ⊢
    rw [hconnection] at hfound
    cases hread : ConnectionString.readInstrumentationKey text with
    | error e => simp [hread, Option.mapM_some, Functor.map, Except.map] at hfound
    | ok key =>
      have hkey : some key = found := by
        simpa [hread, Option.mapM_some, Functor.map, Except.map] using hfound
      subst hkey
      exact ⟨key, nonEmpty?_readInstrumentationKey hread⟩

/-- With an instrumentation key, the defaults of a configuration initialize an item. -/
theorem isInitialized_defaults {key : String} (hkey : nonEmpty? c.instrumentationKey = some key)
    {resource : Attributes} {hostName : String} {d : ItemDefaults}
    (hdefaults : c.defaults resource hostName = .ok d) (i : Item) : (d.apply i).IsInitialized := by
  simp only [defaults, bind_eq_ok_iff] at hdefaults
  obtain ⟨role, -, name, -, hd⟩ := hdefaults
  obtain rfl := Except.ok.inj hd
  refine ⟨?_, ?_, ?_⟩
  · simp [ItemDefaults.apply, hkey]
  · exact Table.isSome_get?_insertList _ (Or.inl ⟨name, by simp⟩)
  · exact Table.isSome_get?_insertList _ (Or.inl ⟨sdkVersion, by simp⟩)

/-- **A configuration with a connection string** makes a mapper that initializes its items. -/
theorem initializes (hresolve : resolve given around = .ok c) {text : String}
    (hconnection : nonEmpty? c.connectionString = some text) {resource : Attributes}
    {hostName : String} {suppressor : SpanEvent → Option String → Bool} {appId : Option String}
    {x : Exporter} (hexporter : Exporter.ofConfiguration c resource hostName suppressor appId = .ok x) :
    x.mapper.Initializes := by
  obtain ⟨d, hdefaults, hx⟩ := bind_eq_ok_iff.1 hexporter
  obtain rfl := Except.ok.inj hx
  obtain ⟨key, hkey⟩ := exists_instrumentationKey hresolve hconnection
  constructor
  · rintro data new - ⟨⟩
    exact ⟨rfl, _, rfl⟩
  · rintro data new - ⟨⟩
    exact isInitialized_defaults hkey hdefaults _

end Configuration

/-! ### Items of spans and events -/

/-- Requests and dependencies are no metrics. -/
theorem Metric.not_isMetric_of_isOfSpan {i : Item} (h : i.data.isOfSpan = true) : ¬ IsMetric i := by
  rintro ⟨d, hd⟩
  simp [hd, ItemData.isOfSpan] at h

namespace Mapper.Initializes

variable {m : Mapper} {s : Span} {percentage : Quantity} {i : Item}

/-- The item of a span is initialized, and it is no metric. -/
theorem map (hinit : m.Initializes) (h : (m.map s percentage).value? = some i) :
    i.IsInitialized ∧ ¬ Metric.IsMetric i := by
  refine ⟨?_, Metric.not_isMetric_of_isOfSpan (isOfSpan_map hinit.keepsPayloads.keepsKinds h)⟩
  rcases map_cases h with ⟨-, h⟩ | ⟨inProcess, -, h⟩
  · obtain ⟨new, time, j, waiting, hnew, -, -, hj, -, hfilled⟩ := value?_request_iff.1 h
    obtain ⟨measurements, rfl⟩ := Item.addMeasurement?_frame hfilled
    exact ((hinit.isInitialized _ _ .request hnew).describe hj).replaced
      (j.instrumentationKey_fillRequest s percentage time) (j.tag?_fillRequest s percentage time)
  · obtain ⟨new, time, j, hnew, -, -, hj, rfl⟩ := value?_dependency_iff.1 h
    exact ((hinit.isInitialized _ _ .dependency hnew).describe hj).replaced
      (j.instrumentationKey_fillDependency s percentage time)
      (j.tag?_fillDependency s percentage time)

/-- The items of the events of a span are initialized, and none of them is a metric. -/
theorem emit (hinit : m.Initializes) {operationName : Option String} {built : Mapping Item}
    (hbuilt : .emit built ∈ m.eventSteps s operationName percentage)
    (h : built.value? = some i) : i.IsInitialized ∧ ¬ Metric.IsMetric i := by
  rcases emit_mem_eventSteps hbuilt with ⟨e, rfl⟩ | ⟨stackTrace, rfl⟩
  · obtain ⟨properties, hdata⟩ := data_message hinit.keepsPayloads h
    obtain ⟨new, time, hnew, -, -, rfl⟩ := value?_message_iff.1 h
    refine ⟨(hinit.isInitialized _ _ (.message e.name) hnew).replaced
      (new.item.instrumentationKey_fillMessage ..)
      (new.item.tag?_fillMessage s e operationName percentage time), ?_⟩
    rintro ⟨d, hd⟩
    simp [hdata] at hd
  · obtain ⟨details, properties, -, hdata⟩ := data_exception hinit.keepsPayloads h
    obtain ⟨new, time, details, hnew, -, -, rfl⟩ := value?_exception_iff.1 h
    -- an exception item keeps the key that the initializer has set
    have hkey : (new.item.fillException details s operationName percentage time).instrumentationKey =
        none.or new.item.instrumentationKey := new.item.instrumentationKey_fillException ..
    refine ⟨(hinit.isInitialized _ _ .exception hnew).replaced hkey
      (new.item.tag?_fillException s details operationName percentage time), ?_⟩
    rintro ⟨d, hd⟩
    simp [hdata] at hd

end Mapper.Initializes

/-! ### What is handed on -/

/-- The item is initialized and no metric, or it is nothing but one measured value. -/
def Item.IsInitializedOrPoint (i : Item) : Prop :=
  (i.IsInitialized ∧ ¬ Metric.IsMetric i) ∨ ∃ p, Metric.HoldsPoint i p

namespace Exporter

variable {x : Exporter}

/-- Every item of a span is initialized, or its metric. -/
theorem mem_items? (hinit : x.mapper.Initializes) {s : Span} {items : List Item}
    (h : x.items? s = some items) {i : Item} (hi : i ∈ items) : i.IsInitializedOrPoint := by
  obtain ⟨own, events, metric, hown, hevents, hmetric, rfl⟩ := items?_eq_some h
  rcases List.mem_cons.1 hi with rfl | hi
  · exact Or.inl (hinit.map hown)
  rcases List.mem_append.1 hi with hi | hi
  · obtain ⟨built, hbuilt, hvalue⟩ := EventStep.mem_items? hevents hi
    exact Or.inl (hinit.emit hbuilt hvalue)
  · unfold metricItem? at hmetric
    split at hmetric
    · obtain rfl : metric = some i := by simpa using hi
      exact Or.inr (Metric.exists_holdsPoint_ofSpan hmetric)
    · cases hmetric
      simp at hi

/-- So is every item of a batch. -/
theorem mem_batchItems (hinit : x.mapper.Initializes) {spans : List Span} {i : Item}
    (hi : i ∈ x.batchItems spans) : i.IsInitializedOrPoint := by
  obtain ⟨items, hitems, hi⟩ := List.mem_flatten.1 hi
  obtain ⟨s, -, hs⟩ := List.mem_filterMap.1 hitems
  exact mem_items? hinit hs hi

/-- So is every item that a command hands on. -/
theorem mem_handsOn (hinit : x.mapper.Initializes) {c : Command} {i : Item}
    (hi : i ∈ x.handsOn c) : i.IsInitializedOrPoint := by
  unfold handsOn at hi
  split at hi
  · split at hi
    · cases hi
    · exact mem_batchItems hinit hi
  · cases hi

/-- No command replaces the mapper. -/
theorem mapper_after (x : Exporter) (c : Command) : (x.after c).mapper = x.mapper := by
  cases c <;> rfl

end Exporter

namespace Session

/-- **One command.**  What it hands on is initialized, or nothing but one measured value. -/
theorem step_initializedOrPoint {s : Session} (hinit : s.exporter.mapper.Initializes) (c : Command) :
    ∃ handed, (s.step c).2.sink.offered = s.sink.offered ++ handed ∧
      ∀ i ∈ handed, i.IsInitializedOrPoint := by
  obtain ⟨handed, hoffered, hbegins⟩ := s.sink.offered_handAll (s.exporter.handsOn c)
  refine ⟨handed, by rw [step_sink, hoffered], fun i hi => ?_⟩
  exact Exporter.mem_handsOn hinit (hbegins.subset hi)

/-- **A run.**  All that its commands hand on is initialized, or nothing but one measured value. -/
theorem run_initializedOrPoint {s : Session} (hinit : s.exporter.mapper.Initializes)
    (commands : List Command) :
    ∃ handed, (s.run commands).2.sink.offered = s.sink.offered ++ handed ∧
      ∀ i ∈ handed, i.IsInitializedOrPoint := by
  -- by induction on the commands: none of them replaces the mapper
  induction commands generalizing s with
  | nil => exact ⟨[], by simp [run], by simp⟩
  | cons c rest ih =>
    have hnext : (s.step c).2.exporter.mapper.Initializes := by
      rw [step_exporter, Exporter.mapper_after]
      exact hinit
    obtain ⟨first, hfirst, hfirstEach⟩ := step_initializedOrPoint hinit c
    obtain ⟨later, hlater, hlaterEach⟩ := ih hnext
    refine ⟨first ++ later, ?_, fun i hi => ?_⟩
    · rw [run_cons, hlater, hfirst, List.append_assoc]
    · exact (List.mem_append.1 hi).elim (hfirstEach i) (hlaterEach i)

/-- **Exactly the metrics are handed on uninitialized.**  An exporter whose configuration has a connection
    string hands on, in every run and to every sink, requests, dependencies, messages and exceptions with
    an instrumentation key, the instance of the role and the version of the exporter; a metric has none of
    these, and no other tag. -/
theorem initialized_iff_not_metric {given : GivenSettings} {around : Surroundings} {c : Configuration}
    (hresolve : Configuration.resolve given around = .ok c) {text : String}
    (hconnection : c.connectionString = some text) (hnonempty : text ≠ "") (resource : Attributes)
    (hostName : String) (suppressor : SpanEvent → Option String → Bool) (appId : Option String)
    {s : Session}
    (hexporter : Exporter.ofConfiguration c resource hostName suppressor appId = .ok s.exporter)
    (commands : List Command) :
    ∃ handed, (s.run commands).2.sink.offered = s.sink.offered ++ handed ∧
      ∀ i ∈ handed, (i.IsInitialized ↔ ¬ Metric.IsMetric i) ∧
        (Metric.IsMetric i → ∃ p, Metric.HoldsPoint i p) := by
  have hconnected : nonEmpty? c.connectionString = some text := by
    simp [hconnection, nonEmpty?, hnonempty]
  have hinit : s.exporter.mapper.Initializes :=
    Configuration.initializes hresolve hconnected hexporter
  obtain ⟨handed, hoffered, heach⟩ := run_initializedOrPoint hinit commands
  refine ⟨handed, hoffered, fun i hi => ?_⟩
  rcases heach i hi with ⟨hitem, hmetric⟩ | ⟨p, hp⟩
  · exact ⟨iff_of_true hitem hmetric, fun h => absurd h hmetric⟩
  · have hbare : ¬ i.IsInitialized := by
      obtain ⟨properties, rfl⟩ := hp
      exact fun h => by cases h.instrumentationKey
    exact ⟨iff_of_false hbare (not_not_intro hp.isMetric), fun _ => ⟨p, hp⟩⟩

/-- Settings with a connection string that ask for duration metrics. -/
def meteredSettings : GivenSettings where
  connectionString := some (some "InstrumentationKey=key")
  preaggregatedMetrics := some (some true)

/-- What they come to where the environment says nothing. -/
def meteredConfiguration : Configuration where
  connectionString := some "InstrumentationKey=key"
  statusCodesFail := some true
  roleName := none
  roleInstance := none
  preaggregatedMetrics := some true
  instrumentationKey := some "key"

theorem resolve_meteredSettings :
    Configuration.resolve meteredSettings { hostName := "host" } = .ok meteredConfiguration :=
  Mapping.toOption_eq_some_iff.1 (by decide +kernel)

/-- What every item of this configuration carries. -/
def meteredDefaults : ItemDefaults where
  instrumentationKey := some "key"
  tags := [(.internalSdkVersion, Configuration.sdkVersion), (.cloudRoleInstance, "host")]

/-- An exporter of this configuration with a sink that takes everything. -/
def meteredExport : Session where
  exporter := .ofMapper meteredConfiguration
    { Mapper.ofConfiguration meteredConfiguration with
      initializer := fun i => .ok { item := meteredDefaults.apply i } }

theorem ofConfiguration_meteredConfiguration :
    Exporter.ofConfiguration meteredConfiguration ∅ "host" (fun _ _ => false) none =
      .ok meteredExport.exporter := by
  have hdefaults : meteredConfiguration.defaults ∅ "host" = .ok meteredDefaults := rfl
  rw [Exporter.ofConfiguration, hdefaults]
  rfl

/-- Of an HTTP call, a dependency and a message are handed on with the key, and a metric without. -/
theorem initialized_iff_not_metric_call :
    Configuration.resolve meteredSettings { hostName := "host" } = .ok meteredConfiguration ∧
      meteredConfiguration.connectionString = some "InstrumentationKey=key" ∧
      "InstrumentationKey=key" ≠ "" ∧
      Exporter.ofConfiguration meteredConfiguration ∅ "host" (fun _ _ => false) none =
        .ok meteredExport.exporter ∧
      ∃ handed, (meteredExport.run [.send [exampleHttpCall]]).2.sink.offered =
          meteredExport.sink.offered ++ handed ∧
        handed.map (·.instrumentationKey) = [some "key", some "key", none] ∧
        ∀ i ∈ handed, i.IsInitialized ↔ ¬ Metric.IsMetric i := by
  have hnonempty : "InstrumentationKey=key" ≠ "" := by decide
  have hkeys : ((meteredExport.run [.send [exampleHttpCall]]).2.sink.offered.map
      (·.instrumentationKey) == [some "key", some "key", none]) = true := by decide +kernel
  obtain ⟨handed, hoffered, heach⟩ := initialized_iff_not_metric resolve_meteredSettings rfl hnonempty
    ∅ "host" (fun _ _ => false) none ofConfiguration_meteredConfiguration [.send [exampleHttpCall]]
  have hall : (meteredExport.run [.send [exampleHttpCall]]).2.sink.offered = handed :=
    hoffered.trans (List.nil_append handed)
  rw [hall] at hkeys
  exact ⟨resolve_meteredSettings, rfl, hnonempty, ofConfiguration_meteredConfiguration, handed, hoffered,
    eq_of_beq hkeys, fun i hi => (heach i hi).1⟩

/-- Not everything that such an exporter hands on is initialized: the metric of an HTTP call has no
    instrumentation key. -/
theorem handed_metric_not_initialized :
    ¬ ∀ (given : GivenSettings) (around : Surroundings) (c : Configuration) (text : String),
      Configuration.resolve given around = .ok c → c.connectionString = some text → text ≠ "" →
      ∀ (resource : Attributes) (hostName : String) (suppressor : SpanEvent → Option String → Bool)
        (appId : Option String) (s : Session) (spans : List Span) (handed : List Item),
        Exporter.ofConfiguration c resource hostName suppressor appId = .ok s.exporter →
        (s.send spans).2.sink.offered = s.sink.offered ++ handed →
        ∀ i ∈ handed, i.IsInitialized := by
  intro halways
  have hall := halways meteredSettings { hostName := "host" } meteredConfiguration _
    resolve_meteredSettings rfl (by decide) ∅ "host" (fun _ _ => false) none meteredExport
    [exampleHttpCall] _ ofConfiguration_meteredConfiguration (List.nil_append _).symm
  have hbare : (meteredExport.send [exampleHttpCall]).2.sink.offered.any
      (·.instrumentationKey.isNone) = true := by decide +kernel
  obtain ⟨i, hi, hnone⟩ := List.any_eq_true.1 hbare
  have hkey := (hall i hi).instrumentationKey
  simp [Option.isNone_iff_eq_none.1 hnone] at hkey

end Session

end SpanTelemetry
