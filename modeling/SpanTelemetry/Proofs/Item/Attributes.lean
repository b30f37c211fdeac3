import SpanTelemetry.Item.Attributes
import SpanTelemetry.Proofs.Mapping
import SpanTelemetry.Proofs.PrefixTrie
import SpanTelemetry.Proofs.Table
import SpanTelemetry.Proofs.Value.Text

namespace SpanTelemetry

/-!
# What attributes do to an item

* `IsExtra` — the attributes that have neither a meaning nor a place of their own.
* `disposition_cases` — which attributes become what, with an equivalence for each outcome.
* `Item.tag?_addAttributes`, `Item.instrumentationKey_addAttributes`,
  `Item.properties_addAttributes` — the item afterwards: each tag and each property is decided by the
  one attribute that can become it.
* `Attributes.Writable`, `value?_reviewAttributes_iff` — which attributes can all be written.
* `reviewAttributes_of_writable` — those that can are noted with nothing but warnings.
-/

/-! ### Classes of attributes -/

/-- The key of the string attribute that becomes a context tag. -/
def TagKey.attributeKey? : TagKey → Option String
  | userId => some AttributeKey.enduserId
  | userAgent => some AttributeKey.httpUserAgent
  | cloudRole => some AttributeKey.previewServiceName
  | cloudRoleInstance => some AttributeKey.previewServiceInstanceId
  | applicationVersion => some AttributeKey.previewServiceVersion
  | _ => none

/-- The keys whose string attributes have a place of their own on an item. -/
def promotedKeys : List String :=
  [AttributeKey.enduserId, AttributeKey.httpUserAgent, AttributeKey.previewServiceName,
    AttributeKey.previewServiceInstanceId, AttributeKey.previewServiceVersion,
    AttributeKey.previewInstrumentationKey]

/-- An attribute that neither is a bridge's, nor is ignored, nor has a place of its own, nor belongs
    to the semantic conventions, captured headers apart. -/
structure IsExtra (key : String) (value : Value) : Prop where
  notBridged : Text.startsWith key AttributeKey.bridgeStart = false
  notIgnored : key ∉ ignoredKeys
  notPromoted : ¬ (value.string?.isSome ∧ key ∈ promotedKeys)
  notStandard : (∃ start ∈ standardBeginnings, Text.startsWith key start = true) →
    isHeaderKey key = true

/-- A key belongs to the semantic conventions iff it begins as one of theirs. -/
theorem isStandardKey_iff {key : String} :
    isStandardKey key = true ↔ ∃ start ∈ standardBeginnings, Text.startsWith key start = true := by
  have hnonempty : "" ∉ standardBeginnings := by decide
  -- the trie registers no empty text, so that its condition on the length of the text is void
  rw [isStandardKey, standardTrie, PrefixTrie.isSome_lookup_ofList_iff]
  constructor
  · rintro ⟨e, he, -, hbegins⟩
    obtain ⟨start, hstart, rfl⟩ := List.mem_map.1 he
    exact ⟨start, hstart, hbegins⟩
  · rintro ⟨start, hstart, hbegins⟩
    refine ⟨(start, ()), List.mem_map_of_mem hstart, ?_, hbegins⟩
    rintro rfl
    exact hnonempty hstart

/-- A key is promoted to a tag iff the tag is taken from it. -/
theorem promotedTag?_eq_some_iff {key : String} {tag : TagKey} :
    promotedTag? key = some tag ↔ tag.attributeKey? = some key := by
  unfold promotedTag?
  constructor
  · intro h
    repeat' split at h
    all_goals cases h
    all_goals simp_all [TagKey.attributeKey?]
  · intro h
    cases tag <;> simp [TagKey.attributeKey?] at h <;> subst h <;> decide

/-- A promoted key is neither a bridge's nor ignored. -/
theorem TagKey.kept_of_attributeKey? {tag : TagKey} {key : String}
    (h : tag.attributeKey? = some key) :
    (Text.startsWith key AttributeKey.bridgeStart || ignoredKeys.contains key) = false := by
  cases tag <;> simp only [attributeKey?, Option.some.injEq, reduceCtorEq] at h <;> subst h <;> decide

/-- The promoted keys are those of such tags, and that of the instrumentation key. -/
theorem mem_promotedKeys_iff {key : String} :
    key ∈ promotedKeys ↔
      (∃ tag, promotedTag? key = some tag) ∨ key = AttributeKey.previewInstrumentationKey := by
  constructor
  · intro h
    simp only [promotedKeys, List.mem_cons, List.not_mem_nil, or_false] at h
    rcases h with rfl | rfl | rfl | rfl | rfl | rfl
    · exact Or.inl ⟨.userId, by decide⟩
    · exact Or.inl ⟨.userAgent, by decide⟩
    · exact Or.inl ⟨.cloudRole, by decide⟩
    · exact Or.inl ⟨.cloudRoleInstance, by decide⟩
    · exact Or.inl ⟨.applicationVersion, by decide⟩
    · exact Or.inr rfl
  · rintro (⟨tag, h⟩ | rfl)
    · rw [promotedTag?_eq_some_iff] at h
      cases tag <;> simp only [TagKey.attributeKey?, Option.some.injEq, reduceCtorEq] at h <;>
        subst h <;> decide
    · decide

theorem promotedTag?_eq_none {key : String} (h : key ∉ promotedKeys) : promotedTag? key = none := by
  cases htag : promotedTag? key with
  | none => rfl
  | some tag => exact absurd (mem_promotedKeys_iff.2 (Or.inl ⟨tag, htag⟩)) h

/-! ### Dispositions -/

section Dispositions

variable {key : String} {value : Value}

/-- A key that is kept makes a property, if its value has a text. -/
theorem propertyDisposition_of_kept (h : isStandardKey key = true → isHeaderKey key = true) :
    propertyDisposition key value =
      (value.text?.map Disposition.property).getD (.invalid value.typeName) := by
  have hstandard : (isStandardKey key && !isHeaderKey key) = false := by simpa using h
  rw [propertyDisposition, hstandard]
  cases value.text? <;> rfl

/-- Any other key is dropped. -/
theorem propertyDisposition_of_dropped (h : ¬ (isStandardKey key = true → isHeaderKey key = true)) :
    propertyDisposition key value = .dropped := by
  have hstandard : (isStandardKey key && !isHeaderKey key) = true := by simpa using h
  rw [propertyDisposition, hstandard]
  rfl

/-- An extra attribute becomes a property if it has a text, and is reported otherwise. -/
theorem disposition_of_isExtra (h : IsExtra key value) :
    disposition key value =
      (value.text?.map Disposition.property).getD (.invalid value.typeName) := by
  have hkept : (Text.startsWith key AttributeKey.bridgeStart || ignoredKeys.contains key) = false := by
    simpa [h.notBridged] using h.notIgnored
  rw [← propertyDisposition_of_kept fun hs => h.notStandard (isStandardKey_iff.1 hs)]
  unfold disposition
  simp only [hkept, Bool.false_eq_true, if_false]
  cases hs : value.string? with
  | none => rfl
  | some s =>
    have hkey : key ∉ promotedKeys := fun hk => h.notPromoted ⟨by simp [hs], hk⟩
    have hne : key ≠ AttributeKey.previewInstrumentationKey := fun hk =>
      hkey (mem_promotedKeys_iff.2 (Or.inr hk))
    simp only [promotedTag?_eq_none hkey, hne, if_false]

/-- An attribute that is not extra is a tag, the instrumentation key, or dropped. -/
theorem disposition_of_not_isExtra (h : ¬ IsExtra key value) :
    (∃ tag s, disposition key value = .tag tag s ∧ tag.attributeKey? = some key ∧
        value.string? = some s) ∨
      (∃ s, disposition key value = .instrumentationKey s ∧
        key = AttributeKey.previewInstrumentationKey ∧ value.string? = some s) ∨
      disposition key value = .dropped := by
  unfold disposition
  split
  · exact Or.inr (Or.inr rfl)
  · rename_i hkept
    have hclasses : Text.startsWith key AttributeKey.bridgeStart = false ∧ key ∉ ignoredKeys := by
      simpa using hkept
    -- whatever has no place of its own can only be standard
    have hdropped (hplace : ¬ (value.string?.isSome ∧ key ∈ promotedKeys)) :
        propertyDisposition key value = .dropped :=
      propertyDisposition_of_dropped fun hstandard =>
        h ⟨hclasses.1, hclasses.2, hplace, fun hs => hstandard (isStandardKey_iff.2 hs)⟩
    cases hs : value.string? with
    | none => exact Or.inr (Or.inr (hdropped (by simp [hs])))
    | some s =>
      cases htag : promotedTag? key with
      | some tag => exact Or.inl ⟨tag, s, rfl, promotedTag?_eq_some_iff.1 htag, rfl⟩
      | none =>
        by_cases hk : key = AttributeKey.previewInstrumentationKey
        · exact Or.inr (Or.inl ⟨s, by simp [hk], hk, rfl⟩)
        · have hplace : ¬ (value.string?.isSome ∧ key ∈ promotedKeys) := by
            simp [mem_promotedKeys_iff, htag, hk]
          exact Or.inr (Or.inr (by simp only [hk, if_false, hdropped hplace]))

/-- **What becomes of an attribute**: the five outcomes, and when there is which. -/
theorem disposition_cases (key : String) (value : Value) :
    (∃ text, disposition key value = .property text ∧ IsExtra key value ∧
        value.text? = some text) ∨
      (disposition key value = .invalid value.typeName ∧ IsExtra key value ∧ value.text? = none) ∨
      (∃ tag s, disposition key value = .tag tag s ∧ tag.attributeKey? = some key ∧
        value.string? = some s) ∨
      (∃ s, disposition key value = .instrumentationKey s ∧
        key = AttributeKey.previewInstrumentationKey ∧ value.string? = some s) ∨
      disposition key value = .dropped := by
  by_cases hextra : IsExtra key value
  · have hd := disposition_of_isExtra hextra
    cases htext : value.text? with
    | some text =>
      rw [htext] at hd
      exact Or.inl ⟨text, hd, hextra, rfl⟩
    | none =>
      rw [htext] at hd
      exact Or.inr (Or.inl ⟨hd, hextra, rfl⟩)
  · exact Or.inr (Or.inr (disposition_of_not_isExtra hextra))

/-- Which attributes are promoted to a tag. -/
theorem disposition_eq_tag_iff {tag : TagKey} {s : String} :
    disposition key value = .tag tag s ↔
      tag.attributeKey? = some key ∧ value.string? = some s := by
  constructor
  · intro h
    rcases disposition_cases key value with
      ⟨_, hd, -⟩ | ⟨hd, -⟩ | ⟨tag', s', hd, hkey, hs⟩ | ⟨_, hd, -⟩ | hd <;> rw [hd] at h <;> cases h
    exact ⟨hkey, hs⟩
  · rintro ⟨hkey, hs⟩
    unfold disposition
    rw [TagKey.kept_of_attributeKey? hkey]
    simp only [hs, promotedTag?_eq_some_iff.2 hkey, Bool.false_eq_true, if_false]

/-- Which attributes name the instrumentation key. -/
theorem disposition_eq_instrumentationKey_iff {s : String} :
    disposition key value = .instrumentationKey s ↔
      key = AttributeKey.previewInstrumentationKey ∧ value.string? = some s := by
  constructor
  · intro h
    rcases disposition_cases key value with
      ⟨_, hd, -⟩ | ⟨hd, -⟩ | ⟨_, _, hd, -⟩ | ⟨s', hd, hkey, hs⟩ | hd <;> rw [hd] at h <;> cases h
    exact ⟨hkey, hs⟩
  · rintro ⟨rfl, hs⟩
    have hkept : (Text.startsWith AttributeKey.previewInstrumentationKey AttributeKey.bridgeStart ||
        ignoredKeys.contains AttributeKey.previewInstrumentationKey) = false := by decide
    have htag : promotedTag? AttributeKey.previewInstrumentationKey = none := by decide
    unfold disposition
    rw [hkept]
    simp only [hs, htag, Bool.false_eq_true, if_false, if_true]

/-- Which attributes become properties. -/
theorem disposition_eq_property_iff {text : Text.Written String} :
    disposition key value = .property text ↔ IsExtra key value ∧ value.text? = some text := by
  constructor
  · intro h
    rcases disposition_cases key value with
      ⟨text', hd, hextra, htext⟩ | ⟨hd, -⟩ | ⟨_, _, hd, -⟩ | ⟨_, hd, -⟩ | hd <;> rw [hd] at h <;>
      cases h
    exact ⟨hextra, htext⟩
  · rintro ⟨hextra, htext⟩
    simp [disposition_of_isExtra hextra, htext]

/-- Which attributes are reported, because their type is not that of an attribute. -/
theorem disposition_eq_invalid_iff {typeName : String} :
    disposition key value = .invalid typeName ↔
      IsExtra key value ∧ value.text? = none ∧ value.typeName = typeName := by
  constructor
  · intro h
    rcases disposition_cases key value with
      ⟨_, hd, -⟩ | ⟨hd, hextra, htext⟩ | ⟨_, _, hd, -⟩ | ⟨_, hd, -⟩ | hd <;> rw [hd] at h <;> cases h
    exact ⟨hextra, htext, rfl⟩
  · rintro ⟨hextra, htext, rfl⟩
    simp [disposition_of_isExtra hextra, htext]

end Dispositions

/-! ### The item afterwards -/

namespace Item

variable (i : Item) (attributes : Attributes)

/-- The tag that one attribute sets. -/
private theorem tag?_addAttribute (tag : TagKey) (i : Item) (key : String) (value : Value) :
    (i.addAttribute key value).tag? tag =
      (if tag.attributeKey? = some key then value.string? else none).or (i.tag? tag) := by
  have hnone (hd : ∀ other s, disposition key value ≠ .tag other s) :
      (if tag.attributeKey? = some key then value.string? else none) = none := by
    by_cases hkey : tag.attributeKey? = some key
    · cases hs : value.string? with
      | none => simp
      | some s => exact absurd (disposition_eq_tag_iff.2 ⟨hkey, hs⟩) (hd tag s)
    · simp [hkey]
  unfold addAttribute
  cases hd : disposition key value with
  | tag other s =>
    obtain ⟨hkey, hs⟩ := disposition_eq_tag_iff.1 hd
    -- no two tags have their attributes under one key
    by_cases htag : tag = other
    · subst htag
      simp [hkey, hs]
    · have hne : tag.attributeKey? ≠ some key := fun h =>
        htag (Option.some.inj ((promotedTag?_eq_some_iff.2 h).symm.trans
          (promotedTag?_eq_some_iff.2 hkey)))
      simp [htag, hne]
  | property text =>
    rw [hnone (by simp [hd])]
    cases text <;> simp
  | _ => simp [hnone (by simp [hd])]

/-- **Tags.**  A tag is what the string attribute says that is promoted to it, if there is one. -/
@[simp] theorem tag?_addAttributes (tag : TagKey) :
    (i.addAttributes attributes).tag? tag =
      (tag.attributeKey?.bind attributes.string?).or (i.tag? tag) := by
  cases htag : tag.attributeKey? with
  | none =>
    refine attributes.frame_foldl (fun i : Item => i.tag? tag) (fun i key value => ?_) i
    simp [tag?_addAttribute, htag]
  | some key =>
    refine attributes.view_foldl (fun i : Item => i.tag? tag) key Value.string?
      (fun i key' value => ?_) i
    simp [tag?_addAttribute, htag, eq_comm]

/-- The instrumentation key that one attribute sets. -/
private theorem instrumentationKey_addAttribute (i : Item) (key : String) (value : Value) :
    (i.addAttribute key value).instrumentationKey =
      (if key = AttributeKey.previewInstrumentationKey then value.string? else none).or
        i.instrumentationKey := by
  have hnone (hd : ∀ s, disposition key value ≠ .instrumentationKey s) :
      (if key = AttributeKey.previewInstrumentationKey then value.string? else none) = none := by
    by_cases hkey : key = AttributeKey.previewInstrumentationKey
    · cases hs : value.string? with
      | none => simp
      | some s => exact absurd (disposition_eq_instrumentationKey_iff.2 ⟨hkey, hs⟩) (hd s)
    · simp [hkey]
  unfold addAttribute
  cases hd : disposition key value with
  | instrumentationKey s =>
    obtain ⟨hkey, hs⟩ := disposition_eq_instrumentationKey_iff.1 hd
    simp [hkey, hs, setInstrumentationKey]
  | property text =>
    rw [hnone (by simp [hd])]
    cases text <;> simp
  | _ => simp [hnone (by simp [hd])]

/-- **Instrumentation keys.**  A string attribute overrides the one that is there. -/
@[simp] theorem instrumentationKey_addAttributes :
    (i.addAttributes attributes).instrumentationKey =
      (attributes.string? AttributeKey.previewInstrumentationKey).or i.instrumentationKey :=
  attributes.view_foldl Item.instrumentationKey AttributeKey.previewInstrumentationKey Value.string?
    instrumentationKey_addAttribute i

/-- An attribute changes no field but the tags, the instrumentation key and the properties. -/
private theorem addAttribute_frame (i : Item) (key : String) (value : Value) :
    (i.addAttribute key value).time = i.time ∧
      (i.addAttribute key value).sampleRate = i.sampleRate ∧
      (i.addAttribute key value).data =
        i.data.withProperties (i.addAttribute key value).properties := by
  have hsame : i.data = i.data.withProperties i.properties := (i.data.withProperties_self).symm
  unfold addAttribute
  cases disposition key value with
  | property text =>
    cases text with
    | ok text => exact ⟨rfl, rfl, by simp⟩
    | error e => exact ⟨rfl, rfl, hsame⟩
  | _ => exact ⟨rfl, rfl, hsame⟩

@[simp] theorem time_addAttributes : (i.addAttributes attributes).time = i.time :=
  attributes.frame_foldl Item.time (fun i key value => (i.addAttribute_frame key value).1) i

@[simp] theorem sampleRate_addAttributes :
    (i.addAttributes attributes).sampleRate = i.sampleRate :=
  attributes.frame_foldl Item.sampleRate
    (fun i key value => (i.addAttribute_frame key value).2.1) i

/-- Apart from its properties the payload stays as it is. -/
theorem data_addAttributes :
    (i.addAttributes attributes).data =
      i.data.withProperties (i.addAttributes attributes).properties := by
  -- the payload without its properties is a view that no attribute changes
  have hframe : (i.addAttributes attributes).data.withProperties ∅ = i.data.withProperties ∅ :=
    attributes.frame_foldl (fun i : Item => i.data.withProperties ∅)
      (fun i key value => by rw [(i.addAttribute_frame key value).2.2]; simp) i
  calc (i.addAttributes attributes).data
      = ((i.addAttributes attributes).data.withProperties ∅).withProperties
          (i.addAttributes attributes).properties := by
        rw [ItemData.withProperties_withProperties]
        exact (ItemData.withProperties_self _).symm
    _ = _ := by rw [hframe, ItemData.withProperties_withProperties]

end Item

/-! ### Properties -/

/-- The text that an attribute has as a property, if it becomes one. -/
def propertyText? (key : String) (value : Value) : Option String :=
  match disposition key value with
  | .property (.ok text) => some text
  | _ => none

/-- An attribute is a property with its text iff it is extra and its text can be written. -/
theorem propertyText?_eq_some_iff {key : String} {value : Value} {text : String} :
    propertyText? key value = some text ↔ IsExtra key value ∧ value.text? = some (.ok text) := by
  rw [← disposition_eq_property_iff, propertyText?]
  cases disposition key value with
  | property written => cases written <;> simp
  | _ => simp

/-- The property that one attribute sets. -/
private theorem Item.properties_addAttribute (name : String) (i : Item) (key : String)
    (value : Value) :
    (i.addAttribute key value).properties.get? name =
      (if key = name then propertyText? name value else none).or (i.properties.get? name) := by
  have hother (hkey : key ≠ name) :
      (i.addAttribute key value).properties.get? name = i.properties.get? name := by
    unfold addAttribute
    cases disposition key value with
    | property text => cases text <;> simp [Ne.symm hkey]
    | _ => rfl
  by_cases hkey : key = name
  · subst hkey
    unfold addAttribute propertyText?
    cases disposition key value with
    | property text => cases text <;> simp
    | _ => simp [properties, addTag, setInstrumentationKey]
  · rw [hother hkey, if_neg hkey, Option.none_or]

/-- **Properties.**  A property is the text of the attribute of its name, if that becomes one. -/
theorem Item.properties_addAttributes (i : Item) (attributes : Attributes) (name : String) :
    (i.addAttributes attributes).properties.get? name =
      ((attributes.get? name).bind (propertyText? name)).or (i.properties.get? name) :=
  attributes.view_foldl (fun i : Item => i.properties.get? name) name (propertyText? name)
    (Item.properties_addAttribute name) i

/-! ### What is noted -/

/-- Attributes that can be written: no extra one of them has an integer with too many digits. -/
def Attributes.Writable (attributes : Attributes) : Prop :=
  ∀ key value, attributes.get? key = some value → IsExtra key value → ¬ value.HasLongInteger

/-- An attribute passes unless its text cannot be written. -/
theorem value?_reviewAttribute_iff {key : String} {value : Value} :
    (reviewAttribute key value).value? = some () ↔ (IsExtra key value → ¬ value.HasLongInteger) := by
  unfold reviewAttribute
  obtain ⟨text, hd, hextra, htext⟩ | ⟨hd, -, htext⟩ | ⟨tag, s, hd, -⟩ | ⟨s, hd, -⟩ | hd :=
    disposition_cases key value <;> rw [hd]
  · cases text with
    | ok text => exact iff_of_true rfl fun _ => (Value.text?_eq_ok_iff.1 htext).2
    | error e =>
      have hlong := Value.exists_text?_eq_error_iff.1 ⟨e, htext⟩
      exact iff_of_false nofun fun h => h hextra hlong
  · refine iff_of_true rfl fun _ hlong => ?_
    obtain ⟨e, he⟩ := Value.exists_text?_eq_error_iff.2 hlong
    rw [htext] at he
    cases he
  all_goals
    -- an attribute that is extra becomes a property or is reported
    refine iff_of_true rfl fun hextra => absurd hd ?_
    rw [disposition_of_isExtra hextra]
    cases value.text? <;> nofun

/-- An attribute is reported once, or not at all. -/
theorem warnings_reviewAttribute (key : String) (value : Value) :
    (reviewAttribute key value).warnings = (attributeWarning? key value).toList := by
  unfold reviewAttribute attributeWarning?
  cases disposition key value <;> rfl

section Review

variable {attributes : Attributes}

/-- **Attributes pass** unless the text of one of them cannot be written. -/
theorem value?_reviewAttributes_iff :
    (reviewAttributes attributes).value? = some () ↔ attributes.Writable := by
  simp only [reviewAttributes, Mapping.value?_forM_iff, value?_reviewAttribute_iff, Attributes.Writable,
    ← Table.mem_entries_iff, Prod.forall]

/-- Those that pass are noted with one warning for each whose type is not valid. -/
theorem reviewAttributes_of_writable (h : attributes.Writable) :
    reviewAttributes attributes = ⟨attributeWarnings attributes, .ok ()⟩ := by
  have hall := Mapping.value?_forM_iff.1 (value?_reviewAttributes_iff.2 h)
  rw [reviewAttributes, Mapping.forM_of_value? hall, attributeWarnings]
  simp only [warnings_reviewAttribute, List.filterMap_eq_flatMap_toList]

end Review

end SpanTelemetry
