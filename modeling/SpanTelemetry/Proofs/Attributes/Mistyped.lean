import SpanTelemetry.Proofs.Attributes.Alike
import SpanTelemetry.Proofs.Item.Attributes

namespace SpanTelemetry

/-!
# Attributes of wrong types

* `isMistyped` — whether an attribute has another type than the one as which it is read.
* `disposition_of_isMistyped` — such an attribute is dropped.
* `Attributes.withoutMistyped` — some attributes of a wrong type deleted.
* `Attributes.withoutMistyped_alike` — what is left is read as before.
-/

/-! ### Wrong types -/

/-- Whether a value has the given type. A truth value is no integer. -/
def KeyType.admits : KeyType → Value → Bool
  | text, .scalar (.string _) => true
  | integer, .scalar (.int _) => true
  | context, .scalar (.string _) => true
  | context, .list (.scalar (.string _) :: _) => true
  | context, .tuple (.scalar (.string _) :: _) => true
  | _, _ => false

/-- Whether an attribute has a meaning of its own but another type than the one as which it is
    read. -/
def isMistyped (key : String) (value : Value) : Bool :=
  match keyType? key with
  | some type => !type.admits value
  | none => false

/-- The attributes without those of a wrong type whose keys may be dropped. -/
def Attributes.withoutMistyped (attributes : Attributes) (drop : String → Bool) : Attributes :=
  attributes.filter fun key value => !(drop key && isMistyped key value)

/-- Attributes with a meaning of their own are no extra ones. -/
theorem not_isExtra_of_keyType? {key : String} {value : Value} (h : keyType? key ≠ none) :
    ¬ IsExtra key value := by
  -- apart from the keys of the bridges there are finitely many of them
  have hclasses : ∀ key ∈ AttributeKey.requestContext :: (textKeys ++ integerKeys),
      key ∈ ignoredKeys ∨ (isStandardKey key = true ∧ isHeaderKey key = false) := by decide
  intro hextra
  have hkey : key ∈ AttributeKey.requestContext :: (textKeys ++ integerKeys) := by
    unfold keyType? at h
    simp only [hextra.notBridged, Bool.false_or] at h
    split at h
    · rename_i htext
      simp [List.contains_iff_mem.1 htext]
    · split at h
      · rename_i hinteger
        simp [List.contains_iff_mem.1 hinteger]
      · split at h
        · rename_i hcontext
          simp [hcontext]
        · exact absurd rfl h
  rcases hclasses key hkey with hignored | ⟨hstandard, hheader⟩
  · exact hextra.notIgnored hignored
  · rw [hextra.notStandard (isStandardKey_iff.1 hstandard)] at hheader
    cases hheader

/-- The attributes that become tags are read as texts, if they have a meaning of their own. -/
theorem keyType?_of_attributeKey? {tag : TagKey} {key : String} (h : tag.attributeKey? = some key) :
    keyType? key = some .text ∨ keyType? key = none := by
  cases tag <;> simp only [TagKey.attributeKey?, Option.some.injEq, reduceCtorEq] at h <;>
    subst h <;> decide

theorem KeyType.string?_of_not_admits {value : Value} (h : KeyType.text.admits value = false) :
    value.string? = none := by
  cases value with
  | scalar s => cases s <;> simp_all [admits, Value.string?]
  | _ => rfl

theorem KeyType.context?_of_not_admits {value : Value} (h : KeyType.context.admits value = false) :
    (match value.elements? with
      | some (first :: _) => first.string?
      | _ => value.string?) = none := by
  cases value with
  | scalar s => cases s <;> simp_all [admits, Value.elements?, Value.string?]
  | list elements =>
    cases elements with
    | nil => rfl
    | cons first rest =>
      refine string?_of_not_admits ?_
      cases first with
      | scalar s => cases s <;> simp_all [admits]
      | _ => rfl
  | tuple elements =>
    cases elements with
    | nil => rfl
    | cons first rest =>
      refine string?_of_not_admits ?_
      cases first with
      | scalar s => cases s <;> simp_all [admits]
      | _ => rfl
  | _ => rfl

theorem KeyType.int?_of_not_admits {value : Value} (h : KeyType.integer.admits value = false) :
    value.int? = none := by
  cases value with
  | scalar s => cases s <;> simp_all [admits, Value.int?]
  | _ => rfl

/-- **An attribute of a wrong type is dropped**: it neither becomes anything nor is reported. -/
theorem disposition_of_isMistyped {key : String} {value : Value} (h : isMistyped key value = true) :
    disposition key value = .dropped := by
  unfold isMistyped at h
  cases htype : keyType? key with
  | none => simp [htype] at h
  | some type =>
    have hadmits : type.admits value = false := by simpa [htype] using h
    have hextra : ¬ IsExtra key value := not_isExtra_of_keyType? (by simp [htype])
    -- what is left are tags and the instrumentation key, which only texts become
    rcases disposition_of_not_isExtra hextra with ⟨tag, s, -, hkey, hs⟩ | ⟨s, -, rfl, -⟩ | hdropped
    · rcases keyType?_of_attributeKey? hkey with htext | hnone
      · obtain rfl : type = .text := Option.some.inj (htype.symm.trans htext)
        rw [KeyType.string?_of_not_admits hadmits] at hs
        cases hs
      · rw [hnone] at htype
        cases htype
    · have hnone : keyType? AttributeKey.previewInstrumentationKey = none := by decide
      rw [hnone] at htype
      cases htype
    · exact hdropped

/-! ### What is left -/

namespace Attributes

variable (attributes : Attributes) (drop : String → Bool)

/-- A reading that ignores all values of wrong types is as before. -/
theorem get?_withoutMistyped {β : Type} {key : String} {type : KeyType}
    (htype : keyType? key = some type) {read : Value → Option β}
    (hread : ∀ value, type.admits value = false → read value = none) :
    ((attributes.withoutMistyped drop).get? key).bind read = (attributes.get? key).bind read := by
  rw [withoutMistyped, Table.get?_filter]
  -- a value of the type is kept, and one of another type yields nothing, deleted or not
  cases attributes.get? key with
  | none => rfl
  | some value =>
    cases hadmits : type.admits value with
    | true => simp [isMistyped, htype, hadmits, Option.filter]
    | false => cases hdrop : drop key <;> simp [isMistyped, htype, hadmits, hread, Option.filter]

/-- **What is left is read as before.** -/
theorem withoutMistyped_alike : (attributes.withoutMistyped drop).Alike attributes where
  string := fun _ htype => attributes.get?_withoutMistyped drop htype fun _ =>
    KeyType.string?_of_not_admits
  int := fun _ htype => attributes.get?_withoutMistyped drop htype fun _ =>
    KeyType.int?_of_not_admits
  context := attributes.get?_withoutMistyped drop
    (show keyType? AttributeKey.requestContext = some .context by decide) fun _ =>
      KeyType.context?_of_not_admits
  item := fun i => Table.foldl_filter_of_idle (fun i key value h => by
    have hdropped : disposition key value = .dropped := disposition_of_isMistyped (by simp_all)
    simp [Item.addAttribute, hdropped]) attributes i
  review := Mapping.forM_filter_of_idle fun e _ h => by
    have hdropped : disposition e.1 e.2 = .dropped := disposition_of_isMistyped (by simp_all)
    rw [reviewAttribute, hdropped]

end Attributes

end SpanTelemetry
