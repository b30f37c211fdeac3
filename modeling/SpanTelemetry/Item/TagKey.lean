namespace SpanTelemetry

/-!
# Context tags

* `TagKey` — the tags that the ingestion endpoint accepts.
* `TagKey.name` — the key that a tag is sent under.
* `TagKey.ofName?` — the tag of a key.
-/

/-- The tags that the ingestion endpoint accepts. -/
inductive TagKey where
  | operationId
  | operationParentId
  | operationName
  | operationSyntheticSource
  | userId
  | userAgent
  | cloudRole
  | cloudRoleInstance
  | applicationVersion
  | locationIp
  | sessionId
  | deviceOs
  | deviceOsVersion
  | internalSdkVersion
  /-- Read by the older correlation bridge only. -/
  | legacyRootId
  deriving DecidableEq, Repr

namespace TagKey

/-- The key that a tag is sent under. -/
def name : TagKey → String
  | operationId => "ai.operation.id"
  | operationParentId => "ai.operation.parentId"
  | operationName => "ai.operation.name"
  | operationSyntheticSource => "ai.operation.syntheticSource"
  | userId => "ai.user.id"
  | userAgent => "ai.user.userAgent"
  | cloudRole => "ai.cloud.role"
  | cloudRoleInstance => "ai.cloud.roleInstance"
  | applicationVersion => "ai.application.ver"
  | locationIp => "ai.location.ip"
  | sessionId => "ai.session.id"
  | deviceOs => "ai.device.os"
  | deviceOsVersion => "ai.device.osVersion"
  | internalSdkVersion => "ai.internal.sdkVersion"
  | legacyRootId => "ai_legacyRootID"

/-- All tags. -/
def all : List TagKey :=
  [operationId, operationParentId, operationName, operationSyntheticSource, userId, userAgent,
    cloudRole, cloudRoleInstance, applicationVersion, locationIp, sessionId, deviceOs,
    deviceOsVersion, internalSdkVersion, legacyRootId]

/-- The tag that is sent under a key. -/
def ofName? (key : String) : Option TagKey := all.find? fun tag => tag.name = key

theorem mem_all (tag : TagKey) : tag ∈ all := by
  cases tag <;> simp [all]

theorem ofName?_name (tag : TagKey) : ofName? tag.name = some tag := by
  cases tag <;> decide

/-- No two tags have one name. -/
theorem name_injective {s t : TagKey} (h : s.name = t.name) : s = t := by
  have hs := ofName?_name s
  rw [h, ofName?_name t] at hs
  exact (Option.some.inj hs).symm

/-- A tag is found by its name. -/
theorem ofName?_eq_some_iff {key : String} {tag : TagKey} :
    ofName? key = some tag ↔ tag.name = key := by
  constructor
  · intro h
    simpa using List.find?_some h
  · rintro rfl
    exact ofName?_name tag

end TagKey

end SpanTelemetry
