import Mathlib.Tactic.Common
import SpanTelemetry.Proofs.Table
import SpanTelemetry.Proofs.Text.Cut
import SpanTelemetry.Proofs.Traversal
import SpanTelemetry.Role

namespace SpanTelemetry

open Text

/-!
# The cloud role of an item

A component has the role that is configured, or else the name of its service behind the namespace of the
service. A service that nobody has named has a name that begins with `unknown_service`, which is no role. The
beginning is looked for in the role and not in the name, so it is also found in the configured role
and in a namespace, and it is not found in a name behind a namespace.

* `RoleSources` — what a role is taken from.
* `RoleSources.proper?` — the role that a component should have.
* `RoleSources.MistakenFor` — the components that get another role, or none.
* `Configuration.exists_defaults` — a resource with strings can be written.
* `Configuration.tag?_defaults` — the role that a component has.
* `Configuration.role_is_proper_unless_mistaken` — a component has the role that it should have unless it is
  mistaken.
-/

/-! ### The roles that components should have -/

/-- What the role of a component is taken from; an empty text counts as a missing one. -/
structure RoleSources where
  configured : Option String := none
  service : Option String := none
  namespaceOfService : Option String := none
  deriving DecidableEq, Repr

namespace RoleSources

/-- The name of a service behind its namespace. -/
def qualified : Option String → String → String
  | some space, name => space ++ "." ++ name
  | none, name => name

/-- The role that a component should have: the configured one, or the qualified name of a service that
    somebody has named. -/
def proper? (s : RoleSources) : Option String :=
  match nonEmpty? s.configured, nonEmpty? s.service with
  | some role, _ => some role
  | none, some name =>
      if startsWith name unknownService then none
      else some (qualified (nonEmpty? s.namespaceOfService) name)
  | none, none => none

/-- Components whose role is another one than it should be, with that other one. -/
inductive MistakenFor (s : RoleSources) : Option String → Prop where
  /-- The configured role is taken for the name of a service that nobody has named. -/
  | unnamedRole {role : String} (hrole : nonEmpty? s.configured = some role)
      (hunknown : startsWith role unknownService = true) : MistakenFor s none
  /-- A service that nobody has named is taken for a named one because of its namespace. -/
  | namedService {name space : String} (hrole : nonEmpty? s.configured = none)
      (hname : nonEmpty? s.service = some name)
      (hspace : nonEmpty? s.namespaceOfService = some space)
      (hunknown : startsWith name unknownService = true)
      (hknown : startsWith space unknownService = false) : MistakenFor s (some (space ++ "." ++ name))
  /-- A named service is taken for one that nobody has named because of its namespace. -/
  | unnamedService {name space : String} (hrole : nonEmpty? s.configured = none)
      (hname : nonEmpty? s.service = some name)
      (hspace : nonEmpty? s.namespaceOfService = some space)
      (hknown : startsWith name unknownService = false)
      (hunknown : startsWith space unknownService = true) : MistakenFor s none

/-- The sources of the role are those of a configuration and a resource. -/
structure Describe (s : RoleSources) (c : Configuration) (resource : Attributes) : Prop where
  configured : c.roleName = s.configured
  service : resource.get? AttributeKey.serviceName = s.service.map Value.string
  namespaceOfService :
    resource.get? AttributeKey.serviceNamespace = s.namespaceOfService.map Value.string

end RoleSources

/-! ### Names -/

namespace RoleSources

theorem qualified_ne_empty {space : Option String} {name : String} (h : name ≠ "") :
    qualified space name ≠ "" := by
  cases space with
  | none => exact h
  | some space => simp [qualified, h]

/-- A name behind a namespace begins as that of a service that nobody has named iff the namespace does:
    there is no dot in the beginning. -/
theorem startsWith_qualified_some (space name : String) :
    startsWith (qualified (some space) name) unknownService = startsWith space unknownService := by
  have hdot : '.' ∉ unknownService.toList := by decide
  have htext : (qualified (some space) name).toList = space.toList ++ '.' :: name.toList := by
    simp [qualified]
  rw [Bool.eq_iff_iff, startsWith_eq_true_iff, startsWith_eq_true_iff, htext,
    prefix_append_mark_iff hdot]

end RoleSources

/-- The text of a string in a resource. -/
theorem resourceText?_of_string {resource : Attributes} {key : String} {text : Option String}
    (h : resource.get? key = text.map Value.string) :
    resourceText? resource key = .ok (nonEmpty? text) := by
  rw [resourceText?, h]
  cases text with
  | none => rfl
  | some t =>
    by_cases ht : t = ""
    · subst ht
      rfl
    · have hkept : ((some t).map Value.string |>.map Value.frozen).filter (!·.isVoid) =
          some (.string t) := by
        simp [Option.filter, Value.string, Value.frozen, Value.isVoid, ht]
      have htext : nonEmpty? (some t) = some t := by simp [nonEmpty?, Option.filter, ht]
      rw [hkept, htext, mapM_some_eq_ok_iff]
      exact ⟨t, rfl, rfl⟩

/-- The role that a resource names is the qualified name of its service. -/
theorem resourceRole?_of_string {resource : Attributes} {service space : Option String}
    (hservice : resource.get? AttributeKey.serviceName = service.map Value.string)
    (hspace : resource.get? AttributeKey.serviceNamespace = space.map Value.string) :
    resourceRole? resource =
      .ok ((nonEmpty? service).map (RoleSources.qualified (nonEmpty? space))) := by
  rw [resourceRole?, resourceText?_of_string hservice, resourceText?_of_string hspace]
  cases nonEmpty? service with
  | none => rfl
  | some name => cases nonEmpty? space <;> rfl

/-- It is never empty. -/
theorem nonEmpty?_qualified (service space : Option String) :
    nonEmpty? ((nonEmpty? service).map (RoleSources.qualified space)) =
      (nonEmpty? service).map (RoleSources.qualified space) := by
  cases hname : nonEmpty? service with
  | none => rfl
  | some name =>
    have hne : name ≠ "" := by simpa using (Option.filter_eq_some_iff.1 hname).2
    simp [nonEmpty?, RoleSources.qualified_ne_empty hne]

/-! ### The roles that components have -/

namespace RoleSources

variable {s : RoleSources} {given : Option String}

/-- A mistaken role is another one than it should be. -/
theorem MistakenFor.ne_proper? (h : s.MistakenFor given) : given ≠ s.proper? := by
  cases h with
  | unnamedRole hrole _ => simp [proper?, hrole]
  | namedService hrole hname hspace hunknown _ => simp [proper?, hrole, hname, hunknown]
  | unnamedService hrole hname hspace hknown _ => simp [proper?, hrole, hname, hknown]

variable {c : Configuration} {resource : Attributes}

/-- What a component names as its role: the configured one or the qualified name of the service, whichever is
    there first, unless it begins as the name of a service that nobody has named. -/
def named? (s : RoleSources) : Option String :=
  ((nonEmpty? s.configured).or
    ((nonEmpty? s.service).map (qualified (nonEmpty? s.namespaceOfService)))).filter
      fun role => !startsWith role unknownService

/-- **The role** of a component is what it names. -/
theorem Describe.role?_eq (h : s.Describe c resource) : c.role? resource = .ok s.named? := by
  have hresource := resourceRole?_of_string h.service h.namespaceOfService
  rw [Configuration.role?, named?, h.configured]
  cases hrole : nonEmpty? s.configured with
  | some role =>
    have hne : nonEmpty? (some role) = some role := by
      have hrole' := (Option.filter_eq_some_iff.1 hrole).2
      simpa [nonEmpty?, Option.filter] using hrole'
    simp [pure, Except.pure, bind, Except.bind, hne]
  | none =>
    simp [hresource, pure, Except.pure, bind, Except.bind, nonEmpty?_qualified]

/-- A mistaken component has the role that it is mistaken for. -/
theorem MistakenFor.named?_eq (hmistaken : s.MistakenFor given) : s.named? = given := by
  unfold named?
  cases hmistaken with
  | unnamedRole hrole hunknown => simp [hrole, Option.filter, hunknown]
  | @namedService name space hrole hname hspace _ hknown =>
    have hbegins : startsWith (space ++ "." ++ name) unknownService = false :=
      (startsWith_qualified_some space name).trans hknown
    simp [hrole, hname, hspace, Option.filter, qualified, hbegins]
  | @unnamedService name space hrole hname hspace _ hunknown =>
    have hbegins := (startsWith_qualified_some space name).trans hunknown
    simp [hrole, hname, hspace, Option.filter, hbegins]

/-- A component has the role that it should have, or it is mistaken. -/
theorem named?_cases (s : RoleSources) : s.named? = s.proper? ∨ ∃ given, s.MistakenFor given := by
  unfold named? proper?
  cases hrole : nonEmpty? s.configured with
  | some role =>
    cases hbegins : startsWith role unknownService with
    | true => exact Or.inr ⟨_, .unnamedRole hrole hbegins⟩
    | false => simp [Option.filter, hbegins]
  | none =>
    cases hname : nonEmpty? s.service with
    | none => simp
    | some name =>
      cases hspace : nonEmpty? s.namespaceOfService with
      | none =>
        cases hown : startsWith name unknownService <;> simp [Option.filter, qualified, hown]
      | some space =>
        -- the namespace decides, where the name should
        have hqualified := startsWith_qualified_some space name
        cases hown : startsWith name unknownService <;>
          cases hother : startsWith space unknownService
        · simp [Option.filter, hqualified, hown, hother]
        · exact Or.inr ⟨_, .unnamedService hrole hname hspace hown hother⟩
        · exact Or.inr ⟨_, .namedService hrole hname hspace hown hother⟩
        · simp [Option.filter, hqualified, hown, hother]

end RoleSources

namespace Configuration

/-- The defaults of a configuration can be written if the resource names its service, its namespace and its
    instance by strings, as far as it names them. -/
theorem exists_defaults {c : Configuration} {resource : Attributes} {s : RoleSources}
    (h : s.Describe c resource) {name : Option String}
    (hinstance : resource.get? AttributeKey.serviceInstanceId = name.map Value.string)
    (hostName : String) : ∃ d, c.defaults resource hostName = .ok d := by
  have hname : ∃ instanceName, c.instanceName resource hostName = .ok instanceName := by
    unfold instanceName
    split
    · exact ⟨_, rfl⟩
    · exact ⟨_, map_eq_ok_iff.2 ⟨_, resourceText?_of_string hinstance, rfl⟩⟩
  obtain ⟨instanceName, hname⟩ := hname
  exact ⟨_, bind_eq_ok_iff.2 ⟨_, h.role?_eq, bind_eq_ok_iff.2 ⟨instanceName, hname, rfl⟩⟩⟩

/-- The role on an item with the defaults of a configuration. -/
theorem tag?_defaults {c : Configuration} {resource : Attributes} {hostName : String} {d : ItemDefaults}
    {s : RoleSources} (h : s.Describe c resource) (hdefaults : c.defaults resource hostName = .ok d)
    (i : Item) : (d.apply i).tag? .cloudRole = s.named?.or (i.tag? .cloudRole) := by
  simp only [defaults, bind_eq_ok_iff] at hdefaults
  obtain ⟨role, hrole, instanceName, -, hd⟩ := hdefaults
  obtain rfl := Except.ok.inj hd
  obtain rfl : s.named? = role := Except.ok.inj (h.role?_eq.symm.trans hrole)
  unfold Item.tag? ItemDefaults.apply
  cases s.named? <;> simp [Table.insertList, TagKey.name]

/-- **A component has its role unless it is mistaken.**  An item with the defaults of a configuration names
    the configured role, or else the qualified name of the service if somebody has named it, and otherwise
    no role but the one that it had before. This is so iff the configured role does not begin as the name
    of a service that nobody has named and, if none is configured, such a service is not in a named
    namespace and a named one not in such a namespace. Otherwise the item names the role that the
    component is mistaken for. There are such defaults for every resource that names its service, its
    namespace and its instance by strings, as far as it names them. -/
theorem role_is_proper_unless_mistaken (c : Configuration) (resource : Attributes) (hostName : String)
    (s : RoleSources) (h : s.Describe c resource) (i : Item) :
    (∀ name : Option String,
      resource.get? AttributeKey.serviceInstanceId = name.map Value.string →
      ∃ d, c.defaults resource hostName = .ok d) ∧
    ∀ d, c.defaults resource hostName = .ok d →
      ((∀ given, ¬ s.MistakenFor given) →
        (d.apply i).tag? .cloudRole = s.proper?.or (i.tag? .cloudRole)) ∧
      (∀ given, s.MistakenFor given → given ≠ s.proper? ∧
        (d.apply i).tag? .cloudRole = given.or (i.tag? .cloudRole)) ∧
      (i.tag? .cloudRole = none →
        ((d.apply i).tag? .cloudRole = s.proper? ↔ ∀ given, ¬ s.MistakenFor given)) := by
  refine ⟨fun name hinstance => exists_defaults h hinstance hostName, fun d hdefaults => ?_⟩
  have hproper (hnot : ∀ given, ¬ s.MistakenFor given) : s.named? = s.proper? :=
    s.named?_cases.resolve_right fun ⟨given, hmistaken⟩ => hnot given hmistaken
  rw [tag?_defaults h hdefaults]
  refine ⟨fun hnot => ?_, fun given hmistaken => ⟨hmistaken.ne_proper?, ?_⟩, fun hnone => ⟨?_, ?_⟩⟩
  · rw [hproper hnot]
  · rw [hmistaken.named?_eq]
  · rw [hnone, Option.or_none]
    intro hrole given hmistaken
    exact hmistaken.ne_proper? (hmistaken.named?_eq.symm.trans hrole)
  · intro hnot
    rw [hnone, Option.or_none, hproper hnot]

/-- A configuration that names no role. -/
def exampleUnnamed : Configuration where
  connectionString := none
  statusCodesFail := none
  roleName := none
  roleInstance := none
  preaggregatedMetrics := none
  instrumentationKey := none

/-- What the resource of a service in a shop says. -/
def exampleShop (service : String) : RoleSources where
  service := some service
  namespaceOfService := some "shop"

/-- The resource of a service in a shop. -/
def exampleResource (service : String) : Attributes :=
  .ofList [(AttributeKey.serviceName, .string service),
    (AttributeKey.serviceNamespace, .string "shop")]

theorem describe_exampleShop (service : String) :
    (exampleShop service).Describe exampleUnnamed (exampleResource service) where
  configured := rfl
  service := by
    simp [exampleResource, exampleShop, Table.ofList, Table.insertList, AttributeKey.serviceName,
      AttributeKey.serviceNamespace]
  namespaceOfService := by simp [exampleResource, exampleShop, Table.ofList, Table.insertList]

/-- The resource names no instance, so its defaults can be written. -/
theorem get?_exampleResource_instance (service : String) :
    (exampleResource service).get? AttributeKey.serviceInstanceId =
      (none : Option String).map Value.string := by
  simp [exampleResource, Table.ofList, Table.insertList, AttributeKey.serviceName,
    AttributeKey.serviceNamespace, AttributeKey.serviceInstanceId]
  rfl

/-- A service that is named has its role. One that nobody has named, in the same namespace, is mistaken. -/
theorem role_is_proper_unless_mistaken_shop :
    (exampleShop "checkout").Describe exampleUnnamed (exampleResource "checkout") ∧
    (∃ d, exampleUnnamed.defaults (exampleResource "checkout") "host" = .ok d ∧
      (d.apply { data := .message {} }).tag? .cloudRole = some "shop.checkout") ∧
    ∃ d, exampleUnnamed.defaults (exampleResource "unknown_service:shop") "host" = .ok d ∧
      (d.apply { data := .message {} }).tag? .cloudRole = some "shop.unknown_service:shop" := by
  have hnamed := describe_exampleShop "checkout"
  have hunnamed := describe_exampleShop "unknown_service:shop"
  obtain ⟨hexists, hroles⟩ :=
    role_is_proper_unless_mistaken _ _ "host" _ hnamed { data := .message {} }
  obtain ⟨hexists', hroles'⟩ :=
    role_is_proper_unless_mistaken _ _ "host" _ hunnamed { data := .message {} }
  obtain ⟨d, hd⟩ := hexists none (get?_exampleResource_instance _)
  obtain ⟨d', hd'⟩ := hexists' none (get?_exampleResource_instance _)
  obtain ⟨hproper, -, -⟩ := hroles d hd
  obtain ⟨-, hmistaken, -⟩ := hroles' d' hd'
  have hgiven := hmistaken (some ("shop" ++ "." ++ "unknown_service:shop"))
  refine ⟨hnamed, ⟨d, hd, (hproper ?_).trans (by decide +kernel)⟩, d', hd',
    (hgiven ?_).2.trans (by decide +kernel)⟩
  · rintro given (⟨hrole, -⟩ | ⟨-, hname, -, hunknown, -⟩ | ⟨-, -, hspace, -, hunknown⟩)
    · simp [exampleShop, nonEmpty?] at hrole
    · obtain rfl : "checkout" = _ := by simpa [exampleShop, nonEmpty?, Option.filter] using hname
      exact absurd hunknown (by decide)
    · obtain rfl : "shop" = _ := by simpa [exampleShop, nonEmpty?, Option.filter] using hspace
      exact absurd hunknown (by decide)
  · exact .namedService (by decide) (by decide +kernel) (by decide +kernel) (by decide) (by decide)

/-- Not every component has the role that it should have: a service that nobody has named has one if it is
    in a namespace. -/
theorem role_not_always_proper :
    ¬ ∀ (c : Configuration) (resource : Attributes) (hostName : String) (s : RoleSources)
      (d : ItemDefaults), s.Describe c resource → c.defaults resource hostName = .ok d →
        (d.apply { data := .message {} }).tag? .cloudRole = s.proper? := by
  intro halways
  have hshop := describe_exampleShop "unknown_service:shop"
  obtain ⟨d, hd⟩ := exists_defaults hshop (get?_exampleResource_instance _) "host"
  have hrole := halways _ _ "host" _ d hshop hd
  rw [tag?_defaults hshop hd] at hrole
  exact absurd hrole (by decide +kernel)

end Configuration

end SpanTelemetry
