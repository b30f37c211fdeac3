import SpanTelemetry.Proofs.Protocol.HttpServer
import SpanTelemetry.Proofs.Url.Disclosure

namespace SpanTelemetry

open Text

/-!
# Empty targets of HTTP calls

A URL without a network location names no target, and the next attribute is asked. Whether a target is
there is asked before the port of the scheme is left out, so a URL that names this port and nothing else
has a target that is empty.

* `Url.NamesOnlyDefaultPort` — these URLs.
* `Url.withoutPort_eq_nil_iff`, `Url.target?_eq_empty_iff` — only they have an empty target.
* `Attributes.AsksUrl` — calls whose URL is asked first.
* `Attributes.networkTarget?_ne_empty` — the network connection gives no empty target.
* `Attributes.httpTarget_of_no_url_target` — what is asked where the URL has no target.
* `empty_target_iff` — which URLs and which of these calls have an empty target.
-/

namespace Url

/-! ### URLs -/

/-- Absolute URLs of which nothing follows the user information but the port that the scheme stands for. -/
def NamesOnlyDefaultPort (url : String) : Prop :=
  ∃ u, absolute? url.toList = some u ∧
    (String.ofList u.scheme = "http" ∧ afterLast '@' u.authority = [':', '8', '0'] ∨
      String.ofList u.scheme = "https" ∧ afterLast '@' u.authority = [':', '4', '4', '3'])

/-- Nothing is left of a host without a port iff it is empty or no more than that port. -/
theorem withoutPort_eq_nil_iff (port : Nat) (host : List Char) :
    withoutPort port host = [] ↔ host = [] ∨ host = portEnding port := by
  unfold withoutPort
  cases hdrop : dropEnd? (portEnding port) host with
  | some before =>
    have hhost : host = before ++ portEnding port := dropEnd?_eq_some_iff.1 hdrop
    have hending : portEnding port ≠ [] := List.cons_ne_nil _ _
    rw [Option.getD_some, hhost]
    simp [hending]
  | none =>
    have hother : host ≠ portEnding port := by
      rintro rfl
      have hwhole : dropEnd? (portEnding port) (portEnding port) = some [] :=
        dropEnd?_eq_some_iff.2 (List.nil_append _).symm
      rw [hwhole] at hdrop
      cases hdrop
    rw [Option.getD_none]
    simp [hother]

/-- The target of a URL in its parts is empty iff nothing is there but the port of the scheme. -/
theorem target_eq_nil_iff {u : Url} (hne : afterLast '@' u.authority ≠ []) :
    u.target = [] ↔
      String.ofList u.scheme = "http" ∧ afterLast '@' u.authority = [':', '8', '0'] ∨
        String.ofList u.scheme = "https" ∧ afterLast '@' u.authority = [':', '4', '4', '3'] := by
  have hhttp : portEnding 80 = [':', '8', '0'] := by decide
  have hhttps : portEnding 443 = [':', '4', '4', '3'] := by decide
  unfold target defaultPort?
  by_cases hscheme : String.ofList u.scheme = "http"
  · simp [hscheme, withoutPort_eq_nil_iff, hne, hhttp]
  · by_cases hsecure : String.ofList u.scheme = "https"
    · simp [hsecure, withoutPort_eq_nil_iff, hne, hhttps]
    · simp [hscheme, hsecure, hne]

/-- **An empty target** is that of a URL that names the port of its scheme and nothing else. -/
theorem target?_eq_empty_iff (url : String) : target? url = some "" ↔ NamesOnlyDefaultPort url := by
  rw [target?_eq_some_iff]
  constructor
  · rintro ⟨u, hurl, hne, htarget⟩
    have hnil : u.target = [] := String.ofList_eq_empty_iff.1 htarget
    exact ⟨u, hurl, (target_eq_nil_iff hne).1 hnil⟩
  · rintro ⟨u, hurl, hport⟩
    -- a port is more than nothing, so the target counts as present
    have hne : afterLast '@' u.authority ≠ [] := by
      rcases hport with ⟨-, hport⟩ | ⟨-, hport⟩ <;> simp [hport]
    exact ⟨u, hurl, hne, String.ofList_eq_empty_iff.2 ((target_eq_nil_iff hne).2 hport)⟩

end Url

/-! ### Calls -/

namespace Attributes

/-- HTTP calls whose URL is asked first for a target, and whose network names are not empty. -/
structure AsksUrl (attributes : Attributes) : Prop where
  service : attributes.peerService? = none
  host : attributes.string? AttributeKey.httpHost = none
  name : attributes.string? AttributeKey.netPeerName ≠ some ""
  ip : attributes.string? AttributeKey.netPeerIp ≠ some ""

variable {attributes : Attributes}

/-- A host that is not empty stays so with a port. -/
theorem withPort_ne_empty {host : String} (hhost : host ≠ "") (defaultPort : Int)
    (port : Option Int) : withPort defaultPort host port ≠ .ok "" := by
  cases port with
  | none => exact fun htext => hhost (Except.ok.inj htext)
  | some port =>
    rw [ne_eq, withPort_eq_ok_iff]
    rintro (⟨-, hempty⟩ | ⟨-, -, hempty⟩)
    · exact hhost hempty
    · simp at hempty

/-- The network connection gives no empty target. -/
theorem networkTarget?_ne_empty (h : attributes.AsksUrl) (defaultPort : Int) :
    attributes.networkTarget? defaultPort ≠ .ok (some "") := by
  unfold networkTarget?
  cases hhost : attributes.peerHost? with
  | none => nofun
  | some host =>
    rw [ne_eq, mapM_some_eq_ok_iff]
    rintro ⟨_, htext, ⟨⟩⟩
    refine withPort_ne_empty ?_ _ _ htext
    rintro rfl
    -- an empty host would be the name or the address
    rcases Option.or_eq_some_iff.1 hhost with hname | ⟨-, hip⟩
    · exact h.name hname
    · exact h.ip hip

/-- The URL decides if it has a target. -/
theorem httpTarget_of_url_target (h : attributes.AsksUrl) {url target : String}
    (hurl : attributes.string? AttributeKey.httpUrl = some url)
    (htarget : Url.target? url = some target) : attributes.httpTarget = .ok target :=
  httpTarget_of_url h.service h.host hurl htarget

/-- **Otherwise the network connection is asked**, and the name of the protocol stands at the end. -/
theorem httpTarget_of_no_url_target (h : attributes.AsksUrl)
    (hurl : ∀ url, attributes.string? AttributeKey.httpUrl = some url → Url.target? url = none) :
    attributes.httpTarget =
      (attributes.networkTarget? attributes.schemePort).map (·.getD "Http") := by
  have hnone : (attributes.string? AttributeKey.httpUrl).bind Url.target? = none :=
    Option.bind_eq_none_iff.2 hurl
  simp [httpTarget, namedTarget?, h.service, hostHeaderTarget?, h.host, hnone]

/-- **An empty target of a call** is that of its URL. -/
theorem httpTarget_eq_empty_iff (h : attributes.AsksUrl) :
    attributes.httpTarget = .ok "" ↔
      ∃ url, attributes.string? AttributeKey.httpUrl = some url ∧ Url.NamesOnlyDefaultPort url := by
  constructor
  · intro hempty
    cases htarget : (attributes.string? AttributeKey.httpUrl).bind Url.target? with
    | some target =>
      obtain ⟨url, hurl, hurlTarget⟩ := Option.bind_eq_some_iff.1 htarget
      obtain ⟨⟩ := (httpTarget_of_url_target h hurl hurlTarget).symm.trans hempty
      exact ⟨url, hurl, (Url.target?_eq_empty_iff url).1 hurlTarget⟩
    | none =>
      -- neither the connection nor the name of the protocol is empty
      rw [httpTarget_of_no_url_target h (Option.bind_eq_none_iff.1 htarget), map_eq_ok_iff] at hempty
      obtain ⟨target | target, hnetwork, hempty⟩ := hempty
      · exact absurd hempty (by decide)
      · obtain rfl : target = "" := hempty
        exact absurd hnetwork (networkTarget?_ne_empty h _)
  · rintro ⟨url, hurl, hport⟩
    exact httpTarget_of_url_target h hurl ((Url.target?_eq_empty_iff url).2 hport)

end Attributes

/-- **Empty targets.**  The target of a URL is missing or a text that is not empty, unless the URL names the
    port of its scheme and nothing else. So is the target of a call whose URL is asked first: where the URL
    has none, the network connection is asked, and the name of the protocol stands at the end. There is a
    target as long as the port of that connection can be written. -/
theorem empty_target_iff (url : String) (attributes : Attributes) :
    (Url.target? url = some "" ↔ Url.NamesOnlyDefaultPort url) ∧
      (attributes.AsksUrl →
        (attributes.httpTarget = .ok "" ↔ ∃ called,
          attributes.string? AttributeKey.httpUrl = some called ∧ Url.NamesOnlyDefaultPort called) ∧
        (∀ called target, attributes.string? AttributeKey.httpUrl = some called →
          Url.target? called = some target → attributes.httpTarget = .ok target) ∧
        ((∀ called, attributes.string? AttributeKey.httpUrl = some called →
            Url.target? called = none) →
          attributes.httpTarget =
            (attributes.networkTarget? attributes.schemePort).map (·.getD "Http")) ∧
        (attributes.HasShortIntegers [AttributeKey.netPeerPort] →
          ∃ target, attributes.httpTarget = .ok target)) := by
  refine ⟨Url.target?_eq_empty_iff url, fun hasks => ⟨?_, ?_, ?_, Attributes.exists_httpTarget⟩⟩
  · exact Attributes.httpTarget_eq_empty_iff hasks
  · intro called target hcalled htarget
    exact Attributes.httpTarget_of_url_target hasks hcalled htarget
  · intro hcalled
    exact Attributes.httpTarget_of_no_url_target hasks hcalled

/-- A call with a URL that names no host, and a connection that does. -/
def exampleRelativeCall : Attributes :=
  .ofList [("http.method", .string "GET"), ("http.url", .string "http://ops@/cart"),
    ("net.peer.ip", .string "10.0.0.1"), ("net.peer.port", .int 8080)]

/-- Its target is the one of the connection. -/
theorem empty_target_iff_relative :
    exampleRelativeCall.AsksUrl ∧ ¬ Url.NamesOnlyDefaultPort "http://ops@/cart" ∧
      exampleRelativeCall.HasShortIntegers [AttributeKey.netPeerPort] ∧
      exampleRelativeCall.httpTarget = .ok "10.0.0.1:8080" := by
  have hasks : exampleRelativeCall.AsksUrl :=
    ⟨by decide +kernel, by decide +kernel, by decide +kernel, by decide +kernel⟩
  have hurl : exampleRelativeCall.string? AttributeKey.httpUrl = some "http://ops@/cart" := by
    decide +kernel
  have hnone : Url.target? "http://ops@/cart" = none := by decide +kernel
  obtain ⟨hempty, hcall⟩ := empty_target_iff "http://ops@/cart" exampleRelativeCall
  obtain ⟨-, -, hnetwork, -⟩ := hcall hasks
  have hmissing : ∀ url, exampleRelativeCall.string? AttributeKey.httpUrl = some url →
      Url.target? url = none := by
    intro url hsome
    rw [hurl] at hsome
    cases hsome
    exact hnone
  have hport : exampleRelativeCall.int? AttributeKey.netPeerPort = some 8080 := by decide +kernel
  refine ⟨hasks, fun hport => ?_, ?_, (hnetwork hmissing).trans (by decide +kernel)⟩
  · rw [hempty.2 hport] at hnone
    cases hnone
  · intro key hkey n hn
    rw [List.mem_singleton.1 hkey, hport] at hn
    cases hn
    calc
      8080 < 10 ^ 4 := by decide
      _ ≤ 10 ^ maxDigits := Nat.pow_le_pow_right (by decide) (by decide)

/-- A call with a URL that names the port of its scheme and nothing else. -/
def exampleEmptyHost : Attributes :=
  .ofList [("http.method", .string "GET"), ("http.url", .string "http://:80/"),
    ("net.peer.name", .string "shop.example")]

/-- Targets are not always missing or more than the empty text, neither of URLs nor of calls. -/
theorem default_port_alone_has_empty_target :
    (¬ ∀ url, Url.target? url = none ∨ ∃ target, Url.target? url = some target ∧ target ≠ "") ∧
      ¬ ∀ attributes : Attributes, attributes.AsksUrl → attributes.httpTarget ≠ .ok "" := by
  have hempty : Url.target? "http://:80/" = some "" := by decide +kernel
  refine ⟨fun halways => ?_, fun halways => ?_⟩
  · obtain hnone | ⟨target, htarget, hne⟩ := halways "http://:80/"
    · rw [hempty] at hnone
      cases hnone
    · rw [hempty] at htarget
      exact hne (Option.some.inj htarget).symm
  · have hasks : exampleEmptyHost.AsksUrl :=
      ⟨by decide +kernel, by decide +kernel, by decide +kernel, by decide +kernel⟩
    exact halways exampleEmptyHost hasks (by decide +kernel)

end SpanTelemetry
