import SpanTelemetry.Proofs.Protocol.Written
import SpanTelemetry.Proofs.Table
import SpanTelemetry.Proofs.Url.Endpoint

namespace SpanTelemetry

open Text

/-!
# One server, one target

HTTP instrumentations name the server of a call in three ways: by the `Host` header, by the URL, and by
the network connection. Each of them leaves out the port of the scheme in a way of its own. The first two
hold the port as text; that of the network connection is an integer, which may have too many digits to be
written.

* `Attributes.httpTarget_of_host`, `Attributes.httpTarget_of_url`,
  `Attributes.httpTarget_of_connection` — which attributes decide.
* `HttpServer` — a server, with the least attributes that name it in each of the three ways.
* `NamesByHost.httpTarget_eq`, `NamesByUrl.httpTarget_eq`, `NamesByConnection.httpTarget_eq` — the
  target of a call to it, whatever else the attributes hold.
* `HttpServer.one_target` — all of them give one target, as far as the port can be written.
-/

namespace Attributes

variable {attributes : Attributes}

/-! ### The attributes that decide -/

/-- The port that the scheme stands for; zero where it stands for none. -/
theorem schemePort_of_scheme {scheme : String}
    (h : attributes.string? AttributeKey.httpScheme = some scheme) :
    attributes.schemePort = (Url.defaultPort? scheme).getD 0 := by
  rw [schemePort, h, Option.bind_some]

/-- The `Host` header decides where the other side has no logical name. -/
theorem httpTarget_of_host (hservice : attributes.peerService? = none) {host : String}
    (hhost : attributes.string? AttributeKey.httpHost = some host) :
    attributes.httpTarget =
      .ok (if attributes.schemePort = 0 then host
        else String.ofList (Url.withoutPort attributes.schemePort host.toList)) := by
  simp [httpTarget, namedTarget?, hservice, hostHeaderTarget?, hhost]

/-- Without the header, a URL with a target decides. -/
theorem httpTarget_of_url (hservice : attributes.peerService? = none)
    (hhost : attributes.string? AttributeKey.httpHost = none) {url target : String}
    (hurl : attributes.string? AttributeKey.httpUrl = some url)
    (htarget : Url.target? url = some target) : attributes.httpTarget = .ok target := by
  simp [httpTarget, namedTarget?, hservice, hostHeaderTarget?, hhost, hurl, htarget]

/-- Without either, the network connection decides. -/
theorem httpTarget_of_connection (hservice : attributes.peerService? = none)
    (hhost : attributes.string? AttributeKey.httpHost = none)
    (hurl : attributes.string? AttributeKey.httpUrl = none) {host : String}
    (hpeer : attributes.peerHost? = some host) :
    attributes.httpTarget =
      withPort attributes.schemePort host (attributes.int? AttributeKey.netPeerPort) := by
  have hnamed : attributes.namedTarget? = none := by
    simp [namedTarget?, hservice, hostHeaderTarget?, hhost, hurl]
  rw [httpTarget, hnamed, networkTarget?, hpeer]
  cases hwritten : withPort attributes.schemePort host (attributes.int? AttributeKey.netPeerPort) <;>
    simp [Except.map, hwritten]

end Attributes

/-! ### Servers -/

/-- A server of HTTP calls. Its scheme is in lower case, and its name is of ASCII characters. -/
structure HttpServer where
  scheme : List Char
  host : List Char
  port : Nat
  isScheme : Url.IsScheme scheme
  isUpper_scheme : ∀ c ∈ scheme, c.isUpper = false
  host_ne_nil : host ≠ []
  isHostChar_host : ∀ c ∈ host, Url.isHostChar c = true
  port_pos : 0 < port

namespace HttpServer

variable (s : HttpServer)

/-- The host and the port. -/
def hostAndPort : List Char := s.host ++ ':' :: decimal s.port

/-- The text of a URL on the server: `rest` is its path, its query and its fragment. -/
def urlText (rest : List Char) : List Char :=
  s.scheme ++ ':' :: '/' :: '/' :: (s.hostAndPort ++ rest)

/-- The server named by the `Host` header. -/
def byHost : Attributes :=
  .ofList [(AttributeKey.httpScheme, .string (String.ofList s.scheme)),
    (AttributeKey.httpHost, .string (String.ofList s.hostAndPort))]

/-- The server named by a URL. -/
def byUrl (rest : List Char) : Attributes :=
  .ofList [(AttributeKey.httpUrl, .string (String.ofList (s.urlText rest)))]

/-- The server named by the network connection. -/
def byConnection : Attributes :=
  .ofList [(AttributeKey.httpScheme, .string (String.ofList s.scheme)),
    (AttributeKey.netPeerName, .string (String.ofList s.host)),
    (AttributeKey.netPeerPort, .int s.port)]

/-- The target of calls to the server: its host, and its port unless the scheme stands for it. -/
def target : List Char :=
  if String.ofList s.scheme = "http" ∧ s.port = 80 ∨ String.ofList s.scheme = "https" ∧ s.port = 443
  then s.host
  else s.hostAndPort

/-! ### Its names -/

theorem target_eq_endpoint :
    s.target = Url.endpoint (String.ofList s.scheme) s.host (some (decimal s.port)) :=
  (Url.endpoint_decimal _ _ _).symm

/-- A scheme in lower case is left as it is. -/
theorem asciiLowercase_scheme : asciiLowercase s.scheme = s.scheme := by
  refine (List.map_congr_left fun c hc => ?_).trans (List.map_id _)
  have hupper : ¬ ('A' ≤ c ∧ c ≤ 'Z') := of_decide_eq_false (s.isUpper_scheme c hc)
  rw [asciiLower, if_neg hupper]
  rfl

theorem colon_not_mem_host : ':' ∉ s.host := Url.colon_not_mem_of_isHostChar s.isHostChar_host

theorem colon_not_mem_port : ∀ digits ∈ some (decimal s.port), ':' ∉ digits := by
  rintro _ ⟨⟩
  exact Url.colon_not_mem_decimal s.port

theorem isHostChar_port : ∀ digits ∈ some (decimal s.port), ∀ c ∈ digits, Url.isHostChar c = true := by
  rintro _ ⟨⟩ c hc
  exact Url.isHostChar_of_isDigit (isDigit_of_mem_decimal hc)

/-- A URL on the server has its target. -/
theorem target?_urlText {rest : List Char} (hrest : Url.FollowsAuthority rest)
    (hremoved : ∀ c ∈ rest, Url.isRemoved c = false) :
    Url.target? (String.ofList (s.urlText rest)) = some (String.ofList s.target) := by
  have hchars : ∀ c ∈ s.hostAndPort, Url.isPlainChar c = true ∧ c ≠ '@' := fun c hc =>
    Url.isPlainChar_of_mem_hostAndPort s.isHostChar_host s.isHostChar_port hc
  have hplain : ∀ c ∈ s.hostAndPort, Url.isPlainChar c = true := fun c hc => (hchars c hc).1
  have hisAbsolute : Url.IsAbsolute (s.urlText rest) s.scheme s.hostAndPort rest := {
    text_eq := rfl
    isScheme := s.isScheme
    authority_ne_nil := List.append_ne_nil_of_left_ne_nil s.host_ne_nil _
    isAuthority := Url.isAuthority_of_plain hplain
    endsAuthority_eq_false := fun c hc => (Url.isPlainChar_iff.1 (hplain c hc)).2.1
    followsAuthority := hrest }
  have habsolute := hisAbsolute.absolute?_eq
    (fun c hc => (Url.isPlainChar_iff.1 (hplain c hc)).2.2.2) hremoved
  rw [s.asciiLowercase_scheme, ← String.toList_ofList (l := s.urlText rest)] at habsolute
  have huser : afterLast '@' s.hostAndPort = s.hostAndPort :=
    afterLast_of_not_mem fun hat => (hchars _ hat).2 rfl
  rw [target_eq_endpoint]
  exact Url.target?_eq_endpoint habsolute s.host_ne_nil s.colon_not_mem_host s.colon_not_mem_port huser

/-! ### Attributes that name the server -/

/-- Attributes that name the server by the `Host` header. -/
structure NamesByHost (attributes : Attributes) : Prop where
  service : attributes.peerService? = none
  scheme : attributes.string? AttributeKey.httpScheme = some (String.ofList s.scheme)
  host : attributes.string? AttributeKey.httpHost = some (String.ofList s.hostAndPort)

/-- Attributes that name the server by a URL. -/
structure NamesByUrl (rest : List Char) (attributes : Attributes) : Prop where
  service : attributes.peerService? = none
  host : attributes.string? AttributeKey.httpHost = none
  url : attributes.string? AttributeKey.httpUrl = some (String.ofList (s.urlText rest))

/-- Attributes that name the server by the network connection. -/
structure NamesByConnection (attributes : Attributes) : Prop where
  service : attributes.peerService? = none
  host : attributes.string? AttributeKey.httpHost = none
  url : attributes.string? AttributeKey.httpUrl = none
  scheme : attributes.string? AttributeKey.httpScheme = some (String.ofList s.scheme)
  name : attributes.peerHost? = some (String.ofList s.host)
  port : attributes.int? AttributeKey.netPeerPort = some (s.port : Int)

variable {s} {attributes : Attributes}

/-- The port of the scheme is taken away from the `Host` header as text. -/
theorem NamesByHost.httpTarget_eq (h : s.NamesByHost attributes) :
    attributes.httpTarget = .ok (String.ofList s.target) := by
  rw [Attributes.httpTarget_of_host h.service h.host, Attributes.schemePort_of_scheme h.scheme,
    target_eq_endpoint,
    ← Url.withoutDefaultPort_eq_endpoint _ s.colon_not_mem_host s.colon_not_mem_port]
  simp only [Url.getD_defaultPort?_eq_zero_iff]
  cases hdefault : Url.defaultPort? (String.ofList s.scheme) with
  | none => simp [hostAndPort, Url.tailText]
  | some port => simp [hostAndPort, Url.tailText]

/-- It is taken away from the network location of a URL. -/
theorem NamesByUrl.httpTarget_eq {rest : List Char} (h : s.NamesByUrl rest attributes)
    (hrest : Url.FollowsAuthority rest) (hremoved : ∀ c ∈ rest, Url.isRemoved c = false) :
    attributes.httpTarget = .ok (String.ofList s.target) :=
  Attributes.httpTarget_of_url h.service h.host h.url (s.target?_urlText hrest hremoved)

/-- The port of the network connection is compared with it as a number. -/
theorem NamesByConnection.httpTarget_eq (h : s.NamesByConnection attributes) :
    attributes.httpTarget =
      if s.port < 10 ^ maxDigits then .ok (String.ofList s.target) else .error .tooManyDigits := by
  rw [Attributes.httpTarget_of_connection h.service h.host h.url h.name, h.port,
    Attributes.schemePort_of_scheme h.scheme]
  have hdefault : (s.port : Int) = ((Url.defaultPort? (String.ofList s.scheme)).getD 0 : Nat) ↔
      String.ofList s.scheme = "http" ∧ s.port = 80 ∨ String.ofList s.scheme = "https" ∧ s.port = 443 :=
    Int.ofNat_inj.trans (Url.eq_getD_defaultPort?_iff s.port_pos _)
  by_cases hport : String.ofList s.scheme = "http" ∧ s.port = 80 ∨
      String.ofList s.scheme = "https" ∧ s.port = 443
  · -- the port of a scheme has few digits
    have hdigits : s.port < 10 ^ maxDigits := calc
      s.port < 10 ^ 3 := by omega
      _ ≤ 10 ^ maxDigits := Nat.pow_le_pow_right (by decide) (by decide)
    rw [if_pos hdigits, target, if_pos hport]
    exact Attributes.withPort_eq_ok_iff.2 (Or.inl ⟨hdefault.2 hport, rfl⟩)
  · rw [target, if_neg hport]
    split
    · rename_i hdigits
      refine Attributes.withPort_eq_ok_iff.2 (Or.inr ⟨mt hdefault.1 hport, by simpa using hdigits, ?_⟩)
      rw [integer_natCast, hostAndPort, ← String.toList_inj]
      simp
    · rename_i hdigits
      refine Attributes.withPort_eq_error_iff.2 ⟨mt hdefault.1 hport, ?_⟩
      simpa using hdigits

/-! ### The least attributes that do so -/

variable (s)

/-- The header comes with the scheme, and with nothing else. -/
theorem get?_byHost (key : String) :
    Table.get? s.byHost key =
      [(AttributeKey.httpScheme, Value.string (String.ofList s.scheme)),
        (AttributeKey.httpHost, Value.string (String.ofList s.hostAndPort))].lookup key := by
  have hkeys : [AttributeKey.httpScheme, AttributeKey.httpHost].Nodup := by decide
  refine Table.get?_ofList ?_ key
  exact hkeys

/-- The URL stands alone. -/
theorem get?_byUrl (rest : List Char) (key : String) :
    Table.get? (s.byUrl rest) key =
      [(AttributeKey.httpUrl, Value.string (String.ofList (s.urlText rest)))].lookup key := by
  have hkeys : [AttributeKey.httpUrl].Nodup := by decide
  refine Table.get?_ofList ?_ key
  exact hkeys

/-- The connection comes with the scheme, and with nothing else. -/
theorem get?_byConnection (key : String) :
    Table.get? s.byConnection key =
      [(AttributeKey.httpScheme, Value.string (String.ofList s.scheme)),
        (AttributeKey.netPeerName, Value.string (String.ofList s.host)),
        (AttributeKey.netPeerPort, Value.int s.port)].lookup key := by
  have hkeys : [AttributeKey.httpScheme, AttributeKey.netPeerName,
    AttributeKey.netPeerPort].Nodup := by decide
  refine Table.get?_ofList ?_ key
  exact hkeys

/-- Two attributes suffice for the `Host` header. -/
theorem byHost_namesByHost : s.NamesByHost s.byHost where
  service := by
    rw [Attributes.peerService?, Attributes.string?, get?_byHost]
    rfl
  scheme := by
    rw [Attributes.string?, get?_byHost]
    rfl
  host := by
    rw [Attributes.string?, get?_byHost]
    rfl

/-- One attribute suffices for the URL. -/
theorem byUrl_namesByUrl (rest : List Char) : s.NamesByUrl rest (s.byUrl rest) where
  service := by
    rw [Attributes.peerService?, Attributes.string?, get?_byUrl]
    rfl
  host := by
    rw [Attributes.string?, get?_byUrl]
    rfl
  url := by
    rw [Attributes.string?, get?_byUrl]
    rfl

/-- Three attributes suffice for the network connection. -/
theorem byConnection_namesByConnection : s.NamesByConnection s.byConnection where
  service := by
    rw [Attributes.peerService?, Attributes.string?, get?_byConnection]
    rfl
  host := by
    rw [Attributes.string?, get?_byConnection]
    rfl
  url := by
    rw [Attributes.string?, get?_byConnection]
    rfl
  scheme := by
    rw [Attributes.string?, get?_byConnection]
    rfl
  name := by
    rw [Attributes.peerHost?, Attributes.string?, get?_byConnection]
    rfl
  port := by
    rw [Attributes.int?, get?_byConnection]
    rfl

end HttpServer

/-- **One server, one target.**  The `Host` header, the URL and the network connection name a server
    alike, whatever follows the network location of the URL. The port is left out iff the scheme stands
    for it: also where it only ends like that one, as 8080 ends like 80, it is shown. Only the network
    connection holds the port as an integer, so only there it may have too many digits to be written. -/
theorem HttpServer.one_target (s : HttpServer) {rest : List Char} (hrest : Url.FollowsAuthority rest)
    (hremoved : ∀ c ∈ rest, Url.isRemoved c = false) :
    Attributes.httpTarget s.byHost = .ok (String.ofList s.target) ∧
      Attributes.httpTarget (s.byUrl rest) = .ok (String.ofList s.target) ∧
      Attributes.httpTarget s.byConnection =
        if s.port < 10 ^ maxDigits then .ok (String.ofList s.target) else .error .tooManyDigits := by
  refine ⟨?_, ?_, ?_⟩
  · exact s.byHost_namesByHost.httpTarget_eq
  · exact (s.byUrl_namesByUrl rest).httpTarget_eq hrest hremoved
  · exact s.byConnection_namesByConnection.httpTarget_eq

/-- A server of a shop, on any port. -/
def exampleServer (port : Nat) (hport : 0 < port) : HttpServer where
  scheme := "http".toList
  host := "api.example".toList
  port := port
  isScheme := ⟨⟨'h', by decide, by decide⟩, List.all_eq_true.1 (by decide)⟩
  isUpper_scheme := by simp
  host_ne_nil := by decide
  isHostChar_host := List.all_eq_true.1 (by decide)
  port_pos := hport

/-- A port whose text ends like that of the default port is shown. -/
theorem HttpServer.one_target_shop :
    Url.FollowsAuthority "/cart?id=1#top".toList ∧
      (∀ c ∈ "/cart?id=1#top".toList, Url.isRemoved c = false) ∧
      Attributes.httpTarget (exampleServer 8080 (by decide)).byHost = .ok "api.example:8080" ∧
      Attributes.httpTarget ((exampleServer 8080 (by decide)).byUrl "/cart?id=1#top".toList) =
        .ok "api.example:8080" ∧
      Attributes.httpTarget (exampleServer 8080 (by decide)).byConnection = .ok "api.example:8080" := by
  have hrest : Url.FollowsAuthority "/cart?id=1#top".toList := by decide
  have hremoved : ∀ c ∈ "/cart?id=1#top".toList, Url.isRemoved c = false := by
    simp [Url.isRemoved]
  have htarget : String.ofList (exampleServer 8080 (by decide)).target = "api.example:8080" := by
    decide +kernel
  have hdigits : (exampleServer 8080 (by decide)).port < 10 ^ maxDigits := calc
    8080 < 10 ^ 4 := by decide
    _ ≤ 10 ^ maxDigits := Nat.pow_le_pow_right (by decide) (by decide)
  obtain ⟨hhost, hurl, hconnection⟩ :=
    HttpServer.one_target (exampleServer 8080 (by decide)) hrest hremoved
  rw [htarget] at hhost hurl hconnection
  exact ⟨hrest, hremoved, hhost, hurl, hconnection.trans (if_pos hdigits)⟩

/-- A network connection does not name every server as the `Host` header does: of a port with too many digits
    there is no target. -/
theorem HttpServer.not_one_target_of_long_port :
    ¬ ∀ s : HttpServer, Attributes.httpTarget s.byHost = Attributes.httpTarget s.byConnection := by
  intro hsame
  have hpos : 0 < 10 ^ maxDigits := Nat.pow_pos (by decide)
  have hlong : ¬ (exampleServer (10 ^ maxDigits) hpos).port < 10 ^ maxDigits := Nat.lt_irrefl _
  have hserver := hsame (exampleServer (10 ^ maxDigits) hpos)
  rw [(exampleServer _ hpos).byHost_namesByHost.httpTarget_eq,
    (exampleServer _ hpos).byConnection_namesByConnection.httpTarget_eq, if_neg hlong] at hserver
  cases hserver

end SpanTelemetry
