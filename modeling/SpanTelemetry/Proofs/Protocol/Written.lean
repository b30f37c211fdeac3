import SpanTelemetry.Dependency
import SpanTelemetry.Proofs.Table
import SpanTelemetry.Proofs.Value.Text

namespace SpanTelemetry

open Text

/-!
# Calls that can be written

The target of a call may end with a port, and its result is a status code. Both are integers of any size,
and one with too many digits cannot be written.

* `Attributes.HasShortIntegers`, `Attributes.HasNoLongInteger` — attributes whose integers under some keys can
  be written, and those of which all can.
* `Attributes.withPort_eq_ok_iff`, `Attributes.withPort_eq_error_iff` — when a host is written with a port.
* `mapM_ofInt_eq_ok_iff` — when a code is written.
* `Attributes.peerTarget?_eq_ok_none_iff` — when the other side of a connection is not known.
* `DependencyData.exists_describe` — a call is described if its port and its status code can be written.
-/

/-! ### Integers -/

/-- A code that can be written is written as the integer that it is. -/
theorem mapM_ofInt_eq_ok_iff {code? : Option Int} {text? : Option String} :
    code?.mapM ofInt = .ok text? ↔
      (∀ code, code? = some code → code.natAbs < 10 ^ maxDigits) ∧ code?.map integer = text? := by
  cases code? with
  | none => simp [pure, Except.pure]
  | some code =>
    rw [mapM_some_eq_ok_iff]
    simp [ofInt_eq_ok_iff]

namespace Attributes

variable {attributes : Attributes}

/-- No integer under the given keys has too many digits to be written. -/
def HasShortIntegers (attributes : Attributes) (keys : List String) : Prop :=
  ∀ key ∈ keys, ∀ n, attributes.int? key = some n → n.natAbs < 10 ^ maxDigits

/-- No attribute has an integer with too many digits to be written. -/
def HasNoLongInteger (attributes : Attributes) : Prop :=
  ∀ key value, attributes.get? key = some value → ¬ value.HasLongInteger

/-- It is enough that no entry of a list has such an integer. -/
theorem hasNoLongInteger_ofList {es : List (String × Value)}
    (h : ∀ e ∈ es, ¬ e.2.HasLongInteger) : HasNoLongInteger (.ofList es) := by
  intro key value hvalue
  obtain ⟨before, after, rfl, -⟩ := Table.get?_ofList_eq_some_iff.1 hvalue
  exact h (key, value) (by simp)

/-- Then no integer has too many digits, whatever its key is. -/
theorem HasNoLongInteger.hasShortIntegers (h : attributes.HasNoLongInteger) (keys : List String) :
    attributes.HasShortIntegers keys := by
  intro key _ n hn
  obtain ⟨value, hvalue, hint⟩ := Option.bind_eq_some_iff.1 hn
  have hscalar : value = .scalar (.int n) := by
    unfold Value.int? at hint
    split at hint
    · rw [Option.some.inj hint]
    · cases hint
  exact Nat.not_le.1 fun hlong => h key value hvalue (hscalar ▸ .int hlong)

/-- The status code of a call can then be written. -/
theorem HasNoLongInteger.statusCode (h : attributes.HasNoLongInteger) {code : Int}
    (hcode : attributes.statusCode? = some code) : code.natAbs < 10 ^ maxDigits := by
  have hshort := h.hasShortIntegers [AttributeKey.httpStatusCode, AttributeKey.rpcGrpcStatusCode]
  rcases Option.or_eq_some_iff.1 hcode with hcode | ⟨-, hcode⟩
  · exact hshort _ (by simp) code hcode
  · exact hshort _ (by simp) code hcode

/-! ### Hosts with ports -/

section Hosts

variable {defaultPort port : Int} {host : String}

/-- A port is written unless it is the default one or has too many digits. -/
theorem withPort_eq_ok_iff {text : String} :
    withPort defaultPort host (some port) = .ok text ↔
      (port = defaultPort ∧ host = text) ∨
        (port ≠ defaultPort ∧ port.natAbs < 10 ^ maxDigits ∧ host ++ ":" ++ integer port = text) := by
  by_cases hdefault : port = defaultPort
  · simp [withPort, hdefault]
  · simp [withPort, hdefault, map_eq_ok_iff, ofInt_eq_ok_iff]

/-- Only a port with too many digits cannot be written, and only if it is to be shown. -/
theorem withPort_eq_error_iff {e : TextError} :
    withPort defaultPort host (some port) = .error e ↔
      port ≠ defaultPort ∧ 10 ^ maxDigits ≤ port.natAbs := by
  by_cases hdefault : port = defaultPort
  · simp [withPort, hdefault]
  · simp [withPort, hdefault, map_eq_error_iff, ofInt_eq_error_iff]

end Hosts

/-! ### The other side of a connection -/

/-- Nothing is known of the other side of a connection iff it has neither a name nor an address. -/
theorem peerTarget?_eq_ok_none_iff {defaultPort : Int} :
    attributes.peerTarget? defaultPort = .ok none ↔
      attributes.peerService? = none ∧ attributes.peerHost? = none := by
  unfold peerTarget? networkTarget?
  cases attributes.peerService? with
  | some service => simp
  | none =>
    cases attributes.peerHost? with
    | none => simp [pure, Except.pure]
    | some host =>
      simp only [mapM_some_eq_ok_iff]
      simp

section Short

variable (h : attributes.HasShortIntegers [AttributeKey.netPeerPort])

include h

/-- A host can be written with its port if that is short enough. -/
theorem exists_networkTarget? (defaultPort : Int) :
    ∃ target?, attributes.networkTarget? defaultPort = .ok target? := by
  unfold networkTarget?
  cases attributes.peerHost? with
  | none => exact ⟨none, rfl⟩
  | some host =>
    have hwritten : ∃ text,
        withPort defaultPort host (attributes.int? AttributeKey.netPeerPort) = .ok text := by
      cases hport : attributes.int? AttributeKey.netPeerPort with
      | none => exact ⟨host, rfl⟩
      | some port =>
        by_cases hdefault : port = defaultPort
        · exact ⟨_, withPort_eq_ok_iff.2 (Or.inl ⟨hdefault, rfl⟩)⟩
        · have hshort := h _ List.mem_cons_self port hport
          exact ⟨_, withPort_eq_ok_iff.2 (Or.inr ⟨hdefault, hshort, rfl⟩)⟩
    obtain ⟨text, htext⟩ := hwritten
    exact ⟨some text, mapM_some_eq_ok_iff.2 ⟨text, htext, rfl⟩⟩

/-- The other side of a connection can be written if its port can. -/
theorem exists_peerTarget? (defaultPort : Int) :
    ∃ target?, attributes.peerTarget? defaultPort = .ok target? := by
  unfold peerTarget?
  cases attributes.peerService? with
  | some service => exact ⟨some service, rfl⟩
  | none => exact exists_networkTarget? h defaultPort

/-- So can the target of an HTTP call. -/
theorem exists_httpTarget : ∃ target, attributes.httpTarget = .ok target := by
  unfold httpTarget
  cases attributes.namedTarget? with
  | some target => exact ⟨target, rfl⟩
  | none =>
    obtain ⟨target?, htarget⟩ := exists_networkTarget? h attributes.schemePort
    exact ⟨_, map_eq_ok_iff.2 ⟨target?, htarget, rfl⟩⟩

/-- So can that of a query. -/
theorem exists_databaseTarget (system : String) :
    ∃ target, attributes.databaseTarget system = .ok target := by
  obtain ⟨server, hserver⟩ := exists_peerTarget? h (databasePort system)
  exact ⟨_, bind_eq_ok_iff.2 ⟨server, hserver, rfl⟩⟩

/-- So can the place that a message goes through. -/
theorem exists_messagingEndpoint? : ∃ target?, attributes.messagingEndpoint? = .ok target? := by
  unfold messagingEndpoint?
  split
  · exact ⟨_, rfl⟩
  · cases attributes.string? AttributeKey.messagingSystem with
    | none => exact ⟨none, rfl⟩
    | some system =>
      obtain ⟨broker, hbroker⟩ := exists_peerTarget? h 0
      exact ⟨_, mapM_some_eq_ok_iff.2 ⟨_, bind_eq_ok_iff.2 ⟨broker, hbroker, rfl⟩, rfl⟩⟩

end Short

end Attributes

/-! ### Calls -/

/-- **A call is described** if its port and its status code can be written. -/
theorem DependencyData.exists_describe (d : DependencyData) (kind : SpanKind) {attributes : Attributes}
    (appId : Option String)
    (h : attributes.HasShortIntegers [AttributeKey.netPeerPort, AttributeKey.httpStatusCode]) :
    ∃ described, d.describe kind attributes appId = .ok described := by
  have hport : attributes.HasShortIntegers [AttributeKey.netPeerPort] := fun key hkey =>
    h key (List.mem_cons.2 (Or.inl (List.mem_singleton.1 hkey)))
  unfold describe
  cases callProtocol attributes with
  | http =>
    obtain ⟨target, htarget⟩ := Attributes.exists_httpTarget hport
    have hcode : (attributes.int? AttributeKey.httpStatusCode).mapM ofInt = .ok _ :=
      mapM_ofInt_eq_ok_iff.2 ⟨h _ (by decide), rfl⟩
    exact ⟨_, bind_eq_ok_iff.2 ⟨target, htarget, bind_eq_ok_iff.2 ⟨_, hcode, rfl⟩⟩⟩
  | rpc system =>
    obtain ⟨target, htarget⟩ := Attributes.exists_peerTarget? hport 0
    exact ⟨_, bind_eq_ok_iff.2 ⟨target, htarget, rfl⟩⟩
  | database system =>
    obtain ⟨target, htarget⟩ := Attributes.exists_databaseTarget hport system
    exact ⟨_, bind_eq_ok_iff.2 ⟨target, htarget, rfl⟩⟩
  | messaging system =>
    obtain ⟨target, htarget⟩ := Attributes.exists_messagingEndpoint? hport
    exact ⟨_, bind_eq_ok_iff.2 ⟨target, htarget, rfl⟩⟩
  | peer =>
    obtain ⟨target, htarget⟩ := Attributes.exists_peerTarget? hport noDefaultPort
    cases target with
    | none => exact ⟨_, bind_eq_ok_iff.2 ⟨none, htarget, rfl⟩⟩
    | some target => exact ⟨_, bind_eq_ok_iff.2 ⟨some target, htarget, rfl⟩⟩

end SpanTelemetry
