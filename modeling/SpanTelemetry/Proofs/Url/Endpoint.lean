import SpanTelemetry.Proofs.Text.Numeral
import SpanTelemetry.Proofs.Url.Split
import SpanTelemetry.Url.Endpoint

namespace SpanTelemetry.Url

open Text

/-!
# Hosts and ports

* `isPlainChar`, `isHostChar` — the characters of user information and of host names.
* `isAuthority_of_plain` — a network location of such characters is accepted.
* `isHostChar_of_isDigit` — digits are among them.
* `endpoint` — a host and a port as they are shown: the port that a scheme stands for is left out.
* `withoutPort_append`, `withoutPort_of_not_mem` — only a whole port is taken away from a host.
* `target?_eq_endpoint` — the target of a URL is its endpoint.
-/

/-! ### Characters -/

/-- Characters of user information: ASCII without `/?#[]`, tabs and line ends. -/
def isPlainChar (c : Char) : Bool :=
  decide (c.toNat < 128) && !endsAuthority c && !(c = '[' || c = ']') && !isRemoved c

/-- Characters of a host name: in addition, no `@` and no colon. -/
def isHostChar (c : Char) : Bool := isPlainChar c && !(c = '@' || c = ':')

theorem isPlainChar_iff {c : Char} : isPlainChar c = true ↔
    c.toNat < 128 ∧ endsAuthority c = false ∧ (c ≠ '[' ∧ c ≠ ']') ∧ isRemoved c = false := by
  simp [isPlainChar, and_assoc]

theorem isHostChar_iff {c : Char} :
    isHostChar c = true ↔ isPlainChar c = true ∧ c ≠ '@' ∧ c ≠ ':' := by
  simp [isHostChar]

/-- Digits are characters of host names. -/
theorem isHostChar_of_isDigit {c : Char} (h : c.isDigit = true) : isHostChar c = true := by
  obtain ⟨hlow, hhigh⟩ := toNat_of_isDigit h
  have hne : ∀ d : Char, (d.toNat < 48 ∨ 57 < d.toNat) → c ≠ d := by
    rintro d hd rfl
    omega
  have hsmall : c.toNat < 128 := by omega
  simp (disch := decide) [isHostChar, isPlainChar, endsAuthority, isRemoved, hsmall, hne]

/-- The characters that hide a delimiter are outside of ASCII. -/
theorem hidesDelimiter_of_lt {c : Char} (h : c.toNat < 128) : hidesDelimiter c = false := by
  refine Bool.eq_false_iff.2 fun hhides => ?_
  have hlarge : ∀ code ∈ [0x2100, 0x2101, 0x2105, 0x2106, 0xFF0F, 0x2047, 0x2048, 0x2049, 0xFE16,
      0xFE56, 0xFF1F, 0xFE5F, 0xFF03, 0xFE6B, 0xFF20, 0x2A74, 0xFE13, 0xFE55, 0xFF1A],
      128 ≤ code := by decide
  have hcode := hlarge c.toNat (List.contains_iff_mem.1 hhides)
  omega

/-- A network location of plain characters is accepted. -/
theorem isAuthority_of_plain {authority : List Char}
    (h : ∀ c ∈ authority, isPlainChar c = true) : isAuthority authority = true := by
  have hopen : authority.contains '[' = false := by
    refine Bool.eq_false_iff.2 fun hmem => ?_
    have hplain := isPlainChar_iff.1 (h '[' (List.contains_iff_mem.1 hmem))
    exact hplain.2.2.1.1 rfl
  have hclose : authority.contains ']' = false := by
    refine Bool.eq_false_iff.2 fun hmem => ?_
    have hplain := isPlainChar_iff.1 (h ']' (List.contains_iff_mem.1 hmem))
    exact hplain.2.2.1.2 rfl
  have hhidden : authority.any hidesDelimiter = false := by
    refine List.any_eq_false.2 fun c hc => ?_
    simp [hidesDelimiter_of_lt (isPlainChar_iff.1 (h c hc)).1]
  rw [isAuthority, hopen, hclose, hhidden]
  rfl

/-- A host and a port are of plain characters without an `@`. -/
theorem isPlainChar_of_mem_hostAndPort {host : List Char} (hhost : ∀ c ∈ host, isHostChar c = true)
    {port : Option (List Char)} (hport : ∀ digits ∈ port, ∀ c ∈ digits, isHostChar c = true) {c : Char}
    (hc : c ∈ host ++ tailText ':' port) : isPlainChar c = true ∧ c ≠ '@' := by
  have hchar : ∀ d, isHostChar d = true → isPlainChar d = true ∧ d ≠ '@' := fun d hd =>
    ⟨(isHostChar_iff.1 hd).1, (isHostChar_iff.1 hd).2.1⟩
  rcases List.mem_append.1 hc with hmem | hmem
  · exact hchar c (hhost c hmem)
  · cases port with
    | none => cases hmem
    | some digits =>
      rcases List.mem_cons.1 hmem with rfl | hmem
      · decide
      · exact hchar c (hport digits rfl c hmem)

/-! ### Ports -/

/-- A host with a port as it is shown. The port that the scheme stands for is left out. -/
def endpoint (scheme : String) (host : List Char) : Option (List Char) → List Char
  | none => host
  | some port =>
      if scheme = "http" ∧ port = ['8', '0'] ∨ scheme = "https" ∧ port = ['4', '4', '3'] then host
      else host ++ ':' :: port

/-- A default port is never zero, so that zero can stand for a scheme without one. -/
theorem getD_defaultPort?_eq_zero_iff (scheme : String) :
    (defaultPort? scheme).getD 0 = 0 ↔ defaultPort? scheme = none := by
  unfold defaultPort?
  split
  · decide
  · split <;> decide

/-- A port is the one that the scheme stands for iff that is said by its number. -/
theorem eq_getD_defaultPort?_iff {port : Nat} (hport : 0 < port) (scheme : String) :
    port = (defaultPort? scheme).getD 0 ↔
      scheme = "http" ∧ port = 80 ∨ scheme = "https" ∧ port = 443 := by
  unfold defaultPort?
  by_cases hhttp : scheme = "http"
  · simp [hhttp]
  · by_cases hhttps : scheme = "https"
    · simp [hhttps]
    · have hne : port ≠ 0 := by omega
      simp [hhttp, hhttps, hne]

/-- Ports have one decimal text each, so the port that is left out may be told by its number. -/
theorem endpoint_decimal (scheme : String) (host : List Char) (port : Nat) :
    endpoint scheme host (some (decimal port)) =
      if scheme = "http" ∧ port = 80 ∨ scheme = "https" ∧ port = 443 then host
      else host ++ ':' :: decimal port := by
  have hhttp : decimal port = ['8', '0'] ↔ port = 80 :=
    decimal_injective.eq_iff' (by decide)
  have hhttps : decimal port = ['4', '4', '3'] ↔ port = 443 :=
    decimal_injective.eq_iff' (by decide)
  simp only [endpoint, hhttp, hhttps]

/-- There is no colon in a host name or among digits. -/
theorem colon_not_mem_of_isHostChar {text : List Char} (h : ∀ c ∈ text, isHostChar c = true) :
    ':' ∉ text := by
  intro hcolon
  have hchar := h ':' hcolon
  exact absurd hchar (by decide)

theorem colon_not_mem_decimal (n : Nat) : ':' ∉ decimal n :=
  colon_not_mem_of_isHostChar fun _ hc => isHostChar_of_isDigit (isDigit_of_mem_decimal hc)

/-- A port is taken away from a host only if it is the whole port: `80` is not taken away from
    `8080`. -/
theorem withoutPort_append {host digits : List Char} (hdigits : ':' ∉ digits) (port : Nat) :
    withoutPort port (host ++ ':' :: digits) =
      if digits = decimal port then host else host ++ ':' :: digits := by
  rw [withoutPort, portEnding, dropEnd?_append (colon_not_mem_decimal port) hdigits]
  split <;> rfl

/-- Nothing is taken away from a host without a port. -/
theorem withoutPort_of_not_mem {host : List Char} (hhost : ':' ∉ host) (port : Nat) :
    withoutPort port host = host := by
  rw [withoutPort, portEnding, dropEnd?_of_not_mem hhost]
  rfl

/-- **A host without the port of its scheme** is the endpoint. -/
theorem withoutDefaultPort_eq_endpoint (scheme : String) {host : List Char} (hhost : ':' ∉ host)
    {port : Option (List Char)} (hport : ∀ digits ∈ port, ':' ∉ digits) :
    (match defaultPort? scheme with
      | some default => withoutPort default (host ++ tailText ':' port)
      | none => host ++ tailText ':' port) = endpoint scheme host port := by
  cases port with
  | none =>
    rw [tailText, List.append_nil, endpoint]
    cases defaultPort? scheme with
    | none => rfl
    | some default => exact withoutPort_of_not_mem hhost default
  | some digits =>
    have hdigits : ':' ∉ digits := hport digits rfl
    have hhttp : decimal 80 = ['8', '0'] := by decide
    have hhttps : decimal 443 = ['4', '4', '3'] := by decide
    rw [tailText, endpoint, defaultPort?]
    by_cases hscheme : scheme = "http"
    · simp [hscheme, withoutPort_append hdigits, hhttp]
    · by_cases hsecure : scheme = "https"
      · simp [hsecure, withoutPort_append hdigits, hhttps]
      · simp [hscheme, hsecure]

/-- **The target of a URL** is its endpoint, if a host and a port stand behind the user information. -/
theorem target?_eq_endpoint {url : String} {u : Url} (hurl : absolute? url.toList = some u)
    {host : List Char} (hne : host ≠ []) (hhost : ':' ∉ host) {port : Option (List Char)}
    (hport : ∀ digits ∈ port, ':' ∉ digits)
    (hauthority : afterLast '@' u.authority = host ++ tailText ':' port) :
    target? url = some (String.ofList (endpoint (String.ofList u.scheme) host port)) := by
  have htarget : u.target = endpoint (String.ofList u.scheme) host port := by
    rw [target, hauthority]
    exact withoutDefaultPort_eq_endpoint (String.ofList u.scheme) hhost hport
  rw [target?, hurl]
  simp [Option.filter, hauthority, hne, htarget]

end SpanTelemetry.Url
