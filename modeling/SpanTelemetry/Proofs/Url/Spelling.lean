import SpanTelemetry.Proofs.Url.Endpoint

namespace SpanTelemetry.Url

open Text

/-!
# URLs are read as they are written

An absolute URL is put together from its parts and split again. User information may hold what looks like
another host or another port; nothing of it is taken for the host.

* `Spelling` — the parts of an absolute URL; what is said of their characters is what keeps them apart.
* `Spelling.text` — the URL that they make up.
* `absolute?_text` — every part is found again, the scheme in lower case.
* `spelling_read_back` — what the target and the path of the URL are.
-/

/-- The parts of an absolute URL. The scheme may be in any case, and the port may have zeros in front. -/
structure Spelling where
  scheme : List Char
  user : Option (List Char) := none
  host : List Char
  port : Option (List Char) := none
  path : List Char := []
  query : Option (List Char) := none
  fragment : Option (List Char) := none
  isScheme : IsScheme scheme
  isPlainChar_user : ∀ part ∈ user, ∀ c ∈ part, isPlainChar c = true
  host_ne_nil : host ≠ []
  isHostChar_host : ∀ c ∈ host, isHostChar c = true
  port_ne_nil : ∀ digits ∈ port, digits ≠ []
  isDigit_port : ∀ digits ∈ port, ∀ c ∈ digits, c.isDigit = true
  path_begins : ∀ c ∈ path.head?, c = '/'
  path_chars : ∀ c ∈ path, c ≠ '?' ∧ c ≠ '#' ∧ isRemoved c = false
  query_chars : ∀ part ∈ query, ∀ c ∈ part, c ≠ '#' ∧ isRemoved c = false
  fragment_chars : ∀ part ∈ fragment, ∀ c ∈ part, isRemoved c = false

namespace Spelling

variable (s : Spelling)

/-- The host, and the port behind a colon. -/
def hostAndPort : List Char := s.host ++ tailText ':' s.port

/-- The network location: user information before an `@`, the host and the port. -/
def authority : List Char :=
  match s.user with
  | none => s.hostAndPort
  | some user => user ++ '@' :: s.hostAndPort

/-- What stands behind the network location. -/
def rest : List Char := s.path ++ tailText '?' s.query ++ tailText '#' s.fragment

/-- The text of the URL. -/
def text : List Char := s.scheme ++ ':' :: '/' :: '/' :: (s.authority ++ s.rest)

/-! ### The network location -/

theorem isHostChar_port : ∀ digits ∈ s.port, ∀ c ∈ digits, isHostChar c = true :=
  fun digits hdigits c hc => isHostChar_of_isDigit (s.isDigit_port digits hdigits c hc)

/-- Neither the host nor the port brings a mark of its own. -/
theorem hostAndPort_chars {c : Char} (hc : c ∈ s.hostAndPort) : isPlainChar c = true ∧ c ≠ '@' :=
  isPlainChar_of_mem_hostAndPort s.isHostChar_host s.isHostChar_port hc

/-- Nothing in the network location of a spelling ends it. -/
theorem isPlainChar_authority : ∀ c ∈ s.authority, isPlainChar c = true := by
  intro c hc
  unfold authority at hc
  split at hc
  · exact (s.hostAndPort_chars hc).1
  · rename_i user huser
    rcases List.mem_append.1 hc with hmem | hmem
    · exact s.isPlainChar_user user huser c hmem
    · rcases List.mem_cons.1 hmem with rfl | hmem
      · decide
      · exact (s.hostAndPort_chars hmem).1

/-- The user information ends at the last `@`, also if it holds others. -/
theorem afterLast_authority : afterLast '@' s.authority = s.hostAndPort := by
  have hat : '@' ∉ s.hostAndPort := fun hmem => (s.hostAndPort_chars hmem).2 rfl
  unfold authority
  split
  · exact afterLast_of_not_mem hat
  · exact afterLast_append hat _

theorem authority_ne_nil : s.authority ≠ [] := by
  intro hnil
  have hlast := s.afterLast_authority
  rw [hnil] at hlast
  -- there would be no host
  have hhost : s.host = [] := (List.append_eq_nil_iff.1 hlast.symm).1
  exact s.host_ne_nil hhost

/-! ### The rest -/

/-- What follows it begins like a path, a query or a fragment. -/
theorem followsAuthority_rest : FollowsAuthority s.rest := by
  intro c hc
  unfold rest at hc
  cases hpath : s.path with
  | cons first path =>
    have hslash := s.path_begins first (by rw [hpath]; rfl)
    rw [hpath] at hc
    obtain rfl : first = c := Option.some.inj hc
    rw [hslash]
    rfl
  | nil =>
    rw [hpath, List.nil_append] at hc
    cases hquery : s.query with
    | some query =>
      rw [hquery] at hc
      obtain rfl : '?' = c := Option.some.inj hc
      rfl
    | none =>
      rw [hquery, tailText, List.nil_append] at hc
      cases hfragment : s.fragment with
      | some fragment =>
        rw [hfragment] at hc
        obtain rfl : '#' = c := Option.some.inj hc
        rfl
      | none =>
        rw [hfragment] at hc
        cases hc

theorem isRemoved_tailText {mark : Char} (hmark : isRemoved mark = false) {part : Option (List Char)}
    (h : ∀ text ∈ part, ∀ c ∈ text, isRemoved c = false) :
    ∀ c ∈ tailText mark part, isRemoved c = false := by
  cases part with
  | none => nofun
  | some text => exact List.forall_mem_cons.2 ⟨hmark, h text rfl⟩

/-- Nothing in it is removed before the URL is split. -/
theorem isRemoved_rest : ∀ c ∈ s.rest, isRemoved c = false := by
  refine List.forall_mem_append.2 ⟨List.forall_mem_append.2 ⟨?_, ?_⟩, ?_⟩
  · exact fun c hc => (s.path_chars c hc).2.2
  · exact isRemoved_tailText (by decide) fun text htext c hc => (s.query_chars text htext c hc).2
  · exact isRemoved_tailText (by decide) s.fragment_chars

/-- The path, the query and the fragment are found in the rest. -/
theorem ofRest_rest (scheme authority : List Char) :
    ofRest scheme authority s.rest =
      ⟨scheme, authority, s.path, s.query.getD [], s.fragment.getD []⟩ := by
  have hpath : '?' ∉ s.path := fun hmem => (s.path_chars _ hmem).1 rfl
  have hbefore : '#' ∉ s.path ++ tailText '?' s.query := by
    intro hmem
    rcases List.mem_append.1 hmem with hmem | hmem
    · exact (s.path_chars _ hmem).2.1 rfl
    · cases hquery : s.query with
      | none =>
        rw [hquery] at hmem
        cases hmem
      | some query =>
        rw [hquery] at hmem
        rcases List.mem_cons.1 hmem with hmark | hmem
        · exact absurd hmark (by decide)
        · exact (s.query_chars query hquery _ hmem).1 rfl
  simp only [ofRest, rest, splitTail_append hbefore, splitTail_append hpath]

/-! ### The whole URL -/

/-- A spelling is an absolute URL with the parts that it is made of. -/
theorem isAbsolute_text : IsAbsolute s.text s.scheme s.authority s.rest where
  text_eq := rfl
  isScheme := s.isScheme
  authority_ne_nil := s.authority_ne_nil
  isAuthority := isAuthority_of_plain s.isPlainChar_authority
  endsAuthority_eq_false c hc := (isPlainChar_iff.1 (s.isPlainChar_authority c hc)).2.1
  followsAuthority := s.followsAuthority_rest

/-- **Every part is found again.** -/
theorem absolute?_text :
    absolute? s.text =
      some ⟨asciiLowercase s.scheme, s.authority, s.path, s.query.getD [], s.fragment.getD []⟩ := by
  have hauthority : ∀ c ∈ s.authority, isRemoved c = false := fun c hc =>
    (isPlainChar_iff.1 (s.isPlainChar_authority c hc)).2.2.2
  rw [s.isAbsolute_text.absolute?_eq hauthority s.isRemoved_rest, s.ofRest_rest]

end Spelling

/-- **A URL is read as it is written.**  Its target is its host with its port, where the port that the
    scheme stands for is left out, and its path is its path. The user information, the query and the
    fragment have no part in either. -/
theorem spelling_read_back (s : Spelling) :
    target? (String.ofList s.text) =
        some (String.ofList (endpoint (String.ofList (asciiLowercase s.scheme)) s.host s.port)) ∧
      path? (String.ofList s.text) = some (String.ofList s.path) := by
  have habsolute := s.absolute?_text
  rw [← String.toList_ofList (l := s.text)] at habsolute
  constructor
  · refine target?_eq_endpoint habsolute s.host_ne_nil ?_ ?_ s.afterLast_authority
    · exact colon_not_mem_of_isHostChar s.isHostChar_host
    · exact fun digits hdigits => colon_not_mem_of_isHostChar (s.isHostChar_port digits hdigits)
  · rw [path?, habsolute]
    rfl

/-- A URL with another host and another port in its user information, and a third in its query. -/
def exampleSpelling : Spelling where
  scheme := "hTTps".toList
  user := some "ops:p@evil.example:80".toList
  host := "shop.example".toList
  port := some "443".toList
  path := "/cart".toList
  query := some "next=http://evil.example".toList
  fragment := some "top".toList
  isScheme := ⟨⟨'h', by decide, by decide⟩, List.all_eq_true.1 (by decide)⟩
  isPlainChar_user := by
    rintro _ ⟨⟩
    exact List.all_eq_true.1 (by decide)
  host_ne_nil := by decide
  isHostChar_host := List.all_eq_true.1 (by decide)
  port_ne_nil := by decide
  isDigit_port := by
    rintro _ ⟨⟩
    exact List.all_eq_true.1 (by decide)
  path_begins := by simp
  path_chars := by simp [isRemoved]
  query_chars := by simp [isRemoved]
  fragment_chars := by simp [isRemoved]

theorem spelling_read_back_credentials :
    target? "hTTps://ops:p@evil.example:80@shop.example:443/cart?next=http://evil.example#top" =
        some "shop.example" ∧
      path? "hTTps://ops:p@evil.example:80@shop.example:443/cart?next=http://evil.example#top" =
        some "/cart" :=
  spelling_read_back exampleSpelling

end SpanTelemetry.Url
