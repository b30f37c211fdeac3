import SpanTelemetry.Proofs.Text.Cut
import SpanTelemetry.Url.Basic

namespace SpanTelemetry.Url

open Text

/-!
# How a URL falls into its parts

* `IsScheme`, `splitScheme_append` — schemes, and how one is cut off.
* `splitAuthority_append` — how a network location is cut off.
* `splitTail_append`, `of_splitTail` — how the query and the fragment are cut off.
* `IsAbsolute`, `absolute?_eq_some_iff` — which texts are absolute URLs, and with which parts.
* `IsAbsolute.absolute?_eq` — the parts of a URL that is put together without tabs and line ends.
-/

/-! ### Removed characters -/

/-- In a text that is split there are no tabs and line ends. -/
theorem isRemoved_of_mem_cleaned {c : Char} {text : List Char} (hc : c ∈ cleaned text) :
    isRemoved c = false := by
  rw [cleaned, List.mem_filter] at hc
  simpa using hc.2

/-- Nothing is removed from a text that begins with a visible character and has no tabs and line
    ends. -/
theorem cleaned_eq_self {first : Char} {text : List Char} (hfirst : isLeadingControl first = false)
    (h : ∀ c ∈ first :: text, isRemoved c = false) : cleaned (first :: text) = first :: text := by
  rw [cleaned, List.dropWhile_cons_of_neg (by simp [hfirst])]
  exact List.filter_eq_self.2 fun c hc => by simp [h c hc]

/-! ### Schemes -/

/-- A scheme: a letter, then letters, digits and the characters `+-.`. -/
structure IsScheme (text : List Char) : Prop where
  begins : ∃ c ∈ text.head?, c.isAlpha = true
  chars : ∀ c ∈ text, isSchemeChar c = true

/-- The colon ends a scheme. -/
theorem IsScheme.colon_not_mem {scheme : List Char} (h : IsScheme scheme) : ':' ∉ scheme := by
  intro hcolon
  have hchar := h.chars ':' hcolon
  exact absurd hchar (by decide)

/-- **A scheme is cut off** at the colon. -/
theorem splitScheme_append {scheme : List Char} (h : IsScheme scheme) (rest : List Char) :
    splitScheme (scheme ++ ':' :: rest) = (asciiLowercase scheme, rest) := by
  have hcut : cutFirst ':' (scheme ++ ':' :: rest) = some (scheme, rest) :=
    cutFirst_eq_some_iff.2 ⟨rfl, h.colon_not_mem⟩
  obtain ⟨c, hc, halpha⟩ := h.begins
  cases scheme with
  | nil => cases hc
  | cons first more =>
    obtain rfl : first = c := Option.some.inj hc
    have hall : (first :: more).all isSchemeChar = true := List.all_eq_true.2 h.chars
    simp only [splitScheme, hcut, halpha, hall, Bool.and_self, if_true]

/-- What is cut off is a scheme. -/
theorem exists_of_splitScheme {text : List Char} (h : (splitScheme text).1 ≠ []) :
    ∃ scheme, IsScheme scheme ∧ text = scheme ++ ':' :: (splitScheme text).2 ∧
      (splitScheme text).1 = asciiLowercase scheme := by
  unfold splitScheme at h ⊢
  split at h
  · rename_i before after hcut
    obtain ⟨htext, -⟩ := cutFirst_eq_some_iff.1 hcut
    split at h
    · rename_i first more
      split at h
      · rename_i hscheme
        obtain ⟨halpha, hall⟩ := Bool.and_eq_true_iff.1 hscheme
        rw [if_pos hscheme]
        exact ⟨first :: more, ⟨⟨first, rfl, halpha⟩, List.all_eq_true.1 hall⟩, htext, rfl⟩
      · exact absurd rfl h
    · exact absurd rfl h
  · exact absurd rfl h

/-! ### Network locations -/

/-- A text that can follow a network location: it is empty or begins with one of `/?#`. -/
def FollowsAuthority (rest : List Char) : Prop := ∀ c ∈ rest.head?, endsAuthority c = true

instance (rest : List Char) : Decidable (FollowsAuthority rest) :=
  Option.decidableForallMem rest.head?

/-- **A network location is cut off** where the rest begins. -/
theorem splitAuthority_append {authority rest : List Char}
    (h : ∀ c ∈ authority, endsAuthority c = false) (hrest : FollowsAuthority rest) :
    splitAuthority ('/' :: '/' :: (authority ++ rest)) = (authority, rest) := by
  have hinside : ∀ c ∈ authority, (!endsAuthority c) = true := fun c hc => by simp [h c hc]
  have htake : rest.takeWhile (fun c => !endsAuthority c) = [] := by
    cases rest with
    | nil => rfl
    | cons c rest => simp [hrest c rfl]
  have hdrop : rest.dropWhile (fun c => !endsAuthority c) = rest := by
    cases rest with
    | nil => rfl
    | cons c rest => simp [hrest c rfl]
  rw [splitAuthority, List.takeWhile_append_of_pos hinside, List.dropWhile_append_of_pos hinside,
    htake, hdrop, List.append_nil]

/-- What is cut off, if anything, stands between two slashes and the rest. -/
theorem of_splitAuthority {text : List Char} (h : (splitAuthority text).1 ≠ []) :
    text = '/' :: '/' :: ((splitAuthority text).1 ++ (splitAuthority text).2) ∧
      (∀ c ∈ (splitAuthority text).1, endsAuthority c = false) ∧
      FollowsAuthority (splitAuthority text).2 := by
  unfold splitAuthority at h ⊢
  split at h
  · rename_i rest
    refine ⟨?_, fun c hc => ?_, fun c hc => ?_⟩
    · simp only [List.takeWhile_append_dropWhile]
    · have hinside := List.all_eq_true.1 List.all_takeWhile c hc
      simpa using hinside
    · have hends := List.head?_dropWhile_not (fun c => !endsAuthority c) rest
      rw [Option.mem_def.1 hc] at hends
      simpa using hends
  · exact absurd rfl h

/-! ### Queries and fragments -/

/-- The text of a part that stands behind its mark, if there is one. -/
def tailText (mark : Char) : Option (List Char) → List Char
  | none => []
  | some part => mark :: part

/-- **A query or a fragment is cut off** at its mark. -/
theorem splitTail_append {mark : Char} {before : List Char} (h : mark ∉ before)
    (part : Option (List Char)) :
    splitTail mark (before ++ tailText mark part) = (before, part.getD []) := by
  cases part with
  | none =>
    rw [tailText, List.append_nil, splitTail, cutFirst_eq_none_iff.2 h]
    rfl
  | some part =>
    have hcut : cutFirst mark (before ++ mark :: part) = some (before, part) :=
      cutFirst_eq_some_iff.2 ⟨rfl, h⟩
    rw [tailText, splitTail, hcut]
    rfl

/-- What is left holds no mark and is a beginning of the text. -/
theorem of_splitTail (mark : Char) (text : List Char) :
    (splitTail mark text).1 <+: text ∧ mark ∉ (splitTail mark text).1 := by
  unfold splitTail
  cases hcut : cutFirst mark text with
  | none => exact ⟨List.prefix_rfl, cutFirst_eq_none_iff.1 hcut⟩
  | some parts =>
    obtain ⟨before, after⟩ := parts
    obtain ⟨rfl, hmark⟩ := cutFirst_eq_some_iff.1 hcut
    exact ⟨List.prefix_append _ _, hmark⟩

/-! ### Absolute URLs -/

/-- The URL with a scheme, a network location, and the rest behind it. -/
def ofRest (scheme authority rest : List Char) : Url :=
  let (rest, fragment) := splitTail '#' rest
  let (path, query) := splitTail '?' rest
  ⟨scheme, authority, path, query, fragment⟩

/-- A text is an absolute URL that consists of a scheme, a network location, and the rest behind it. -/
structure IsAbsolute (text scheme authority rest : List Char) : Prop where
  text_eq : text = scheme ++ ':' :: '/' :: '/' :: (authority ++ rest)
  isScheme : IsScheme scheme
  authority_ne_nil : authority ≠ []
  isAuthority : isAuthority authority = true
  endsAuthority_eq_false : ∀ c ∈ authority, endsAuthority c = false
  followsAuthority : FollowsAuthority rest

/-- Whether a text can be split depends on its network location only. -/
theorem split?_eq (text : List Char) :
    split? text =
      if isAuthority (splitAuthority (splitScheme (cleaned text)).2).1 then
        some (ofRest (splitScheme (cleaned text)).1 (splitAuthority (splitScheme (cleaned text)).2).1
          (splitAuthority (splitScheme (cleaned text)).2).2)
      else none :=
  rfl

/-- **Absolute URLs.**  A text has the parts of an absolute URL iff it is one without its leading control
    characters, its tabs and its line ends. -/
theorem absolute?_eq_some_iff {text : List Char} {u : Url} :
    absolute? text = some u ↔ ∃ scheme authority rest,
      IsAbsolute (cleaned text) scheme authority rest ∧
        u = ofRest (asciiLowercase scheme) authority rest := by
  rw [absolute?, Option.filter_eq_some_iff, split?_eq]
  constructor
  · rintro ⟨hsplit, hparts⟩
    split at hsplit
    · rename_i hauthority
      cases hsplit
      simp only [ofRest, Bool.and_eq_true, Bool.not_eq_true', List.isEmpty_eq_false_iff] at hparts
      obtain ⟨hscheme, hne⟩ := hparts
      obtain ⟨scheme, hisScheme, htext, hlower⟩ := exists_of_splitScheme hscheme
      obtain ⟨hrest, hinside, hfollows⟩ := of_splitAuthority hne
      refine ⟨scheme, _, _, ⟨?_, hisScheme, hne, hauthority, hinside, hfollows⟩, by rw [← hlower]⟩
      rw [← hrest]
      exact htext
    · cases hsplit
  · rintro ⟨scheme, authority, rest, h, rfl⟩
    have hscheme := splitScheme_append h.isScheme ('/' :: '/' :: (authority ++ rest))
    have hauthority := splitAuthority_append h.endsAuthority_eq_false h.followsAuthority
    have hne : asciiLowercase scheme ≠ [] := by
      obtain ⟨c, hc, -⟩ := h.isScheme.begins
      intro hnil
      rw [List.map_eq_nil_iff.1 hnil] at hc
      cases hc
    rw [h.text_eq, hscheme]
    simp [hauthority, h.isAuthority, ofRest, hne, h.authority_ne_nil]

/-- A letter is no control character. -/
theorem isLeadingControl_of_isAlpha {c : Char} (h : c.isAlpha = true) :
    isLeadingControl c = false := by
  refine Bool.eq_false_iff.2 fun hcontrol => ?_
  have hcode : c.toNat ≤ 32 := of_decide_eq_true hcontrol
  -- none of the 33 control characters is a letter
  have hnone : ∀ n < 33, (Char.ofNat n).isAlpha = false := by decide
  have hc := hnone c.toNat (by omega)
  rw [Char.ofNat_toNat, h] at hc
  cases hc

/-- No character of a scheme is removed. -/
theorem IsScheme.isRemoved_eq_false {scheme : List Char} (h : IsScheme scheme) :
    ∀ c ∈ scheme, isRemoved c = false := by
  intro c hc
  refine Bool.eq_false_iff.2 fun hremoved => ?_
  have hchar := h.chars c hc
  simp only [isRemoved, Bool.or_eq_true, decide_eq_true_eq] at hremoved
  rcases hremoved with (rfl | rfl) | rfl
  all_goals exact absurd hchar (by decide)

/-- **An absolute URL without tabs and line ends** has the parts that it is put together from. -/
theorem IsAbsolute.absolute?_eq {text scheme authority rest : List Char}
    (h : IsAbsolute text scheme authority rest) (hauthority : ∀ c ∈ authority, isRemoved c = false)
    (hrest : ∀ c ∈ rest, isRemoved c = false) :
    absolute? text = some (ofRest (asciiLowercase scheme) authority rest) := by
  have hclean : ∀ c ∈ text, isRemoved c = false := by
    rw [h.text_eq]
    refine List.forall_mem_append.2 ⟨h.isScheme.isRemoved_eq_false, ?_⟩
    simp only [List.forall_mem_cons, List.forall_mem_append]
    exact ⟨by decide, by decide, by decide, hauthority, hrest⟩
  have hcleaned : cleaned text = text := by
    obtain ⟨first, hfirst, halpha⟩ := h.isScheme.begins
    obtain ⟨more, hscheme⟩ := List.head?_eq_some_iff.1 hfirst
    have htext := h.text_eq
    rw [hscheme, List.cons_append] at htext
    rw [htext] at hclean ⊢
    exact cleaned_eq_self (isLeadingControl_of_isAlpha halpha) hclean
  refine absolute?_eq_some_iff.2 ⟨scheme, authority, rest, ?_, rfl⟩
  rw [hcleaned]
  exact h

end SpanTelemetry.Url
