import SpanTelemetry.Text.Case.Table
import SpanTelemetry.Text.Runs

namespace SpanTelemetry.Text

/-!
# Lower case

* `lowercase` — the lower-case form of a text, by the full Unicode rules that depend on no
  language.
* `asciiLowercase` — the lower-case form of a text that is known to be ASCII.

Two letters take part in special rules: a capital dotted I becomes two characters, and a
capital sigma at the end of a word becomes the final small sigma.
-/

/-! ### Classes of characters -/

/-- A letter that has case and that case rules do not look through. -/
def isCased (c : Char) : Bool := inRuns casedRanges c.toNat

/-- A character that case rules look through, such as an apostrophe or a combining mark. -/
def isCaseIgnorable (c : Char) : Bool := inRuns caseIgnorableRanges c.toNat

/-- Whether the nearest character that case rules do not look through is a cased letter. -/
def meetsCased (text : List Char) : Bool :=
  match text.dropWhile isCaseIgnorable with
  | [] => false
  | c :: _ => isCased c

/-! ### Mappings -/

/-- Lower-case one ASCII letter; other characters stay. -/
def asciiLower (c : Char) : Char :=
  if 'A' ≤ c ∧ c ≤ 'Z' then Char.ofNat (c.toNat + 32) else c

/-- Lower-case the ASCII letters of a text. -/
def asciiLowercase (text : List Char) : List Char := text.map asciiLower

/-- The lower-case form of a letter, apart from its place in a word. -/
def lowerChar (c : Char) : List Char :=
  if c.toNat < 128 then [asciiLower c]
  else if c = 'İ' then ['i', '\u0307']
  else
    match lowercaseRanges.find? (·.contains c.toNat) with
    | some r => [Char.ofNat (c.toNat + r.shift).toNat]
    | none => [c]

/-- The lower-case form of the text `rest`, where `seen` is the text before it, reversed. A
    sigma is final if a cased letter comes before it and none after it. -/
def lowercaseAfter (seen : List Char) : List Char → List Char
  | [] => []
  | c :: rest =>
      (if c = 'Σ' then
        if meetsCased seen && !meetsCased rest then ['ς'] else ['σ']
      else lowerChar c) ++ lowercaseAfter (c :: seen) rest

/-- The lower-case form of a text. -/
def lowercase (text : List Char) : List Char := lowercaseAfter [] text

end SpanTelemetry.Text
