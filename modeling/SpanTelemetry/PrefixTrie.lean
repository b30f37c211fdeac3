namespace SpanTelemetry

/-!
# Tries over registered prefixes

A trie stores values under texts and answers which of them a key begins with.

* `PrefixTrie.insert`, `PrefixTrie.ofList` — registration; a text registered twice keeps its
  last value.
* `PrefixTrie.lookup` — the value of the longest non-empty registered text that a key begins
  with.
* `PrefixTrie.valueAtChars?` — the view: the value registered under a text.
-/

/-- A node holds the value registered under the text that leads to it, and its children by the
    next character. -/
inductive PrefixTrie (α : Type) where
  | node (value : Option α) (children : List (Char × PrefixTrie α))

namespace PrefixTrie

variable {α : Type}

/-- The trie in which nothing is registered. -/
def empty : PrefixTrie α := .node none []

instance : Inhabited (PrefixTrie α) := ⟨empty⟩

/-- The value registered under the text that leads to the node. -/
def value? : PrefixTrie α → Option α
  | .node value _ => value

/-- The children of the node. -/
def children : PrefixTrie α → List (Char × PrefixTrie α)
  | .node _ children => children

/-- The child under a character; a character without a child leads to the empty trie. -/
def child? (t : PrefixTrie α) (c : Char) : Option (PrefixTrie α) := t.children.lookup c

/-- Replace the child under a character by what a function makes of it. -/
def updateChild (c : Char) (f : PrefixTrie α → PrefixTrie α) :
    List (Char × PrefixTrie α) → List (Char × PrefixTrie α)
  | [] => [(c, f empty)]
  | (d, t) :: rest => if c = d then (d, f t) :: rest else (d, t) :: updateChild c f rest

/-- Register a value under a text. -/
def insertChars (value : α) : List Char → PrefixTrie α → PrefixTrie α
  | [], .node _ children => .node (some value) children
  | c :: rest, .node v children => .node v (updateChild c (insertChars value rest) children)

/-- Register a value under a text. -/
def insert (t : PrefixTrie α) (text : String) (value : α) : PrefixTrie α :=
  insertChars value text.toList t

/-- The trie of the given registrations. -/
def ofList (entries : List (String × α)) : PrefixTrie α :=
  entries.foldl (fun t e => t.insert e.1 e.2) empty

/-- Walk along a key from a node and keep the last value met below it. -/
def lookupChars : List Char → PrefixTrie α → Option α → Option α
  | [], _, found => found
  | c :: rest, t, found =>
      match t.child? c with
      | none => found
      | some sub => lookupChars rest sub (sub.value?.or found)

/-- The value of the longest non-empty registered text that the key begins with. -/
def lookup (t : PrefixTrie α) (key : String) : Option α := lookupChars key.toList t none

/-- The value registered under a text. -/
def valueAtChars? : List Char → PrefixTrie α → Option α
  | [], t => t.value?
  | c :: rest, t => (t.child? c).bind (valueAtChars? rest)

end PrefixTrie

end SpanTelemetry
