import SpanTelemetry.AttributeKey
import SpanTelemetry.Item.Basic
import SpanTelemetry.Mapping
import SpanTelemetry.PrefixTrie
import SpanTelemetry.Value.Basic

namespace SpanTelemetry

/-!
# Attributes on items

The attributes of a span or an event that have no field of their own become properties of its
item; a few become context tags instead.

* `Disposition` — what becomes of an attribute.
* `disposition` — the rule that decides it.
* `Item.addAttributes` — an item with the attributes of a span or an event.
* `attributeWarnings` — the warnings about attributes whose type is not valid.
* `reviewAttributes` — the same warnings, up to the first attribute whose text cannot be written.
-/

/-- What becomes of an attribute. -/
inductive Disposition where
  /-- It is left out. -/
  | dropped
  /-- It becomes a context tag. -/
  | tag (tag : TagKey) (value : String)
  /-- It becomes the instrumentation key. -/
  | instrumentationKey (value : String)
  /-- It becomes a property with the text of its value, if that can be written. -/
  | property (text : Text.Written String)
  /-- It would become a property, but its type is not valid. -/
  | invalid (typeName : String)
  deriving DecidableEq, Repr

/-! ### Classes of keys -/

/-- The beginnings of the keys of the semantic conventions. -/
def standardBeginnings : List String :=
  ["http.", "db.", "message.", "messaging.", "rpc.", "enduser.", "net.", "peer.", "exception.",
    "thread.", "faas.", "code."]

/-- The beginnings of the keys of the semantic conventions, for look-up. -/
def standardTrie : PrefixTrie Unit :=
  PrefixTrie.ofList (standardBeginnings.map fun s => (s, ()))

/-- Whether a key belongs to the semantic conventions. -/
def isStandardKey (key : String) : Bool := (standardTrie.lookup key).isSome

/-- The keys of captured headers, which are kept although they look like standard ones. -/
def isHeaderKey (key : String) : Bool :=
  Text.startsWith key "http.request.header." || Text.startsWith key "http.response.header."

/-- Keys that carry data of single instrumentations. -/
def ignoredKeys : List String :=
  [AttributeKey.azureNamespace, AttributeKey.messageBusDestination, AttributeKey.enqueuedTime,
    AttributeKey.kafkaRecordQueueTime, AttributeKey.kafkaOffset, AttributeKey.requestContext]

/-- The context tag that a string attribute becomes. -/
def promotedTag? (key : String) : Option TagKey :=
  if key = AttributeKey.enduserId then some .userId
  else if key = AttributeKey.httpUserAgent then some .userAgent
  else if key = AttributeKey.previewServiceName then some .cloudRole
  else if key = AttributeKey.previewServiceInstanceId then some .cloudRoleInstance
  else if key = AttributeKey.previewServiceVersion then some .applicationVersion
  else none

/-! ### The rule -/

/-- What becomes of an attribute that is neither bridged nor ignored nor promoted. -/
def propertyDisposition (key : String) (value : Value) : Disposition :=
  if isStandardKey key && !isHeaderKey key then .dropped
  else
    match value.text? with
    | some text => .property text
    | none => .invalid value.typeName

/-- What becomes of an attribute. -/
def disposition (key : String) (value : Value) : Disposition :=
  if Text.startsWith key AttributeKey.bridgeStart || ignoredKeys.contains key then .dropped
  else
    match value.string? with
    | none => propertyDisposition key value
    | some s =>
        match promotedTag? key with
        | some tag => .tag tag s
        | none =>
            if key = AttributeKey.previewInstrumentationKey then .instrumentationKey s
            else propertyDisposition key value

namespace Item

/-- An item with one more attribute. -/
def addAttribute (i : Item) (key : String) (value : Value) : Item :=
  match disposition key value with
  | .dropped => i
  | .tag tag s => i.addTag tag s
  | .instrumentationKey s => i.setInstrumentationKey s
  | .property (.ok text) => i.addProperty key text
  | .property (.error _) => i
  | .invalid _ => i

/-- An item with the attributes of a span or an event. -/
def addAttributes (i : Item) (attributes : Attributes) : Item :=
  attributes.entries.foldl (fun i e => i.addAttribute e.1 e.2) i

end Item

/-- The warning about an attribute. -/
def attributeWarning? (key : String) (value : Value) : Option LogEntry :=
  match disposition key value with
  | .invalid typeName => some (.unexpectedAttribute typeName)
  | _ => none

/-- The warnings about attributes whose type is not valid, one for each. -/
def attributeWarnings (attributes : Attributes) : List LogEntry :=
  attributes.entries.filterMap fun e => attributeWarning? e.1 e.2

/-- What is noted about an attribute before it is put on an item. -/
def reviewAttribute (key : String) (value : Value) : Mapping Unit :=
  match disposition key value with
  | .invalid typeName => Mapping.warn [.unexpectedAttribute typeName]
  | .property text => Mapping.written (text.map fun _ => ())
  | _ => pure ()

/-- What is noted about attributes, in the order of their keys, before they are put on an item. -/
def reviewAttributes (attributes : Attributes) : Mapping Unit :=
  attributes.entries.forM fun e => reviewAttribute e.1 e.2

end SpanTelemetry
