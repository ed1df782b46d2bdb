import FilterSync.State.Codec

/-!
# Messages

A message is a request of a user interface, and a response is what it gets. A message is
an object whose member `type` says which request it is, or an array that begins with
that type; the rest gives the fields of the request.

The type may come after the fields, so what comes before it has to be held: in a message
also the members that are passed over must be documents that can be held.
-/

namespace FilterSync

open Json (fields? required? absent?)

/-- A request. -/
inductive Message
  | refresh
  | toggleList (key : String) (enabled : Bool)
  | customFilters (filters : List CustomFilter)
  | toggleProtection (enabled : Bool)
  | getState
  /-- A request was blocked by a rule. -/
  | ruleMatched
  deriving DecidableEq, Repr

namespace Message

/-- Which request a message is. -/
inductive Kind
  | refresh | toggleList | customFilters | toggleProtection | getState | ruleMatched
  deriving DecidableEq, Repr

namespace Kind

/-- The type that names the request. -/
def name : Kind → String
  | refresh => "refresh"
  | toggleList => "toggle-list"
  | customFilters => "custom-filters"
  | toggleProtection => "toggle-protection"
  | getState => "get-state"
  | ruleMatched => "rule-matched"

/-- The request that a type names. -/
def ofName? (s : String) : Option Kind :=
  [refresh, toggleList, customFilters, toggleProtection, getState, ruleMatched].find? (·.name = s)

theorem ofName?_name (k : Kind) : ofName? k.name = some k := by cases k <;> decide

end Kind

/-- The member that says which request a message is. -/
def typeName : String := "type"

/-- The type as a member. -/
def typeMember (k : Kind) : String × Json := (typeName, .text k.name)

/-- The document of a message. -/
def toJson : Message → Json
  | refresh => .object [typeMember .refresh]
  | toggleList key enabled =>
    .object [typeMember .toggleList, ("key", .text key), ("enabled", .bool enabled)]
  | customFilters filters =>
    .object [typeMember .customFilters, ("filters", .array (filters.map CustomFilter.toJson))]
  | toggleProtection enabled =>
    .object [typeMember .toggleProtection, ("enabled", .bool enabled)]
  | getState => .object [typeMember .getState]
  | ruleMatched => .object [typeMember .ruleMatched]

/-- A document without content. -/
def isEmptyPayload : Json → Bool
  | .null => true
  | .object [] => true
  | _ => false

/-- The rules for documents inside a message. -/
def dialect : Json.Dialect where
  isEmpty := isEmptyPayload
  allowsMore := false

/-- Decodes a request without fields: members are passed over, items are not. -/
def plain? (m : Message) : Json → Option Message
  | .object _ => some m
  | .array [] => some m
  | _ => none

/-- Decodes a request from the document of its fields. -/
def ofFields? (rest : Json) : Kind → Option Message
  | .refresh => plain? refresh rest
  | .getState => plain? getState rest
  | .ruleMatched => plain? ruleMatched rest
  | .toggleList => do
    let fields ← fields? ["key", "enabled"] rest
    let key ← required? fields "key" Json.text?
    let enabled ← required? fields "enabled" Json.bool?
    some (toggleList key enabled)
  | .customFilters => do
    let fields ← fields? ["filters"] rest
    let filters ← required? fields "filters" (Json.array? (CustomFilter.ofJson? dialect))
    some (customFilters filters)
  | .toggleProtection => do
    let fields ← fields? ["enabled"] rest
    let enabled ← required? fields "enabled" Json.bool?
    some (toggleProtection enabled)

/-- Separates the type of a message from its fields. -/
def split? : Json → Option (Kind × Json)
  | .object members =>
    match members.filter (·.1 = typeName) with
    | [(_, .text name)] =>
      (Kind.ofName? name).map (·, .object (members.filter (·.1 ≠ typeName)))
    | _ => none
  | .array (.text name :: items) => (Kind.ofName? name).map (·, .array items)
  | _ => none

/-- Decodes a message. -/
def ofJson? (j : Json) : Option Message := do
  if !Json.isHoldable Json.maxDepth j then none
  let (kind, rest) ← split? j
  ofFields? rest kind

/-- Reads a message. -/
def decode? (s : String) : Option Message := (Json.parse? s).bind ofJson?

end Message

/-- The answer to a message. -/
structure Response where
  ok : Bool
  /-- Why the request failed. -/
  error : Option String := none
  /-- The state that was asked for. -/
  state : Option SyncState := none
  deriving DecidableEq, Repr

namespace Response

/-- The answer to a request that was done. -/
def done : Response := ⟨true, none, none⟩

/-- The answer to a request that failed. -/
def failed (error : String) : Response := ⟨false, some error, none⟩

/-- A member for a value, if there is one. -/
def memberOf {α : Type} (name : String) (encode : α → Json) (value : Option α) :
    List (String × Json) :=
  (value.map fun a => (name, encode a)).toList

/-- The document of a response. -/
def toJson (r : Response) : Json :=
  .object <|
    ("ok", .bool r.ok) ::
      (memberOf "error" .text r.error ++ memberOf "state" SyncState.toJson r.state)

/-- Decodes a response. -/
def ofJson? (j : Json) : Option Response := do
  let fields ← fields? ["ok", "error", "state"] j
  let ok ← required? fields "ok" Json.bool?
  let error ← absent? fields "error" Json.text?
  let state ← absent? fields "state" SyncState.ofJson?
  some { ok, error, state }

/-- Reads a response. -/
def decode? (s : String) : Option Response := (Json.parse? s).bind ofJson?

end Response

end FilterSync
