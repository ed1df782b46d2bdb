import FilterSync.Json.Decode
import FilterSync.Json.Printer
import FilterSync.Json.Reader
import FilterSync.State.Basic

/-!
# Documents of the state

The state is stored as one document. Reading it tolerates members in any order, unknown
members, and the absence of members that have a default.
-/

namespace FilterSync

open Json (fields? required? withDefault? absent?)

namespace ListSource

/-- The document of a list. -/
def toJson (l : ListSource) : Json :=
  .object
    [("key", .text l.key),
      ("name", .text l.name),
      ("url", .text l.url),
      ("enabled", .bool l.enabled),
      ("ruleCount", .nat l.ruleCount.toNat),
      ("lastUpdated", .optional (fun t => .nat t.toNat) l.lastUpdated),
      ("lastError", .optional .text l.lastError)]

/-- Decodes a list. -/
def ofJson? (j : Json) : Option ListSource := do
  let fields ←
    fields? ["key", "name", "url", "enabled", "ruleCount", "lastUpdated", "lastError"] j
  let key ← required? fields "key" Json.text?
  let name ← required? fields "name" Json.text?
  let url ← required? fields "url" Json.text?
  let enabled ← required? fields "enabled" Json.bool?
  let ruleCount ← withDefault? fields "ruleCount" 0 Json.uint64?
  let lastUpdated ← absent? fields "lastUpdated" Json.uint64?
  let lastError ← absent? fields "lastError" Json.text?
  some { key, name, url, enabled, ruleCount, lastUpdated, lastError }

end ListSource

namespace CustomFilter

/-- The document of a filter. -/
def toJson (f : CustomFilter) : Json :=
  .object
    [("id", .text f.id),
      ("expression", .text f.expression),
      ("type", .text f.action.name),
      ("enabled", .bool f.enabled)]

/-- Decodes a filter from a document in some dialect. -/
def ofJson? (dialect : Json.Dialect) (j : Json) : Option CustomFilter := do
  let fields ← dialect.fields? ["id", "expression", "type", "enabled"] j
  let id ← required? fields "id" Json.text?
  let expression ← required? fields "expression" Json.text?
  let action ← required? fields "type" (dialect.choice? Action.ofName?)
  let enabled ← withDefault? fields "enabled" true Json.bool?
  some { id, expression, action, enabled }

end CustomFilter

namespace SyncState

/-- The document of a state. -/
def toJson (s : SyncState) : Json :=
  .object
    [("lists", .array (s.lists.map ListSource.toJson)),
      ("customFilters", .array (s.customFilters.map CustomFilter.toJson)),
      ("lastSync", .optional (fun t => .nat t.toNat) s.lastSync),
      ("blockedRequests", .nat s.blockedRequests.toNat),
      ("protectionEnabled", .bool s.protectionEnabled)]

/-- Decodes a state. -/
def ofJson? (j : Json) : Option SyncState := do
  let fields ←
    fields? ["lists", "customFilters", "lastSync", "blockedRequests", "protectionEnabled"] j
  let lists ← required? fields "lists" (Json.array? ListSource.ofJson?)
  let customFilters ←
    withDefault? fields "customFilters" [] (Json.array? (CustomFilter.ofJson? .plain))
  let lastSync ← absent? fields "lastSync" Json.uint64?
  let blockedRequests ← withDefault? fields "blockedRequests" 0 Json.uint64?
  let protectionEnabled ← withDefault? fields "protectionEnabled" true Json.bool?
  some { lists, customFilters, lastSync, blockedRequests, protectionEnabled }

/-- Writes a state. -/
def encode (s : SyncState) : String := s.toJson.render

/-- Reads a state. -/
def decode? (s : String) : Option SyncState := (Json.parse? s).bind ofJson?

end SyncState

end FilterSync
