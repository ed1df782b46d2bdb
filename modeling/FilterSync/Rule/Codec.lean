import FilterSync.Json.Decode
import FilterSync.Json.Printer
import FilterSync.Json.Reader
import FilterSync.Rule.Basic

/-!
# Documents of rules

A rule has two documents. One is its stored form, which can be decoded. The other is its
declarative form, the shape that declarative matchers consume; its members are in
alphabetical order. In both, a rule for every resource type does not mention types.
-/

namespace FilterSync

namespace Filter.TypeSet

/-- The names of a set's members in order. -/
def toJson (s : TypeSet) : Json :=
  .array (s.toList.map fun t => .text t.name)

/-- Decodes a set from names in any order, repeated or not. -/
def ofJson? (j : Json) : Option TypeSet :=
  (Json.array? (Json.Dialect.plain.choice? ResourceType.ofName?) j).map ofList

end Filter.TypeSet

namespace Rule

open FilterSync.Filter

/-- The member for the resource types, if there are any. -/
def typesMember (types : Option TypeSet) : List (String × Json) :=
  match types with
  | none => []
  | some s => [("resourceTypes", s.toJson)]

/-- The stored form. -/
def toJson (r : Rule) : Json :=
  .object <|
    [("id", .nat r.id.toNat),
      ("priority", .nat r.priority.toNat),
      ("actionType", .text r.action.name),
      ("urlFilter", .text r.urlFilter)] ++ typesMember r.resourceTypes

/-- The declarative form. -/
def declarative (r : Rule) : Json :=
  .object
    [("action", .object [("type", .text r.action.name)]),
      ("condition", .object (typesMember r.resourceTypes ++ [("urlFilter", .text r.urlFilter)])),
      ("id", .nat r.id.toNat),
      ("priority", .nat r.priority.toNat)]

/-- The fields of the stored form in order. -/
def fieldNames : List String :=
  ["id", "priority", "actionType", "urlFilter", "resourceTypes"]

/-- Decodes the stored form. -/
def ofJson? (j : Json) : Option Rule := do
  let fields ← Json.fields? fieldNames j
  let id ← Json.required? fields "id" Json.uint32?
  let priority ← Json.required? fields "priority" Json.uint32?
  let action ← Json.required? fields "actionType" (Json.Dialect.plain.choice? Action.ofName?)
  let urlFilter ← Json.required? fields "urlFilter" Json.text?
  let resourceTypes ← Json.absent? fields "resourceTypes" TypeSet.ofJson?
  some { id, priority, action, urlFilter, resourceTypes }

/-- Writes the stored form. -/
def encode (r : Rule) : String := r.toJson.render

/-- Reads the stored form. -/
def decode? (s : String) : Option Rule := (Json.parse? s).bind ofJson?

end Rule

end FilterSync
