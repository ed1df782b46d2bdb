import FilterSync.Config.Basic
import FilterSync.Rule.Codec
import FilterSync.Store.Error
import FilterSync.Store.Table

/-!
# Stores of rules

The live rules are kept either in memory, by identifier, or in a database, as a row of
documents per rule. Both replace rules in one step: some identifiers are removed, then
rules are added in order, and if one of them has the identifier of a rule that is there
nothing changes at all.

A database may also hold rows that were not written here. A row whose document is no
rule makes the rules unreadable, and a row whose number is no identifier makes the
identifiers unreadable.
-/

namespace FilterSync

/-- A rule in a database: its stored form and its declarative form. -/
structure RuleRow where
  rule : String
  declarative : String
  deriving DecidableEq, Repr

namespace RuleRow

/-- The row of a rule. -/
def ofRule (r : Rule) : RuleRow := ⟨r.encode, r.declarative.render⟩

/-- The rule that a row holds. -/
def decode (row : RuleRow) : Except StoreError Rule :=
  match Rule.decode? row.rule with
  | some r => .ok r
  | none => .error .undecodable

end RuleRow

/-- The live rules. -/
inductive RuleStore
  | memory (rules : Table UInt32 Rule)
  | database (rows : Table Int RuleRow)
  deriving DecidableEq, Repr

namespace RuleStore

/-- The number of the row that holds the rule of an identifier. -/
def rowNumber (id : UInt32) : Int := id.toNat

/-- The identifier that a row's number is. -/
def idOfRow (n : Int) : Except StoreError UInt32 :=
  if 0 ≤ n ∧ n < UInt32.size then .ok (UInt32.ofNat n.toNat) else .error (.outOfRange n)

/-- A store without rules. -/
def new : Config.Backend → RuleStore
  | .memory => memory .empty
  | .sqlite => database .empty

/-- The store after its process was started again: a database keeps its rows. -/
def reopen : RuleStore → RuleStore
  | memory _ => memory .empty
  | database rows => database rows

/-- The live rules in order of their identifiers. -/
def rules : RuleStore → Except StoreError (List Rule)
  | memory t => .ok t.values
  | database t => t.values.mapM RuleRow.decode

/-- The identifiers of the live rules in order. -/
def ids : RuleStore → Except StoreError (List UInt32)
  | memory t => .ok (t.values.map (·.id))
  | database t => t.keys.mapM idOfRow

/-- Removes identifiers and adds rules as one step, which fails as a whole. -/
def replace (s : RuleStore) (remove : List UInt32) (add : List Rule) :
    Except StoreError RuleStore :=
  match s with
  | memory t =>
    match (t.eraseAll remove).addNew (add.map fun r => (r.id, r)) with
    | .ok t => .ok (memory t)
    | .error id => .error (.duplicateRuleId id)
  | database t =>
    let added := add.map fun r => (rowNumber r.id, RuleRow.ofRule r)
    match (t.eraseAll (remove.map rowNumber)).addNew added with
    | .ok t => .ok (database t)
    | .error n => .error (.duplicateRuleId (UInt32.ofNat n.toNat))

/-- Writes a row whatever it says; memory has no rows. -/
def putRow (s : RuleStore) (n : Int) (row : RuleRow) : RuleStore :=
  match s with
  | memory t => memory t
  | database t => database (t.put n row)

end RuleStore

end FilterSync
