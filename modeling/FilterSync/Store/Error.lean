/-!
# Failures of a store
-/

namespace FilterSync

/-- Why a call of a store failed. -/
inductive StoreError
  /-- The database refused. -/
  | sqlite (detail : String)
  /-- A stored document is no value of its type. -/
  | serialization (detail : String)
  /-- A rule's identifier belongs to another rule. -/
  | duplicateRuleId (id : UInt32)
  deriving DecidableEq, Repr

namespace StoreError

/-- The error of a document that cannot be decoded. What is wrong with the document is
not said. -/
def undecodable : StoreError := serialization "<json>"

/-- The error of a row whose number in the first column is no rule identifier. -/
def outOfRange (n : Int) : StoreError :=
  sqlite ("Integer " ++ toString n ++ " out of range at index 0")

/-- The wording of an error. -/
def message : StoreError → String
  | sqlite detail => "sqlite error: " ++ detail
  | serialization detail => "serialization error: " ++ detail
  | duplicateRuleId id => "duplicate rule id " ++ toString id.toNat

end StoreError

end FilterSync
