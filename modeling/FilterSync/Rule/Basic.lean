import FilterSync.Filter.ResourceType

/-!
# Rules

A rule is what a request matcher works with: an identifier, what to do with a matching
request, a match pattern, and the resource types it is restricted to, if any.
-/

namespace FilterSync

/-- What a rule does with a request that it matches. -/
inductive Action
  | allow
  | block
  deriving DecidableEq, Repr

namespace Action

/-- The action of an exception or of an ordinary filter. -/
def ofAllow (isAllow : Bool) : Action :=
  if isAllow then allow else block

/-- Whether requests are let through. -/
def isAllow (a : Action) : Bool := a = allow

/-- Letting a request through outranks blocking it. -/
def priority : Action → UInt32
  | allow => 2
  | block => 1

/-- The name in rules. -/
def name : Action → String
  | allow => "allow"
  | block => "block"

/-- The action of a given name. -/
def ofName? (s : String) : Option Action :=
  [allow, block].find? (·.name = s)

theorem ofName?_name (a : Action) : ofName? a.name = some a := by cases a <;> decide

theorem priority_block_lt_allow : block.priority < allow.priority := by decide

end Action

/-- A rule of a request matcher. -/
structure Rule where
  id : UInt32
  priority : UInt32
  action : Action
  urlFilter : String
  /-- The resource types that the rule is restricted to; every type if there are none. -/
  resourceTypes : Option Filter.TypeSet
  deriving DecidableEq, Repr

namespace Rule

/-- Whether the rule lets requests through. -/
def isAllow (r : Rule) : Bool := r.action.isAllow

end Rule

end FilterSync
