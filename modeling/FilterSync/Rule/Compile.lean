import FilterSync.Filter.Pattern
import FilterSync.Rule.Basic

/-!
# Compiling a filter

A filter's body becomes a rule if it has a match pattern. The options only restrict the
rule to the resource types they name.
-/

namespace FilterSync.Rule

open FilterSync.Filter

/-- The rule of a filter's body under a given identifier. -/
def compile? (body : List Char) (isAllow : Bool) (id : UInt32) : Option Rule :=
  (matchPattern? body).map fun pattern =>
    let action := Action.ofAllow isAllow
    let types := namedTypes (splitOptions body).2
    { id
      priority := action.priority
      action
      urlFilter := String.ofList pattern
      resourceTypes := if types.isEmpty then none else some types }

end FilterSync.Rule
