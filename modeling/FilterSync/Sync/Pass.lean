import FilterSync.Rule.Batch
import FilterSync.State.Basic
import FilterSync.Sync.Download

/-!
# Passes

A pass turns the enabled lists and filters of a state into the rules that are to be
live. Lists are taken in order, with one cursor for all identifiers, until the rules
reach the ceiling; then come the user's filters as long as there is room, and last the
rules are cut at the ceiling. A list that the cut hits reports the rules that it keeps.
-/

namespace FilterSync

open FilterSync.Filter (allowMarker)

/-- A list that a pass has taken, and the positions of its rules among all rules. -/
structure TakenList where
  list : ListSource
  /-- The first position and the one behind the last; none if there was no text. -/
  span : Option (Nat × Nat)
  deriving DecidableEq, Repr

namespace TakenList

/-- The list with the number of its rules among the first `kept` rules. -/
def settle (t : TakenList) (kept : Nat) : ListSource :=
  match t.span with
  | none => t.list
  | some (first, last) => { t.list with ruleCount := UInt64.ofNat (min last kept - first) }

end TakenList

/-- A pass as far as it has come. -/
structure Pass where
  cursor : IdCursor
  rules : List Rule := []
  taken : List TakenList := []
  deriving DecidableEq, Repr

namespace Pass

variable (limits : Config.Rules)

/-- The largest number of rules. -/
def ceiling : Nat := limits.maxRules.toNat

/-- A pass before its first list. -/
def start : Pass where
  cursor := ⟨limits.firstRuleId⟩

/-- Whether the rules have reached the ceiling. -/
def isFull (p : Pass) : Bool := ceiling limits ≤ p.rules.length

/-- Takes a list whose download ended at time `now`. -/
def takeList (p : Pass) (list : ListSource) (download : Download) (now : Timestamp) : Pass :=
  match download with
  | .ok text =>
    let batch := Batch.ofText p.cursor (ceiling limits) text.toList
    let list := list.recordSuccess batch.rules.length now
    { cursor := batch.cursor
      rules := p.rules ++ batch.rules
      taken := p.taken ++ [⟨list, some (p.rules.length, p.rules.length + batch.rules.length)⟩] }
  | .error e => { p with taken := p.taken ++ [⟨list.recordFailure e.message, none⟩] }

/-- Takes lists one after the other, none after the rules have reached the ceiling. -/
def takeLists (p : Pass) : List (ListSource × Download × Timestamp) → Pass
  | [] => p
  | (list, download, now) :: rest =>
    let p := p.takeList limits list download now
    if p.isFull limits then p else p.takeLists rest

/-- The body of a user's filter. The filter's own action counts, so an exception mark is
only taken away. -/
def filterBody (f : CustomFilter) : List Char :=
  let expression := Text.trim f.expression.toList
  (Text.after? allowMarker expression).getD expression

/-- Takes a filter, which adds a rule unless it is empty or unsupported. -/
def takeFilter (p : Pass) (f : CustomFilter) : Pass :=
  if (filterBody f).isEmpty then p
  else
    let (rule, cursor) := p.cursor.compile (filterBody f) f.action.isAllow
    { p with cursor, rules := p.rules ++ rule.toList }

/-- Takes filters one after the other, none once the rules have reached the ceiling. -/
def takeFilters (p : Pass) : List CustomFilter → Pass
  | [] => p
  | f :: rest => if p.isFull limits then p else (p.takeFilter f).takeFilters rest

/-- Takes the user's enabled filters. -/
def takeEnabled (p : Pass) (filters : List CustomFilter) : Pass :=
  p.takeFilters limits (filters.filter (·.enabled))

/-- The rules that are to be live. -/
def live (p : Pass) : List Rule := p.rules.take (ceiling limits)

/-- What is known of the taken lists once the rules are cut. -/
def settled (p : Pass) : List ListSource := p.taken.map (·.settle (p.live limits).length)

end Pass

/-- What a finished pass did. -/
structure Outcome where
  /-- The lists it took, with what is known of their downloads. -/
  lists : List ListSource
  /-- The number of live rules. -/
  committedRules : Nat
  syncedAt : Timestamp
  deriving DecidableEq, Repr

end FilterSync
