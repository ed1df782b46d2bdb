import FilterSync.Proofs.State.Lists
import Mathlib.Algebra.Group.Nat.Defs

/-!
# What changes of a state say

Each change that an operation makes to the persisted state is written here as what it
does to every field: a toggle sets a flag of the list with its key, a match adds one to a
count, a finished pass replaces what is known of the lists it took and the time of the
last pass. With distinct keys the operations do just that.

A log of such changes can be applied to a state. The findings of passes in it never reach
what the user chose.

Main statements: `change_eq_applyAll`, `afterPass_eq_apply` and `withoutFindings_applyAll`.
-/

namespace FilterSync

/-- What an operation does to the persisted state. -/
inductive Mutation
  | toggle (key : String) (enabled : Bool)
  | filters (filters : List CustomFilter)
  | protection (enabled : Bool)
  | blocked
  | finished (o : Outcome)
  deriving DecidableEq, Repr

/-- What the operation does to the state by itself, if anything. -/
def Operation.mutation? : Operation → Option Mutation
  | refresh => none
  | setListEnabled key enabled => some (.toggle key enabled)
  | setCustomFilters filters => some (.filters filters)
  | setProtectionEnabled enabled => some (.protection enabled)
  | getState => none
  | countBlocked => some .blocked

/-- The list as if it had never been downloaded. -/
def ListSource.withoutFindings (l : ListSource) : ListSource :=
  { l with ruleCount := 0, lastUpdated := none, lastError := none }

/-- The state as if no pass had ever ended: what is left is what the user chose and what
was counted. -/
def SyncState.withoutFindings (s : SyncState) : SyncState :=
  { s with lists := s.lists.map (·.withoutFindings), lastSync := none }

namespace Mutation

/-- What the change does to each field of a state. -/
def apply (s : SyncState) : Mutation → SyncState
  | toggle key enabled =>
    { s with lists := s.lists.map fun l => if l.key = key then { l with enabled } else l }
  | filters fs => { s with customFilters := fs }
  | protection enabled => { s with protectionEnabled := enabled }
  | blocked =>
    { s with blockedRequests := UInt64.ofNat (min (s.blockedRequests.toNat + 1) (2 ^ 64 - 1)) }
  | finished o =>
    { s with
      lists := s.lists.map fun l =>
        match o.lists.find? (·.key = l.key) with
        | some m =>
          { l with
            ruleCount := m.ruleCount
            lastUpdated := m.lastUpdated
            lastError := m.lastError }
        | none => l
      lastSync := some o.syncedAt }

/-- Applies changes one after the other. -/
def applyAll (log : List Mutation) (s : SyncState) : SyncState := log.foldl apply s

/-- Whether the change comes from outside, not from a pass. -/
def isRequested : Mutation → Bool
  | finished _ => false
  | _ => true

variable {s : SyncState}

@[simp] theorem applyAll_nil (s : SyncState) : applyAll [] s = s := rfl

@[simp] theorem applyAll_cons (m : Mutation) (log : List Mutation) (s : SyncState) :
    applyAll (m :: log) s = applyAll log (apply s m) := rfl

theorem applyAll_append (log more : List Mutation) (s : SyncState) :
    applyAll (log ++ more) s = applyAll more (applyAll log s) :=
  List.foldl_append

@[simp] theorem identities_apply (s : SyncState) (m : Mutation) :
    (apply s m).identities = s.identities := by
  have hmap : ∀ f : ListSource → ListSource,
      (∀ l, ((f l).key, (f l).name, (f l).url) = (l.key, l.name, l.url)) →
      (s.lists.map f).map (fun l => (l.key, l.name, l.url)) =
        s.lists.map fun l => (l.key, l.name, l.url) := by
    intro f hf
    rw [List.map_map]
    exact List.map_congr_left fun l _ => hf l
  cases m with
  | toggle key enabled =>
    apply hmap
    intro l
    split <;> rfl
  | filters fs => rfl
  | protection enabled => rfl
  | blocked => rfl
  | finished o =>
    apply hmap
    intro l
    split <;> rfl

@[simp] theorem identities_applyAll (log : List Mutation) (s : SyncState) :
    (applyAll log s).identities = s.identities := by
  induction log generalizing s with
  | nil => rfl
  | cons m log ih => rw [applyAll_cons, ih, identities_apply]

@[simp] theorem keys_applyAll (log : List Mutation) (s : SyncState) :
    (applyAll log s).keys = s.keys :=
  SyncState.keys_eq_of_identities (identities_applyAll log s)

/-! ## What operations do -/

theorem countBlocked_eq_apply (s : SyncState) : s.countBlocked = apply s blocked := by
  have hlt := s.blockedRequests.toNat_lt
  show { s with blockedRequests := if s.blockedRequests.toNat + 1 < UInt64.size then
    s.blockedRequests + 1 else s.blockedRequests } = _
  unfold apply
  congr 1
  apply UInt64.toNat_inj.1
  split
  · next hroom =>
    rw [UInt64.toNat_add, UInt64.toNat_ofNat']
    simp only [UInt64.size] at hroom
    simp only [UInt64.reduceToNat]
    omega
  · next hfull =>
    rw [UInt64.toNat_ofNat']
    simp only [UInt64.size] at hfull
    omega

/-- An operation's own change does what its mutation says. -/
theorem change_eq_applyAll (op : Operation) (h : s.keys.Nodup) :
    op.change s = applyAll op.mutation?.toList s := by
  cases op with
  | refresh => rfl
  | setListEnabled key enabled =>
    show { s with lists := SyncState.modifyFirst key _ s.lists } = _
    rw [SyncState.modifyFirst_eq_map h]
    rfl
  | setCustomFilters filters => rfl
  | setProtectionEnabled enabled => rfl
  | getState => rfl
  | countBlocked => exact countBlocked_eq_apply s

/-- A finished pass does what its mutation says. -/
theorem afterPass_eq_apply {o : Outcome} (h : s.keys.Nodup)
    (ho : (o.lists.map (·.key)).Nodup) : s.afterPass o = apply s (finished o) := by
  have hlists := SyncState.mergeMetadata_eq_map h ho
  unfold SyncState.afterPass
  rw [show s.mergeMetadata o.lists = { s with lists := (s.mergeMetadata o.lists).lists } from rfl,
    hlists]
  rfl

/-! ## What the user chose -/

theorem withoutFindings_apply (s : SyncState) (m : Mutation) :
    (apply s m).withoutFindings =
      if m.isRequested then apply s.withoutFindings m else s.withoutFindings := by
  cases m with
  | toggle key enabled =>
    simp only [isRequested, if_true, apply, SyncState.withoutFindings, List.map_map]
    congr 1
    apply List.map_congr_left
    intro l _
    by_cases hkey : l.key = key <;> simp [ListSource.withoutFindings, hkey]
  | filters fs => rfl
  | protection enabled => rfl
  | blocked => rfl
  | finished o =>
    simp only [isRequested, apply, SyncState.withoutFindings, List.map_map]
    rw [if_neg Bool.false_ne_true]
    congr 1
    apply List.map_congr_left
    intro l _
    rw [Function.comp_apply]
    split <;> rfl

/-- What the user chose comes from the changes that were asked for, whatever passes
finished in between. -/
theorem withoutFindings_applyAll (log : List Mutation) (s : SyncState) :
    (applyAll log s).withoutFindings =
      applyAll (log.filter (·.isRequested)) s.withoutFindings := by
  induction log generalizing s with
  | nil => rfl
  | cons m log ih =>
    rw [applyAll_cons, ih, withoutFindings_apply, List.filter_cons]
    split <;> rfl

/-- Without regard to keys, a finished pass never reaches what the user chose. -/
theorem withoutFindings_afterPass (s : SyncState) (o : Outcome) :
    (s.afterPass o).withoutFindings = s.withoutFindings := by
  have hlists : (s.mergeMetadata o.lists).lists.map (·.withoutFindings) =
      s.lists.map (·.withoutFindings) := by
    apply SyncState.mergeMetadata_map
    intro l m
    rfl
  show { s with lists := (s.mergeMetadata o.lists).lists.map _, lastSync := none } = _
  rw [hlists]
  rfl

end Mutation

end FilterSync
