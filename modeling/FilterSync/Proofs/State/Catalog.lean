import FilterSync.Proofs.Config.Problems
import FilterSync.Proofs.State.Lists

/-!
# Completing a state from a catalog

A usable configuration has a catalog in which no key occurs twice. Completing a state from such
a catalog appends the entries whose keys it lacks, in the order of the catalog, and nothing else;
the state of a first run is an empty one that was completed. Completing a state again changes
nothing.

Main statements: `Config.distinct_of_problem?`, `SyncState.reconcile_eq`,
`SyncState.reconcile_reconcile` and `SyncState.ofCatalog_eq_reconcile`.
-/

namespace FilterSync

namespace Config

/-- No key occurs twice in the catalog. -/
def Distinct (c : Config) : Prop := (c.lists.map (·.key)).Nodup

instance (c : Config) : Decidable c.Distinct := inferInstanceAs (Decidable (List.Nodup _))

variable {φ : Type} {urlFault? : String → Option φ}

/-- A configuration without problems has a catalog without a repeated key. -/
theorem distinct_of_problem? {c : Config} (h : c.problem? urlFault? = none) : c.Distinct :=
  (problem?_eq_none_iff.1 h).keys

end Config

namespace SyncState

variable {catalog : List CatalogEntry}

/-- The entries whose keys no list of the state has. -/
def missing (s : SyncState) (catalog : List CatalogEntry) : List CatalogEntry :=
  catalog.filter fun e => !hasKey s.lists e.key

/-- An entry that was appended is not missing any more, and none behind it has its key. -/
theorem appendMissing_eq (h : (catalog.map (·.key)).Nodup) (ls : List ListSource) :
    appendMissing catalog ls =
      ls ++ (catalog.filter fun e => !hasKey ls e.key).map ListSource.ofEntry := by
  induction catalog generalizing ls with
  | nil => exact (List.append_nil ls).symm
  | cons e catalog ih =>
    rw [List.map_cons, List.nodup_cons] at h
    rw [appendMissing_cons, ih h.2]
    by_cases hkey : hasKey ls e.key = true
    · rw [if_pos hkey, List.filter_cons_of_neg (by simp [hkey])]
    · have hsame : (catalog.filter fun e' => !hasKey (ls ++ [ListSource.ofEntry e]) e'.key) =
          catalog.filter fun e' => !hasKey ls e'.key := by
        apply List.filter_congr
        intro e' he'
        have hne : e.key ≠ e'.key := fun heq => h.1 (heq ▸ List.mem_map_of_mem he')
        simp [hasKey, ListSource.ofEntry, hne]
      rw [if_neg hkey, hsame, List.filter_cons_of_pos (by simp [hkey]), List.map_cons,
        List.append_assoc]
      rfl

/-- Completing a state appends the missing entries in the order of the catalog. -/
theorem reconcile_eq (h : (catalog.map (·.key)).Nodup) (s : SyncState) :
    s.reconcile catalog =
      { s with lists := s.lists ++ (s.missing catalog).map ListSource.ofEntry } := by
  unfold reconcile
  rw [appendMissing_eq h]
  rfl

theorem isMissingFrom_reconcile (catalog : List CatalogEntry) (s : SyncState) :
    (s.reconcile catalog).isMissingFrom catalog = false :=
  isMissingFrom_completed catalog (some s)

theorem reconcile_reconcile (catalog : List CatalogEntry) (s : SyncState) :
    (s.reconcile catalog).reconcile catalog = s.reconcile catalog :=
  completed_some (isMissingFrom_reconcile catalog s)

/-- The state of a first run is an empty state with the lists of the catalog. -/
theorem ofCatalog_eq_reconcile (h : (catalog.map (·.key)).Nodup) :
    ofCatalog catalog = ({ lists := [] } : SyncState).reconcile catalog := by
  have hall : ({ lists := [] } : SyncState).missing catalog = catalog := by
    apply List.filter_eq_self.2
    intro e _
    rfl
  rw [reconcile_eq h, hall]
  rfl

theorem completed_eq_reconcile (h : (catalog.map (·.key)).Nodup) (stored : Option SyncState) :
    completed catalog stored = (stored.getD { lists := [] }).reconcile catalog := by
  cases stored with
  | none =>
    show (ofCatalog catalog).reconcile catalog = _
    rw [ofCatalog_eq_reconcile h, reconcile_reconcile]
    rfl
  | some s => rfl

theorem nodup_keys_completed {stored : Option SyncState} (h : (catalog.map (·.key)).Nodup)
    (hstored : ∀ s, stored = some s → s.keys.Nodup) : (completed catalog stored).keys.Nodup := by
  rw [completed_eq_reconcile h]
  apply nodup_keys_appendMissing
  cases stored with
  | none => exact List.nodup_nil
  | some s => exact hstored s rfl

theorem prefix_identities_completed (catalog : List CatalogEntry) (s : SyncState) :
    s.identities <+: (completed catalog (some s)).identities :=
  (prefix_appendMissing catalog s.lists).map _

end SyncState

end FilterSync
