import FilterSync.State.Basic
import FilterSync.Sync.Service
import Mathlib.Data.List.Nodup

/-!
# Changes of the lists of a state

Every change of a state but completing it from the catalog keeps its lists where they
are: it changes fields of some of them. Completing it appends lists and touches none.

Where no two lists have one key, changing the first list with a key is changing every
list with it, and taking over metadata is looking it up for each list.

Main statements: `modifyFirst_map`, `modifyFirst_eq_map`, `mergeMetadata_eq_map` and
`isMissingFrom_completed`.
-/

namespace FilterSync.SyncState

/-- The keys of the lists in order. -/
def keys (s : SyncState) : List String := s.lists.map (·.key)

/-- What is fixed about the lists in order: their keys, names and URLs. -/
def identities (s : SyncState) : List (String × String × String) :=
  s.lists.map fun l => (l.key, l.name, l.url)

theorem map_fst_identities (s : SyncState) : s.identities.map (·.1) = s.keys := by
  unfold identities
  rw [List.map_map]
  rfl

theorem keys_eq_of_identities {s s' : SyncState} (h : s'.identities = s.identities) :
    s'.keys = s.keys := by
  rw [← map_fst_identities, h, map_fst_identities]

/-! ## Changing lists in place -/

/-- A view of the lists that the change keeps stays the same. -/
theorem modifyFirst_map {β : Type} {f : ListSource → β} {change : ListSource → ListSource}
    (hf : ∀ l, f (change l) = f l) (key : String) (ls : List ListSource) :
    (modifyFirst key change ls).map f = ls.map f := by
  induction ls with
  | nil => rfl
  | cons l ls ih =>
    unfold modifyFirst
    split
    · rw [List.map_cons, List.map_cons, hf]
    · rw [List.map_cons, List.map_cons, ih]

theorem modifyFirst_of_not_mem {key : String} {ls : List ListSource}
    (h : key ∉ ls.map (·.key)) (change : ListSource → ListSource) :
    modifyFirst key change ls = ls := by
  induction ls with
  | nil => rfl
  | cons l ls ih =>
    rw [List.map_cons, List.mem_cons, not_or] at h
    unfold modifyFirst
    rw [if_neg (Ne.symm h.1), ih h.2]

/-- With distinct keys the first list of a key is the only one. -/
theorem modifyFirst_eq_map {ls : List ListSource} (h : (ls.map (·.key)).Nodup)
    (key : String) (change : ListSource → ListSource) :
    modifyFirst key change ls = ls.map fun l => if l.key = key then change l else l := by
  induction ls with
  | nil => rfl
  | cons l ls ih =>
    rw [List.map_cons, List.nodup_cons] at h
    unfold modifyFirst
    by_cases hkey : l.key = key
    · rw [if_pos hkey, List.map_cons, if_pos hkey]
      congr 1
      -- behind the first list with the key there is no other
      rw [← ih h.2, modifyFirst_of_not_mem (hkey ▸ h.1)]
    · rw [if_neg hkey, List.map_cons, if_neg hkey, ih h.2]

@[simp] theorem identities_change (op : Operation) (s : SyncState) :
    (op.change s).identities = s.identities := by
  cases op with
  | setListEnabled key enabled =>
    apply modifyFirst_map
    intro l
    rfl
  | refresh | setCustomFilters | setProtectionEnabled | getState | countBlocked => rfl

@[simp] theorem keys_change (op : Operation) (s : SyncState) : (op.change s).keys = s.keys :=
  keys_eq_of_identities (identities_change op s)

/-- Taking over metadata keeps every view of the lists that has none in it. -/
theorem mergeMetadata_map {β : Type} {f : ListSource → β}
    (hf : ∀ l m : ListSource, f (l.withMetadata m) = f l) (s : SyncState)
    (updated : List ListSource) : (s.mergeMetadata updated).lists.map f = s.lists.map f := by
  show (updated.foldl (fun ls m => modifyFirst m.key (·.withMetadata m) ls) s.lists).map f = _
  generalize s.lists = ls
  induction updated generalizing ls with
  | nil => rfl
  | cons m ms ih =>
    rw [List.foldl_cons, ih, modifyFirst_map]
    intro l
    exact hf l m

@[simp] theorem identities_afterPass (s : SyncState) (o : Outcome) :
    (s.afterPass o).identities = s.identities := by
  apply mergeMetadata_map
  intro l m
  rfl

@[simp] theorem keys_afterPass (s : SyncState) (o : Outcome) : (s.afterPass o).keys = s.keys :=
  keys_eq_of_identities (identities_afterPass s o)

/-- With distinct keys on both sides, each list gets the metadata under its key. -/
theorem mergeMetadata_eq_map {s : SyncState} {updated : List ListSource} (h : s.keys.Nodup)
    (hupdated : (updated.map (·.key)).Nodup) :
    (s.mergeMetadata updated).lists = s.lists.map fun l =>
      match updated.find? (·.key = l.key) with
      | some m => l.withMetadata m
      | none => l := by
  show updated.foldl (fun ls m => modifyFirst m.key (·.withMetadata m) ls) s.lists = _
  unfold keys at h
  generalize s.lists = ls at h
  induction updated generalizing ls with
  | nil => simp
  | cons m ms ih =>
    rw [List.map_cons, List.nodup_cons] at hupdated
    have hkeys : (modifyFirst m.key (·.withMetadata m) ls).map (·.key) = ls.map (·.key) := by
      apply modifyFirst_map
      intro l
      rfl
    rw [List.foldl_cons, ih hupdated.2 _ (hkeys ▸ h), modifyFirst_eq_map h, List.map_map]
    apply List.map_congr_left
    intro l _
    rw [Function.comp_apply, List.find?_cons]
    by_cases hkey : l.key = m.key
    · -- the metadata of this list was just taken over, and none behind it has its key
      have hnone : ms.find? (·.key = l.key) = none := by
        rw [List.find?_eq_none]
        intro m' hm' heq
        apply hupdated.1
        rw [← hkey, ← of_decide_eq_true heq]
        exact List.mem_map_of_mem hm'
      have hnone' : ms.find? (·.key = (l.withMetadata m).key) = none := hnone
      simp [hkey, hnone']
    · have hkey' : m.key ≠ l.key := Ne.symm hkey
      simp [hkey, hkey']

/-! ## What is known of downloads -/

/-- What is known of the downloads of each list. -/
def findings (s : SyncState) : List (String × UInt64 × Option Timestamp × Option String) :=
  s.lists.map fun l => (l.key, l.ruleCount, l.lastUpdated, l.lastError)

/-- Of downloads nothing else is known in the second state; it may have more lists, which
were never downloaded. -/
structure KeepsFindings (s s' : SyncState) : Prop where
  lists : ∃ keys : List String, s'.findings = s.findings ++ keys.map (·, 0, none, none)
  lastSync : s'.lastSync = s.lastSync

namespace KeepsFindings

variable {s s' s'' : SyncState}

theorem refl (s : SyncState) : KeepsFindings s s := ⟨⟨[], (List.append_nil _).symm⟩, rfl⟩

theorem trans (h : KeepsFindings s s') (h' : KeepsFindings s' s'') : KeepsFindings s s'' := by
  obtain ⟨⟨keys, hkeys⟩, hsync⟩ := h
  obtain ⟨⟨keys', hkeys'⟩, hsync'⟩ := h'
  refine ⟨⟨keys ++ keys', ?_⟩, hsync'.trans hsync⟩
  rw [hkeys', hkeys, List.append_assoc, List.map_append]

end KeepsFindings

theorem keepsFindings_change (op : Operation) (s : SyncState) :
    KeepsFindings s (op.change s) := by
  cases op with
  | setListEnabled key enabled =>
    refine ⟨⟨[], ?_⟩, rfl⟩
    rw [List.map_nil, List.append_nil]
    apply modifyFirst_map
    intro l
    rfl
  | refresh | setCustomFilters | setProtectionEnabled | getState | countBlocked =>
    exact ⟨⟨[], (List.append_nil _).symm⟩, rfl⟩

/-! ## Completing the lists from the catalog -/

theorem hasKey_iff {ls : List ListSource} {key : String} :
    hasKey ls key = true ↔ key ∈ ls.map (·.key) := by
  simp only [hasKey, List.any_eq_true, decide_eq_true_eq, List.mem_map]

theorem isMissingFrom_eq_false_iff {s : SyncState} {catalog : List CatalogEntry} :
    s.isMissingFrom catalog = false ↔ ∀ e ∈ catalog, e.key ∈ s.keys := by
  simp only [isMissingFrom, List.any_eq_false, Bool.not_eq_true', Bool.not_eq_false,
    hasKey_iff, keys]

theorem appendMissing_cons (e : CatalogEntry) (catalog : List CatalogEntry)
    (ls : List ListSource) :
    appendMissing (e :: catalog) ls =
      appendMissing catalog (if hasKey ls e.key then ls else ls ++ [ListSource.ofEntry e]) := rfl

/-- Only lists that were never downloaded are appended. -/
theorem appendMissing_eq_append (catalog : List CatalogEntry) (ls : List ListSource) :
    ∃ added, appendMissing catalog ls = ls ++ List.map ListSource.ofEntry added := by
  induction catalog generalizing ls with
  | nil => exact ⟨[], (List.append_nil ls).symm⟩
  | cons e catalog ih =>
    rw [appendMissing_cons]
    split
    · exact ih ls
    · obtain ⟨added, hadded⟩ := ih (ls ++ [ListSource.ofEntry e])
      refine ⟨e :: added, ?_⟩
      rw [hadded, List.append_assoc]
      rfl

theorem prefix_appendMissing (catalog : List CatalogEntry) (ls : List ListSource) :
    ls <+: appendMissing catalog ls := by
  obtain ⟨added, hadded⟩ := appendMissing_eq_append catalog ls
  rw [hadded]
  exact List.prefix_append ls _

theorem mem_keys_appendMissing (catalog : List CatalogEntry) (ls : List ListSource) :
    ∀ e ∈ catalog, e.key ∈ (appendMissing catalog ls).map (·.key) := by
  induction catalog generalizing ls with
  | nil => simp
  | cons e catalog ih =>
    intro e' he'
    rw [appendMissing_cons]
    rcases List.mem_cons.1 he' with rfl | he'
    · -- the entry has a list from here on, and lists are only appended
      have hmem : e'.key ∈ ((if hasKey ls e'.key then ls else ls ++ [ListSource.ofEntry e']).map
          (·.key)) := by
        split
        · next hkey => exact hasKey_iff.1 hkey
        · simp [ListSource.ofEntry]
      exact ((prefix_appendMissing catalog _).map _).subset hmem
    · exact ih _ e' he'

theorem nodup_keys_appendMissing {ls : List ListSource} (h : (ls.map (·.key)).Nodup)
    (catalog : List CatalogEntry) : ((appendMissing catalog ls).map (·.key)).Nodup := by
  induction catalog generalizing ls with
  | nil => exact h
  | cons e catalog ih =>
    rw [appendMissing_cons]
    apply ih
    split
    · exact h
    · next hkey =>
      have hnew : e.key ∉ ls.map (·.key) := fun hmem => hkey (hasKey_iff.2 hmem)
      rw [List.map_append, List.nodup_append]
      refine ⟨h, List.nodup_singleton _, ?_⟩
      intro a ha b hb heq
      rw [heq, List.mem_singleton.1 hb] at ha
      exact hnew ha

theorem appendMissing_of_mem_keys {catalog : List CatalogEntry} {ls : List ListSource}
    (h : ∀ e ∈ catalog, e.key ∈ ls.map (·.key)) : appendMissing catalog ls = ls := by
  induction catalog generalizing ls with
  | nil => rfl
  | cons e catalog ih =>
    rw [appendMissing_cons, if_pos (hasKey_iff.2 (h e List.mem_cons_self))]
    exact ih fun e' he' => h e' (List.mem_cons_of_mem _ he')

/-- What was stored, if anything, as an operation sees it: the state of a first run if there
was none, and with the catalog's missing lists. -/
def completed (catalog : List CatalogEntry) (stored : Option SyncState) : SyncState :=
  (stored.getD (ofCatalog catalog)).reconcile catalog

/-- Whether what was stored has to be completed. -/
def isIncomplete (catalog : List CatalogEntry) (stored : Option SyncState) : Bool :=
  stored.isNone || (stored.getD (ofCatalog catalog)).isMissingFrom catalog

theorem isMissingFrom_completed (catalog : List CatalogEntry) (stored : Option SyncState) :
    (completed catalog stored).isMissingFrom catalog = false :=
  isMissingFrom_eq_false_iff.2 (mem_keys_appendMissing catalog _)

theorem keepsFindings_completed (catalog : List CatalogEntry) (stored : Option SyncState) :
    KeepsFindings (stored.getD (ofCatalog catalog)) (completed catalog stored) := by
  obtain ⟨added, hadded⟩ :=
    appendMissing_eq_append catalog (stored.getD (ofCatalog catalog)).lists
  refine ⟨⟨added.map (·.key), ?_⟩, rfl⟩
  show (appendMissing catalog _).map _ = _
  rw [hadded, List.map_append, List.map_map, List.map_map]
  rfl

/-- A state that has a list for each entry is complete as it is. -/
theorem completed_some {catalog : List CatalogEntry} {s : SyncState}
    (h : s.isMissingFrom catalog = false) : completed catalog (some s) = s := by
  show { s with lists := appendMissing catalog s.lists } = s
  rw [appendMissing_of_mem_keys (isMissingFrom_eq_false_iff.1 h)]

theorem eq_some_of_not_isIncomplete {catalog : List CatalogEntry} {stored : Option SyncState}
    (h : isIncomplete catalog stored = false) :
    ∃ s, stored = some s ∧ s.isMissingFrom catalog = false := by
  cases stored with
  | none => cases h
  | some s => exact ⟨s, rfl, h⟩

theorem isMissingFrom_congr {catalog : List CatalogEntry} {s s' : SyncState}
    (h : s'.keys = s.keys) (hs : s.isMissingFrom catalog = false) :
    s'.isMissingFrom catalog = false := by
  rw [isMissingFrom_eq_false_iff] at hs ⊢
  rw [h]
  exact hs

end FilterSync.SyncState
