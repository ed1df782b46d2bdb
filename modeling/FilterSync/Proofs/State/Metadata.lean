import FilterSync.Proofs.State.Lists

/-!
# What is known of the lists of a state

The metadata of a list is what is known of its downloads. A change that an operation makes by
itself leaves it as it is, a list of the catalog begins without any, and a pass replaces all of
it for each list that it took. What is true of the metadata of every list is therefore a matter
of where metadata comes from.

Main statements: `SyncState.AllKnown.completed`, `SyncState.AllKnown.change` and
`SyncState.AllKnown.afterPass`.
-/

namespace FilterSync

/-- What is known of the downloads of a list. -/
structure Metadata where
  ruleCount : UInt64 := 0
  lastUpdated : Option Timestamp := none
  lastError : Option String := none
  deriving DecidableEq, Repr

/-- What is known of the downloads of the list. -/
def ListSource.metadata (l : ListSource) : Metadata := ⟨l.ruleCount, l.lastUpdated, l.lastError⟩

namespace SyncState

/-- What is known of the downloads of each list has a property. -/
def AllKnown (R : Metadata → Prop) (s : SyncState) : Prop := ∀ l ∈ s.lists, R l.metadata

variable {R : Metadata → Prop} {s : SyncState}

theorem AllKnown.congr {s' : SyncState} (h : s.AllKnown R)
    (heq : s'.lists.map (·.metadata) = s.lists.map (·.metadata)) : s'.AllKnown R := by
  intro l hl
  have hmem : l.metadata ∈ s.lists.map (·.metadata) := by
    rw [← heq]
    exact List.mem_map_of_mem hl
  obtain ⟨l', hl', hmetadata⟩ := List.mem_map.1 hmem
  rw [← hmetadata]
  exact h l' hl'

theorem metadata_change (op : Operation) (s : SyncState) :
    (op.change s).lists.map (·.metadata) = s.lists.map (·.metadata) := by
  cases op with
  | setListEnabled key enabled =>
    apply modifyFirst_map
    intro l
    rfl
  | refresh | setCustomFilters | setProtectionEnabled | getState | countBlocked => rfl

theorem AllKnown.change (h : s.AllKnown R) (op : Operation) : (op.change s).AllKnown R :=
  h.congr (metadata_change op s)

/-- Of a list that the catalog adds nothing is known. -/
theorem AllKnown.completed {catalog : List CatalogEntry} {stored : Option SyncState}
    (fresh : R {}) (h : ∀ s, stored = some s → s.AllKnown R) :
    (completed catalog stored).AllKnown R := by
  have hentries : ∀ entries : List CatalogEntry, ∀ l ∈ entries.map ListSource.ofEntry,
      R l.metadata := by
    intro entries l hl
    obtain ⟨e, -, rfl⟩ := List.mem_map.1 hl
    exact fresh
  intro l hl
  obtain ⟨added, hadded⟩ :=
    appendMissing_eq_append catalog (stored.getD (ofCatalog catalog)).lists
  have hl : l ∈ appendMissing catalog (stored.getD (ofCatalog catalog)).lists := hl
  rw [hadded, List.mem_append] at hl
  rcases hl with hl | hl
  · cases stored with
    | none => exact hentries catalog l hl
    | some s => exact h s rfl l hl
  · exact hentries added l hl

theorem mem_modifyFirst {key : String} {change : ListSource → ListSource} {ls : List ListSource}
    {l : ListSource} (h : l ∈ modifyFirst key change ls) : l ∈ ls ∨ ∃ l' ∈ ls, l = change l' := by
  induction ls with
  | nil => cases h
  | cons l₀ ls ih =>
    unfold modifyFirst at h
    split at h
    · rcases List.mem_cons.1 h with rfl | h
      · exact Or.inr ⟨l₀, List.mem_cons_self, rfl⟩
      · exact Or.inl (List.mem_cons_of_mem _ h)
    · rcases List.mem_cons.1 h with rfl | h
      · exact Or.inl List.mem_cons_self
      · refine (ih h).imp (List.mem_cons_of_mem _) ?_
        rintro ⟨l', hl', heq⟩
        exact ⟨l', List.mem_cons_of_mem _ hl', heq⟩

/-- Metadata is taken over as a whole, so that a list has its own or that of a merged list. -/
theorem AllKnown.mergeMetadata {updated : List ListSource} (h : s.AllKnown R)
    (hupdated : ∀ m ∈ updated, R m.metadata) : (s.mergeMetadata updated).AllKnown R := by
  show ∀ l ∈ updated.foldl (fun ls m => modifyFirst m.key (·.withMetadata m) ls) s.lists,
    R l.metadata
  unfold AllKnown at h
  generalize s.lists = ls at h
  induction updated generalizing ls with
  | nil => exact h
  | cons m ms ih =>
    apply ih fun m' hm' => hupdated m' (List.mem_cons_of_mem _ hm')
    intro l hl
    rcases mem_modifyFirst hl with hl | ⟨l', -, rfl⟩
    · exact h l hl
    · exact hupdated m List.mem_cons_self

theorem AllKnown.afterPass {o : Outcome} (h : s.AllKnown R)
    (ho : ∀ m ∈ o.lists, R m.metadata) : (s.afterPass o).AllKnown R :=
  h.mergeMetadata ho

/-! ## The time of the last pass -/

@[simp] theorem lastSync_change (op : Operation) (s : SyncState) :
    (op.change s).lastSync = s.lastSync := by
  cases op <;> rfl

@[simp] theorem lastSync_completed (catalog : List CatalogEntry) (stored : Option SyncState) :
    (completed catalog stored).lastSync = stored.bind (·.lastSync) := by
  cases stored <;> rfl

end SyncState

end FilterSync
