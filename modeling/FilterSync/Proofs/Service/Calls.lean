import FilterSync.Proofs.State.Lists
import FilterSync.Proofs.Store.Backends

/-!
# How calls go

What surrounds an operation decides which of its calls fail, what is downloaded, and what
time it is. Seen from inside, a call either fails and leaves both stores as they were, or
does what it is for. `Reading` and `Updating` list the ways in which working on the state
can go, with the calls that are made; the other calls have lemmas of the same kind.

Main statements: `loadReconciled_reading` and `update_updating`.
-/

namespace FilterSync

/-! ## What surrounds an operation -/

/-- What operations meet but do not decide: the faults of the next calls, what is to be
downloaded, and the time. -/
structure Surroundings where
  faults : Target → Option Fault
  pages : Table String Page
  clock : Int

namespace Shared

/-- The surroundings as they are. -/
def surroundings (s : Shared) : Surroundings := ⟨s.faults, s.pages, s.clock⟩

/-- The same shared value in other surroundings. -/
def amid (s : Shared) (w : Surroundings) : Shared :=
  { s with faults := w.faults, pages := w.pages, clock := w.clock }

@[simp] theorem amid_surroundings (s : Shared) : s.amid s.surroundings = s := rfl
@[simp] theorem amid_rules (s : Shared) (w : Surroundings) : (s.amid w).rules = s.rules := rfl
@[simp] theorem amid_states (s : Shared) (w : Surroundings) : (s.amid w).states = s.states := rfl
@[simp] theorem amid_phase (s : Shared) (w : Surroundings) : (s.amid w).phase = s.phase := rfl
@[simp] theorem amid_events (s : Shared) (w : Surroundings) : (s.amid w).events = s.events := rfl

@[simp] theorem amid_passHolder (s : Shared) (w : Surroundings) :
    (s.amid w).passHolder = s.passHolder := rfl

@[simp] theorem amid_stateHolder (s : Shared) (w : Surroundings) :
    (s.amid w).stateHolder = s.stateHolder := rfl

/-! ## Single calls -/

/-- A call that was noted, in which a fault may have used up some of its count. -/
def called (s : Shared) (faults : Target → Option Fault) (call : Call) (failed : Bool) : Shared :=
  { s with faults, events := ⟨call, failed⟩ :: s.events }

theorem attempt_cases (s : Shared) (t : Target) (call : Call) :
    (∃ faults e, s.attempt t call = (some e, s.called faults call true)) ∨
      ∃ faults, s.attempt t call = (none, s.called faults call false) := by
  unfold attempt
  split
  · exact Or.inr ⟨s.faults, rfl⟩
  · next f hf =>
    cases hnext : f.next.1 with
    | some e =>
      refine Or.inl ⟨fun u => if u = t then some f.next.2 else s.faults u, e, ?_⟩
      simp [hnext, called, note]
    | none =>
      refine Or.inr ⟨fun u => if u = t then some f.next.2 else s.faults u, ?_⟩
      simp [hnext, called, note]

/-- A call to load fails, or gives what the store has. -/
theorem load_cases (s : Shared) :
    (∃ faults e, s.load = (.error e, s.called faults .load true)) ∨
      ∃ faults, s.load = (s.states.load, s.called faults .load false) := by
  unfold load
  rcases s.attempt_cases .load .load with ⟨faults, e, h⟩ | ⟨faults, h⟩
  · exact Or.inl ⟨faults, e, by rw [h]⟩
  · exact Or.inr ⟨faults, by rw [h]; rfl⟩

/-- A call to save fails, or replaces the state. -/
theorem save_cases (s : Shared) (state : SyncState) :
    (∃ faults e, s.save state = (.error e, s.called faults .save true)) ∨
      ∃ faults, s.save state =
        (.ok (), { s.called faults .save false with states := s.states.save state }) := by
  unfold save
  rcases s.attempt_cases .save .save with ⟨faults, e, h⟩ | ⟨faults, h⟩
  · exact Or.inl ⟨faults, e, by rw [h]⟩
  · exact Or.inr ⟨faults, by rw [h]; rfl⟩

/-- A call to list fails, or gives what the store lists. -/
theorem listIds_cases (s : Shared) :
    (∃ faults e, s.listIds = (.error e, s.called faults (.ids s.phase) true)) ∨
      ∃ faults, s.listIds = (s.rules.ids, s.called faults (.ids s.phase) false) := by
  unfold listIds
  rcases s.attempt_cases .ids (.ids s.phase) with ⟨faults, e, h⟩ | ⟨faults, h⟩
  · exact Or.inl ⟨faults, e, by rw [h]⟩
  · exact Or.inr ⟨faults, by rw [h]; rfl⟩

/-- A call to replace fails, or does what the store does. -/
theorem replaceRules_cases (s : Shared) (remove : List UInt32) (add : List Rule) :
    (∃ faults e, s.replaceRules remove add =
      (.error e, s.called faults (.replace remove.length add.length s.phase) true)) ∨
    (∃ faults e, s.rules.replace remove add = .error e ∧ s.replaceRules remove add =
      (.error e, s.called faults (.replace remove.length add.length s.phase) false)) ∨
    ∃ faults rules, s.rules.replace remove add = .ok rules ∧ s.replaceRules remove add =
      (.ok (),
        { s.called faults (.replace remove.length add.length s.phase) false with rules }) := by
  unfold replaceRules
  rcases s.attempt_cases .replace (.replace remove.length add.length s.phase) with
    ⟨faults, e, h⟩ | ⟨faults, h⟩
  · exact Or.inl ⟨faults, e, by rw [h]⟩
  · have hsame : (s.called faults (.replace remove.length add.length s.phase) false).rules =
        s.rules := rfl
    rw [h]
    dsimp only
    rw [hsame]
    cases hreplace : s.rules.replace remove add with
    | error e => exact Or.inr (Or.inl ⟨faults, e, rfl, rfl⟩)
    | ok rules => exact Or.inr (Or.inr ⟨faults, rules, rfl, rfl⟩)

/-! ## Working on the state -/

/-- Nothing differs but what work on the state touches: the state's store, the faults and the
calls. -/
structure StateOnly (s s' : Shared) : Prop where
  rules : s'.rules = s.rules
  phase : s'.phase = s.phase
  clock : s'.clock = s.clock
  passHolder : s'.passHolder = s.passHolder
  stateHolder : s'.stateHolder = s.stateHolder

/-- The ways in which reading the state, completed from the catalog, can go. -/
inductive Reading (catalog : List CatalogEntry) (s : Shared) :
    Except StoreError SyncState → Shared → Prop
  /-- The call to load fails. -/
  | unloaded (faults : Target → Option Fault) (e : StoreError) :
      Reading catalog s (.error e) (s.called faults .load true)
  /-- What is stored is no state. -/
  | unreadable (faults : Target → Option Fault) (e : StoreError)
      (stored : s.states.load = .error e) :
      Reading catalog s (.error e) (s.called faults .load false)
  /-- The stored state is complete. -/
  | found (faults : Target → Option Fault) (state : SyncState)
      (stored : s.states.load = .ok (some state))
      (complete : state.isMissingFrom catalog = false) :
      Reading catalog s (.ok state) (s.called faults .load false)
  /-- The completed state is not saved. -/
  | uncompleted (faults faults' : Target → Option Fault) (e : StoreError)
      (found : Option SyncState) (stored : s.states.load = .ok found)
      (incomplete : SyncState.isIncomplete catalog found = true) :
      Reading catalog s (.error e) ((s.called faults .load false).called faults' .save true)
  /-- The completed state is saved. -/
  | completed (faults faults' : Target → Option Fault) (found : Option SyncState)
      (stored : s.states.load = .ok found)
      (incomplete : SyncState.isIncomplete catalog found = true) :
      Reading catalog s (.ok (SyncState.completed catalog found))
        { (s.called faults .load false).called faults' .save false with
          states := s.states.save (SyncState.completed catalog found) }

theorem loadReconciled_reading (catalog : List CatalogEntry) (s : Shared) :
    Reading catalog s (s.loadReconciled catalog).1 (s.loadReconciled catalog).2 := by
  unfold loadReconciled
  rcases s.load_cases with ⟨faults, e, h⟩ | ⟨faults, h⟩
  · rw [h]
    exact .unloaded faults e
  · rw [h]
    cases hstored : s.states.load with
    | error e => exact .unreadable faults e hstored
    | ok found =>
      dsimp only
      -- the state is saved here only if the catalog had something to add
      split
      · next hmissing =>
        rcases (s.called faults .load false).save_cases (SyncState.completed catalog found) with
          ⟨faults', e, hsave⟩ | ⟨faults', hsave⟩
        · unfold SyncState.completed at hsave
          rw [hsave]
          exact .uncompleted faults faults' e found hstored hmissing
        · unfold SyncState.completed at hsave
          rw [hsave]
          exact .completed faults faults' found hstored hmissing
      · next hmissing =>
        obtain ⟨state, rfl, hcomplete⟩ :=
          SyncState.eq_some_of_not_isIncomplete (Bool.not_eq_true _ ▸ hmissing)
        have hsame : (Option.getD (some state) (.ofCatalog catalog)).reconcile catalog = state :=
          SyncState.completed_some hcomplete
        rw [hsame]
        exact .found faults state hstored hcomplete

theorem reading_of_eq {catalog : List CatalogEntry} {s s' : Shared}
    {result : Except StoreError SyncState} (h : s.loadReconciled catalog = (result, s')) :
    Reading catalog s result s' := by
  have hreading := s.loadReconciled_reading catalog
  rwa [h] at hreading

theorem Reading.stateOnly {catalog : List CatalogEntry} {s s' : Shared}
    {result : Except StoreError SyncState} (h : Reading catalog s result s') :
    StateOnly s s' := by
  cases h <;> exact ⟨rfl, rfl, rfl, rfl, rfl⟩

/-- What is read is the completed state, which is stored from then on. -/
theorem Reading.load_of_ok {catalog : List CatalogEntry} {s s' : Shared} {state : SyncState}
    (h : Reading catalog s (.ok state) s') :
    ∃ found, s.states.load = .ok found ∧ state = SyncState.completed catalog found ∧
      s'.states.load = .ok (some state) := by
  cases h with
  | found faults _ stored complete =>
    exact ⟨some state, stored, (SyncState.completed_some complete).symm, stored⟩
  | completed faults faults' found stored incomplete =>
    exact ⟨found, stored, rfl, StateStore.load_save _ _⟩

/-- A reading that fails changes nothing. -/
theorem Reading.states_of_error {catalog : List CatalogEntry} {s s' : Shared} {e : StoreError}
    (h : Reading catalog s (.error e) s') : s'.states = s.states := by
  cases h <;> rfl

/-- The ways in which changing the state can go. -/
inductive Updating (catalog : List CatalogEntry) (change : SyncState → SyncState) (s : Shared) :
    Except StoreError SyncState → Shared → Prop
  /-- The state is not read. -/
  | unread {e : StoreError} {s' : Shared} (reading : Reading catalog s (.error e) s') :
      Updating catalog change s (.error e) s'
  /-- The changed state is not saved. -/
  | unsaved {state : SyncState} {s' : Shared} (reading : Reading catalog s (.ok state) s')
      (faults : Target → Option Fault) (e : StoreError) :
      Updating catalog change s (.error e) (s'.called faults .save true)
  /-- The changed state is saved. -/
  | saved {state : SyncState} {s' : Shared} (reading : Reading catalog s (.ok state) s')
      (faults : Target → Option Fault) :
      Updating catalog change s (.ok (change state))
        { s'.called faults .save false with states := s'.states.save (change state) }

theorem update_updating (catalog : List CatalogEntry) (change : SyncState → SyncState)
    (s : Shared) :
    Updating catalog change s (s.update catalog change).1 (s.update catalog change).2 := by
  have hreading := s.loadReconciled_reading catalog
  unfold update
  cases hread : s.loadReconciled catalog with
  | mk result s' =>
    rw [hread] at hreading
    cases result with
    | error e => exact .unread hreading
    | ok state =>
      dsimp only
      rcases s'.save_cases (change state) with ⟨faults, e, hsave⟩ | ⟨faults, hsave⟩
      · rw [hsave]
        exact .unsaved hreading faults e
      · rw [hsave]
        exact .saved hreading faults

theorem updating_of_eq {catalog : List CatalogEntry} {change : SyncState → SyncState}
    {s s' : Shared} {result : Except StoreError SyncState}
    (h : s.update catalog change = (result, s')) : Updating catalog change s result s' := by
  have hupdating := s.update_updating catalog change
  rwa [h] at hupdating

theorem Updating.stateOnly {catalog : List CatalogEntry} {change : SyncState → SyncState}
    {s s' : Shared} {result : Except StoreError SyncState}
    (h : Updating catalog change s result s') : StateOnly s s' := by
  cases h with
  | unread reading => exact reading.stateOnly
  | unsaved reading faults e =>
    have hreading := reading.stateOnly
    exact ⟨hreading.rules, hreading.phase, hreading.clock, hreading.passHolder,
      hreading.stateHolder⟩
  | saved reading faults =>
    have hreading := reading.stateOnly
    exact ⟨hreading.rules, hreading.phase, hreading.clock, hreading.passHolder,
      hreading.stateHolder⟩

/-- What is changed is the completed state, and the result is stored. -/
theorem Updating.load_of_ok {catalog : List CatalogEntry} {change : SyncState → SyncState}
    {s s' : Shared} {state : SyncState} (h : Updating catalog change s (.ok state) s') :
    ∃ found, s.states.load = .ok found ∧ state = change (SyncState.completed catalog found) ∧
      s'.states.load = .ok (some state) := by
  cases h with
  | saved reading faults =>
    obtain ⟨found, hfound, rfl, -⟩ := reading.load_of_ok
    exact ⟨found, hfound, rfl, StateStore.load_save _ _⟩

/-- A change that fails leaves the state as it was, or just completed. -/
theorem Updating.load_of_error {catalog : List CatalogEntry} {change : SyncState → SyncState}
    {s s' : Shared} {e : StoreError} (h : Updating catalog change s (.error e) s') :
    s'.states = s.states ∨ ∃ found, s.states.load = .ok found ∧
      s'.states.load = .ok (some (SyncState.completed catalog found)) := by
  cases h with
  | unread reading => exact Or.inl reading.states_of_error
  | unsaved reading faults e =>
    obtain ⟨found, hfound, rfl, hload⟩ := reading.load_of_ok
    exact Or.inr ⟨found, hfound, hload⟩

end Shared

end FilterSync
