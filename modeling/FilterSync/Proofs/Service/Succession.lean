import FilterSync.Proofs.Service.System

/-!
# Services that are started again

A service may end at any moment, and another one be started over the same store of the state,
with another configuration and whatever store of rules there is then. Nothing is left of the
operations that were under way but what they had saved. An end between two calls of one step
needs no case of its own, as the calls that are not made any more are like calls that fail.

What becomes of the persisted state on the way is a matter of single steps: a step leaves it as
it is, completes it from the catalog, changes it as its operation does, or takes over what a
pass has found.

Main statements: `Stage.Moves.stores` and `Deployment.live_invariant`.
-/

namespace FilterSync

/-! ## What a step stores -/

/-- What a step of the operation `op` from a stage makes of the store of the state. -/
inductive Stage.Stores (catalog : List CatalogEntry) (op : Operation) :
    Stage → StateStore → StateStore → Prop
  | kept (stage : Stage) (states : StateStore) : Stores catalog op stage states states
  | completed {states states' : StateStore} {found : Option SyncState} (stage : Stage)
      (loaded : states.load = .ok found)
      (saved : states'.load = .ok (some (SyncState.completed catalog found))) :
      Stores catalog op stage states states'
  | changed {states states' : StateStore} {found : Option SyncState}
      (loaded : states.load = .ok found)
      (saved : states'.load = .ok (some (op.change (SyncState.completed catalog found)))) :
      Stores catalog op (.inState .change) states states'
  | merged {states states' : StateStore} {found : Option SyncState} (o : Outcome)
      (loaded : states.load = .ok found)
      (saved : states'.load = .ok (some ((SyncState.completed catalog found).afterPass o))) :
      Stores catalog op (.inState (.merge o)) states states'

namespace Stage

variable {config : Config} {who : Nat} {op : Operation} {stage stage' : Stage} {s s' : Shared}

theorem Stores.of_reading {catalog : List CatalogEntry} {result : Except StoreError SyncState}
    (h : Shared.Reading catalog s result s') (stage : Stage) :
    Stores catalog op stage s.states s'.states := by
  cases result with
  | error e =>
    rw [h.states_of_error]
    exact .kept stage _
  | ok state =>
    obtain ⟨found, hfound, rfl, hload⟩ := h.load_of_ok
    exact .completed stage hfound hload

/-- A change that fails may have completed the state all the same. -/
theorem Stores.of_failed {catalog : List CatalogEntry} {change : SyncState → SyncState}
    {e : StoreError} (h : Shared.Updating catalog change s (.error e) s') (stage : Stage) :
    Stores catalog op stage s.states s'.states := by
  rcases h.load_of_error with hsame | ⟨found, hfound, hload⟩
  · rw [hsame]
    exact .kept stage _
  · exact .completed stage hfound hload

theorem Moves.stores (move : Moves config who op stage s stage' s') :
    Stores config.lists op stage s.states s'.states := by
  cases move with
  | changeFailed h => exact .of_failed (Shared.updating_of_eq h) _
  | changed h =>
    obtain ⟨found, hfound, rfl, hload⟩ := (Shared.updating_of_eq h).load_of_ok
    exact .changed hfound hload
  | readFailed h | read h => exact .of_reading (Shared.reading_of_eq h) _
  | snapshotFailed h | protect h | unprotect h => exact .of_reading (Shared.reading_of_eq h) _
  | mergeFailed h => exact .of_failed (Shared.updating_of_eq h) _
  | @merged s s' o state h =>
    obtain ⟨found, hfound, rfl, hload⟩ := (Shared.updating_of_eq h).load_of_ok
    exact .merged o hfound hload
  | enterState | enterPass | taken | requested | received | filled => exact .kept _ _
  | unlisted | unlistable | nothing | listed | unreplaced | refused | replaced => exact .kept _ _

end Stage

/-- The persisted state has a property, if there is one. -/
def StateStore.Has (states : StateStore) (P : SyncState → Prop) : Prop :=
  ∀ s, states.load = .ok (some s) → P s

/-- The persisted state, if there is one that can be read. -/
def StateStore.state? (states : StateStore) : Option SyncState := states.load.toOption.join

theorem StateStore.load_of_state? {states : StateStore} {s : SyncState}
    (h : states.state? = some s) : states.load = .ok (some s) := by
  unfold state? at h
  cases hload : states.load with
  | error e =>
    rw [hload] at h
    cases h
  | ok stored =>
    rw [hload] at h
    exact congrArg Except.ok h

/-- What completing, changing and merging keep holds of the persisted state after each step. -/
theorem Stage.Stores.has {catalog : List CatalogEntry} {op : Operation} {stage : Stage}
    {states states' : StateStore} {P : SyncState → Prop}
    (h : Stores catalog op stage states states')
    (completed : ∀ found, (∀ s, found = some s → P s) → P (SyncState.completed catalog found))
    (changed : ∀ s, P s → P (op.change s))
    (merged : ∀ o s, stage = .inState (.merge o) → P s → P (s.afterPass o))
    (hstored : states.Has P) : states'.Has P := by
  have hcompleted : ∀ {states : StateStore} {found : Option SyncState}, states.Has P →
      states.load = .ok found → P (SyncState.completed catalog found) := by
    intro states found hstored loaded
    apply completed
    rintro s rfl
    exact hstored s loaded
  intro s hs
  cases h with
  | kept => exact hstored s hs
  | completed _ loaded saved =>
    cases saved.symm.trans hs
    exact hcompleted hstored loaded
  | changed loaded saved =>
    cases saved.symm.trans hs
    exact changed _ (hcompleted hstored loaded)
  | merged o loaded saved =>
    cases saved.symm.trans hs
    exact merged o _ rfl (hcompleted hstored loaded)

/-! ## Deployments -/

/-- A running service, with what it was started over. -/
structure Deployment where
  config : Config
  /-- The store of the state as it was when the service was started. -/
  opened : StateStore
  system : System

namespace Deployment

/-- What may happen next. -/
inductive Happening
  /-- The running service has a turn. -/
  | turn (t : System.Turn)
  /-- The service ends, and another one is started. -/
  | restart (config : Config) (rules : RuleStore)

/-- The first service over two stores. -/
def first (config : Config) (rules : RuleStore) (states : StateStore) : Deployment where
  config := config
  opened := states
  system := .start rules states

/-- The store of the state as it is now. -/
def states (d : Deployment) : StateStore := d.system.shared.states

/-- What the clock reads now. -/
def now (d : Deployment) : Timestamp := d.system.shared.now

/-- The next service. The store of the state and all surroundings are as they were. -/
def restarted (d : Deployment) (config : Config) (rules : RuleStore) : Deployment where
  config := config
  opened := d.states
  system :=
    { shared := (System.start rules d.states).shared.amid d.system.shared.surroundings }

/-- What becomes of a deployment, if that can happen. -/
def happen (d : Deployment) : Happening → Option Deployment
  | .turn t => (d.system.act d.config t).map fun system => { d with system }
  | .restart config rules => some (d.restarted config rules)

/-- What becomes of a deployment in the end, if all of that can happen. -/
def live (d : Deployment) : List Happening → Option Deployment
  | [] => some d
  | h :: hs => (d.happen h).bind (·.live hs)

/-- The configurations that services are started with. -/
def configs (hs : List Happening) : List Config :=
  hs.filterMap fun
    | .turn _ => none
    | .restart config _ => some config

/-- Whether every deployment stands in a relation to the one after it. -/
def Each (R : Deployment → Deployment → Prop) (d : Deployment) : List Happening → Prop
  | [] => True
  | h :: hs => ∀ d', d.happen h = some d' → R d d' ∧ d'.Each R hs

instance decidableEach (R : Deployment → Deployment → Prop) [DecidableRel R] (d : Deployment) :
    (hs : List Happening) → Decidable (d.Each R hs)
  | [] => .isTrue trivial
  | h :: hs =>
    match hhappen : d.happen h with
    | none => .isTrue fun _ hsome => nomatch hhappen.symm.trans hsome
    | some d' =>
      have := decidableEach R d' hs
      decidable_of_iff (R d d' ∧ d'.Each R hs) <| by
        simp only [Each, hhappen, Option.some.injEq, forall_eq']

/-- No reading of the clock is earlier than one before it. -/
def ClockForward (d : Deployment) (hs : List Happening) : Prop :=
  d.Each (fun d d' => d.now ≤ d'.now) hs

instance (d : Deployment) (hs : List Happening) : Decidable (d.ClockForward hs) :=
  inferInstanceAs (Decidable (d.Each _ hs))

/-- What can become of a deployment in one step. -/
inductive Happens (d : Deployment) : Deployment → Prop
  | turned {system : System} (acts : System.Acts d.config d.system system) :
      Happens d { d with system }
  | restarted (config : Config) (rules : RuleStore) : Happens d (d.restarted config rules)

variable {d d' : Deployment} {hs : List Happening}

theorem happens_of_happen {h : Happening} (hhappen : d.happen h = some d') : Happens d d' := by
  cases h with
  | turn t =>
    obtain ⟨system, hact, rfl⟩ := Option.map_eq_some_iff.1 hhappen
    exact .turned (System.acts_of_act hact)
  | restart config rules =>
    cases hhappen
    exact .restarted config rules

/-- A service is started with an allowed configuration, and keeps it. -/
theorem each_of_configs {allowed : Config → Prop} (h : ∀ config ∈ configs hs, allowed config) :
    d.Each (fun d d' => d'.config = d.config ∨ allowed d'.config) hs := by
  induction hs generalizing d with
  | nil => trivial
  | cons happening hs ih =>
    intro d' hhappen
    cases happening with
    | turn t =>
      obtain ⟨system, -, rfl⟩ := Option.map_eq_some_iff.1 hhappen
      exact ⟨Or.inl rfl, ih h⟩
    | restart config rules =>
      cases hhappen
      exact ⟨Or.inr (h config List.mem_cons_self),
        ih fun c hc => h c (List.mem_cons_of_mem _ hc)⟩

/-- What every step of the allowed kind keeps holds in the end. -/
theorem live_invariant {P : Deployment → Prop} {R : Deployment → Deployment → Prop}
    (hstep : ∀ {d d' : Deployment}, P d → Happens d d' → R d d' → P d') (h₀ : P d)
    (heach : d.Each R hs) (hlive : d.live hs = some d') : P d' := by
  induction hs generalizing d with
  | nil =>
    cases hlive
    exact h₀
  | cons h hs ih =>
    obtain ⟨next, hhappen, hrest⟩ := Option.bind_eq_some_iff.1 hlive
    obtain ⟨hR, heach⟩ := heach next hhappen
    exact ih (hstep h₀ (happens_of_happen hhappen) hR) heach hrest

/-- The locks are held by those who work under them in every service. -/
theorem locked_step (h : System.Locked d.system) (hhappens : Happens d d') :
    System.Locked d'.system := by
  cases hhappens with
  | turned acts => exact h.step acts
  | restarted config rules =>
    have hstart := System.locked_start rules d.states
    exact ⟨hstart.pass, hstart.state, hstart.phase, hstart.idle⟩

end Deployment

end FilterSync
