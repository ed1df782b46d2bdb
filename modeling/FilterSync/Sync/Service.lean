import FilterSync.Sync.Message
import FilterSync.Sync.Pass
import FilterSync.Sync.Shared

/-!
# Operations

An operation changes a setting, counts a blocked request, reads the state, or runs a
pass; an operation that changes a setting runs a pass afterwards. Several operations may
be under way at once, and two locks keep them apart. A pass runs under the lock of
passes from its snapshot of the state to the moment its findings are merged into the
state. Whoever works on the state holds the lock of the state, from loading it to saving
it, and waits for nothing meanwhile.

`Stage.next` is one step of one operation. Everything between two points where another
operation could come in between is one step: what is done under the lock of the state,
asking for a download, ending it, listing the live rules, replacing them.
-/

namespace FilterSync

/-- Why an operation failed. -/
inductive SyncError
  /-- The rules could not be replaced. -/
  | storeCommit (e : StoreError)
  /-- The state could not be loaded or saved. -/
  | persistence (e : StoreError)
  deriving DecidableEq, Repr

namespace SyncError

/-- The wording of an error. -/
def message : SyncError → String
  | storeCommit e => "failed to commit rules: " ++ e.message
  | persistence e => "failed to persist state: " ++ e.message

end SyncError

/-! ## The state under its lock -/

namespace Shared

/-- Loads the state with the catalog's missing lists. What the catalog adds is saved at
once, also when there was no state at all. -/
def loadReconciled (catalog : List CatalogEntry) (s : Shared) :
    Except StoreError SyncState × Shared :=
  match s.load with
  | (.error e, s) => (.error e, s)
  | (.ok stored, s) =>
    let found := stored.getD (.ofCatalog catalog)
    let state := found.reconcile catalog
    if stored.isNone || found.isMissingFrom catalog then
      match s.save state with
      | (.error e, s) => (.error e, s)
      | (.ok (), s) => (.ok state, s)
    else (.ok state, s)

/-- Changes the state and saves it. -/
def update (catalog : List CatalogEntry) (change : SyncState → SyncState) (s : Shared) :
    Except StoreError SyncState × Shared :=
  match s.loadReconciled catalog with
  | (.error e, s) => (.error e, s)
  | (.ok state, s) =>
    match s.save (change state) with
    | (.error e, s) => (.error e, s)
    | (.ok (), s) => (.ok (change state), s)

end Shared

/-- The state after a pass. -/
def SyncState.afterPass (s : SyncState) (o : Outcome) : SyncState :=
  { s.mergeMetadata o.lists with lastSync := some o.syncedAt }

/-! ## Operations -/

/-- An operation. -/
inductive Operation
  | refresh
  | setListEnabled (key : String) (enabled : Bool)
  | setCustomFilters (filters : List CustomFilter)
  | setProtectionEnabled (enabled : Bool)
  | getState
  | countBlocked
  deriving DecidableEq, Repr

/-- What an operation answers. -/
inductive Answer
  | outcome (o : Outcome)
  | done
  | state (s : SyncState)
  | count (n : UInt64)
  deriving DecidableEq, Repr

namespace Operation

/-- What an operation does to the state by itself. -/
def change : Operation → SyncState → SyncState
  | refresh, s => s
  | setListEnabled key enabled, s => s.setListEnabled key enabled
  | setCustomFilters filters, s => { s with customFilters := filters }
  | setProtectionEnabled enabled, s => { s with protectionEnabled := enabled }
  | getState, s => s
  | countBlocked, s => s.countBlocked

/-- What an operation answers after its pass. -/
def afterPass : Operation → Outcome → Answer
  | refresh, o => .outcome o
  | _, _ => .done

/-- The operation that a message asks for. -/
def ofMessage : Message → Operation
  | .refresh => refresh
  | .toggleList key enabled => setListEnabled key enabled
  | .customFilters filters => setCustomFilters filters
  | .toggleProtection enabled => setProtectionEnabled enabled
  | .getState => getState
  | .ruleMatched => countBlocked

/-- The response to a message whose operation ended like this. -/
def response : Except SyncError Answer → Response
  | .error e => .failed e.message
  | .ok (.state s) => { Response.done with state := some s }
  | .ok _ => .done

end Operation

/-! ## Stages -/

/-- What an operation does under the lock of the state. -/
inductive Visit
  /-- Its own change. -/
  | change
  /-- Only reading the state. -/
  | read
  /-- Reading the state for a pass. -/
  | snapshot
  /-- Merging the findings of a pass. -/
  | merge (o : Outcome)
  deriving DecidableEq, Repr

/-- The rules that a pass wants live, and what it knows of the lists it took. -/
structure Commit where
  rules : List Rule := []
  lists : List ListSource := []
  deriving DecidableEq, Repr

/-- Where an operation is. -/
inductive Stage
  /-- Waits for the lock of the state. -/
  | atState (visit : Visit)
  /-- Holds the lock of the state. -/
  | inState (visit : Visit)
  /-- Waits for the lock of passes. -/
  | atPass
  /-- Is about to take the first of the lists that are left. -/
  | taking (pass : Pass) (left : List ListSource) (filters : List CustomFilter)
  /-- Waits for the download of a list. -/
  | downloading (pass : Pass) (list : ListSource) (left : List ListSource)
    (filters : List CustomFilter)
  /-- Is about to list the live rules. -/
  | listing (commit : Commit)
  /-- Is about to replace the live rules. -/
  | replacing (live : List UInt32) (commit : Commit)
  /-- Has ended. -/
  | ended (result : Except SyncError Answer)

namespace Operation

/-- Where an operation begins. -/
def start : Operation → Stage
  | refresh => .atPass
  | getState => .atState .read
  | _ => .atState .change

/-- Where an operation goes on after its own change. -/
def afterChange (op : Operation) (s : SyncState) : Stage :=
  match op with
  | countBlocked => .ended (.ok (.count s.blockedRequests))
  | _ => .atPass

end Operation

namespace Stage

/-- Ends a pass, whether it did its work or not. -/
def leavePass (s : Shared) : Shared := { s with phase := .idle, passHolder := none }

/-- Ends a pass that failed. -/
def fail (e : SyncError) (s : Shared) : Stage × Shared := (ended (.error e), leavePass s)

/-- Goes over to committing the rules of a pass that has taken its lists. -/
def commit (limits : Config.Rules) (p : Pass) (filters : List CustomFilter) (s : Shared) :
    Stage × Shared :=
  let p := p.takeEnabled limits filters
  (listing { rules := p.live limits, lists := p.settled limits }, { s with phase := .committing })

/-- Goes on when the rules are live. -/
def committed (c : Commit) (s : Shared) : Stage × Shared :=
  (atState (.merge ⟨c.lists, c.rules.length, s.now⟩), { s with phase := .idle })

/-- Begins a pass with a snapshot of the state. -/
def begin (limits : Config.Rules) (state : SyncState) (s : Shared) : Stage × Shared :=
  if state.protectionEnabled then
    (taking (.start limits) (state.lists.filter (·.enabled)) state.customFilters,
      { s with phase := .fetching })
  else (listing {}, { s with phase := .committing })

/-- What an operation does under the lock of the state, which it gives back. -/
def visit (config : Config) (op : Operation) (v : Visit) (s : Shared) : Stage × Shared :=
  match v with
  | .change =>
    match s.update config.lists op.change with
    | (.error e, s) => (ended (.error (.persistence e)), { s with stateHolder := none })
    | (.ok state, s) => (op.afterChange state, { s with stateHolder := none })
  | .read =>
    match s.loadReconciled config.lists with
    | (.error e, s) => (ended (.error (.persistence e)), { s with stateHolder := none })
    | (.ok state, s) => (ended (.ok (.state state)), { s with stateHolder := none })
  | .snapshot =>
    match s.loadReconciled config.lists with
    | (.error e, s) => fail (.persistence e) { s with stateHolder := none }
    | (.ok state, s) => begin config.rules state { s with stateHolder := none }
  | .merge o =>
    match s.update config.lists (·.afterPass o) with
    | (.error e, s) => fail (.persistence e) { s with stateHolder := none }
    | (.ok _, s) => (ended (.ok (op.afterPass o)), leavePass { s with stateHolder := none })

/-- One step of an operation; none if it has ended or has to wait for a lock. -/
def next (config : Config) (who : Nat) (op : Operation) (stage : Stage) (s : Shared) :
    Option (Stage × Shared) :=
  match stage with
  | atState v =>
    if s.stateHolder.isSome then none else some (inState v, { s with stateHolder := some who })
  | inState v => some (visit config op v s)
  | atPass =>
    if s.passHolder.isSome then none
    else some (atState .snapshot, { s with passHolder := some who })
  | taking p [] filters => some (commit config.rules p filters s)
  | taking p (l :: left) filters => some (downloading p l left filters, s.request l.url)
  | downloading p l left filters =>
    let (download, s) := s.receive l.url
    let p := p.takeList config.rules l download s.now
    if p.isFull config.rules then some (commit config.rules p filters s)
    else some (taking p left filters, s)
  | listing c =>
    match s.listIds with
    | (.error e, s) => some (fail (.storeCommit e) s)
    | (.ok live, s) =>
      if live.isEmpty && c.rules.isEmpty then some (committed c s)
      else some (replacing live c, s)
  | replacing live c =>
    match s.replaceRules live c.rules with
    | (.error e, s) => some (fail (.storeCommit e) s)
    | (.ok (), s) => some (committed c s)
  | ended _ => none

/-! ## Runs of one operation -/

/-- How many steps an operation can still make at most before its pass has a snapshot, and
after that; and how many while it takes lists. -/
def rank : Stage → Nat × Nat
  | atState .change => (12, 0)
  | inState .change => (11, 0)
  | atPass => (10, 0)
  | atState .snapshot => (9, 0)
  | inState .snapshot => (8, 0)
  | taking _ left _ => (7, 2 * left.length)
  | downloading _ _ left _ => (7, 2 * left.length + 1)
  | listing _ => (6, 0)
  | replacing _ _ => (5, 0)
  | atState (.merge _) => (4, 0)
  | inState (.merge _) => (3, 0)
  | atState .read => (2, 0)
  | inState .read => (1, 0)
  | ended _ => (0, 0)

/-- The order in which ranks go down. -/
def RankLt (a b : Nat × Nat) : Prop := Prod.Lex (· < ·) (· < ·) a b

theorem rankLt_of_fst {a b : Nat × Nat} (h : a.1 < b.1) : RankLt a b := by
  obtain ⟨a, c⟩ := a
  obtain ⟨b, d⟩ := b
  exact .left _ _ h

theorem rankLt_of_snd {n a b : Nat} (h : a < b) : RankLt (n, a) (n, b) := .right _ h

theorem rank_commit (limits : Config.Rules) (p : Pass) (filters : List CustomFilter)
    (s : Shared) : (commit limits p filters s).1.rank.1 = 6 := rfl

theorem rank_visit_lt (config : Config) (op : Operation) (v : Visit) (s : Shared) :
    RankLt (visit config op v s).1.rank (inState v).rank := by
  cases v with
  | change =>
    simp only [visit]
    split
    · exact rankLt_of_fst (by simp [rank])
    · cases op <;> exact rankLt_of_fst (by simp [rank, Operation.afterChange])
  | read =>
    simp only [visit]
    split <;> exact rankLt_of_fst (by simp [rank])
  | snapshot =>
    simp only [visit]
    split
    · exact rankLt_of_fst (by simp [rank, fail])
    · simp only [begin]
      split <;> exact rankLt_of_fst (by simp [rank])
  | merge o =>
    simp only [visit]
    split <;> exact rankLt_of_fst (by simp [rank, fail])

/-- Every step of an operation brings it closer to its end. -/
theorem rank_next_lt {config : Config} {who : Nat} {op : Operation} {stage stage' : Stage}
    {s s' : Shared} (h : next config who op stage s = some (stage', s')) :
    RankLt stage'.rank stage.rank := by
  cases stage with
  | atState v =>
    simp only [next] at h
    split at h
    · cases h
    · cases h
      cases v <;> exact rankLt_of_fst (by simp [rank])
  | inState v =>
    simp only [next, Option.some.injEq] at h
    have := rank_visit_lt config op v s
    rwa [h] at this
  | atPass =>
    simp only [next] at h
    split at h
    · cases h
    · cases h
      exact rankLt_of_fst (by simp [rank])
  | taking p left filters =>
    cases left with
    | nil => cases h; exact rankLt_of_fst (by simp [rank])
    | cons l left =>
      cases h
      exact rankLt_of_snd (by simp only [List.length_cons]; omega)
  | downloading p l left filters =>
    simp only [next] at h
    split at h
    · cases h; exact rankLt_of_fst (by simp [rank])
    · cases h; exact rankLt_of_snd (by omega)
  | listing c =>
    simp only [next] at h
    split at h
    · cases h; exact rankLt_of_fst (by simp [rank])
    · split at h
      · cases h; exact rankLt_of_fst (by simp [rank])
      · cases h; exact rankLt_of_fst (by simp [rank])
  | replacing live c =>
    simp only [next] at h
    split at h
    · cases h; exact rankLt_of_fst (by simp [rank])
    · cases h; exact rankLt_of_fst (by simp [rank])
  | ended r => cases h

end Stage

end FilterSync
