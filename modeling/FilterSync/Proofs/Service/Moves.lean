import FilterSync.Proofs.Pass.Replay
import FilterSync.Proofs.Service.Calls

/-!
# The steps of an operation

`Stage.Moves` lists every step that an operation can make, with what it meets there and
what it leaves behind: one constructor for each way in which a step can go. What holds of
operations that run in any order is proved by cases on it.

Main statement: `Stage.moves_of_next`.
-/

namespace FilterSync

/-- What the download of a URL gives now. -/
def Shared.fetch (s : Shared) (url : String) : Fetch :=
  ⟨url, (s.receive url).1, (s.receive url).2.now⟩

/-- A pass that has taken a list with the download that was made for it. -/
def Pass.takeFetch (limits : Config.Rules) (p : Pass) (l : ListSource) (f : Fetch) : Pass :=
  p.takeList limits l f.download f.time

/-- What a commit leaves to be merged at some time. -/
def Commit.outcome (c : Commit) (now : Timestamp) : Outcome := ⟨c.lists, c.rules.length, now⟩

namespace Stage

/-- The steps of the operation `op` with the number `who`. -/
inductive Moves (config : Config) (who : Nat) (op : Operation) :
    Stage → Shared → Stage → Shared → Prop
  /-- Takes the lock of the state. -/
  | enterState {s : Shared} (v : Visit) (free : s.stateHolder = none) :
      Moves config who op (atState v) s (inState v) { s with stateHolder := some who }
  /-- Takes the lock of passes. -/
  | enterPass {s : Shared} (free : s.passHolder = none) :
      Moves config who op atPass s (atState .snapshot) { s with passHolder := some who }
  | changeFailed {s s' : Shared} {e : StoreError}
      (h : s.update config.lists op.change = (.error e, s')) :
      Moves config who op (inState .change) s (ended (.error (.persistence e)))
        { s' with stateHolder := none }
  | changed {s s' : Shared} {state : SyncState}
      (h : s.update config.lists op.change = (.ok state, s')) :
      Moves config who op (inState .change) s (op.afterChange state)
        { s' with stateHolder := none }
  | readFailed {s s' : Shared} {e : StoreError}
      (h : s.loadReconciled config.lists = (.error e, s')) :
      Moves config who op (inState .read) s (ended (.error (.persistence e)))
        { s' with stateHolder := none }
  | read {s s' : Shared} {state : SyncState}
      (h : s.loadReconciled config.lists = (.ok state, s')) :
      Moves config who op (inState .read) s (ended (.ok (.state state)))
        { s' with stateHolder := none }
  | snapshotFailed {s s' : Shared} {e : StoreError}
      (h : s.loadReconciled config.lists = (.error e, s')) :
      Moves config who op (inState .snapshot) s (ended (.error (.persistence e)))
        (leavePass { s' with stateHolder := none })
  /-- Begins to take the enabled lists. -/
  | protect {s s' : Shared} {state : SyncState}
      (h : s.loadReconciled config.lists = (.ok state, s'))
      (on : state.protectionEnabled = true) :
      Moves config who op (inState .snapshot) s
        (taking (.start config.rules) (state.lists.filter (·.enabled)) state.customFilters)
        { s' with stateHolder := none, phase := .fetching }
  /-- Takes no lists, as protection is off. -/
  | unprotect {s s' : Shared} {state : SyncState}
      (h : s.loadReconciled config.lists = (.ok state, s'))
      (off : state.protectionEnabled = false) :
      Moves config who op (inState .snapshot) s (listing {})
        { s' with stateHolder := none, phase := .committing }
  /-- Has taken all lists. -/
  | taken {s : Shared} (p : Pass) (filters : List CustomFilter) :
      Moves config who op (taking p [] filters) s (listing (p.commitOf config.rules filters))
        { s with phase := .committing }
  | requested {s : Shared} (p : Pass) (l : ListSource) (left : List ListSource)
      (filters : List CustomFilter) :
      Moves config who op (taking p (l :: left) filters) s (downloading p l left filters)
        (s.request l.url)
  | received {s : Shared} {p : Pass} {l : ListSource} (left : List ListSource)
      (filters : List CustomFilter)
      (room : (p.takeFetch config.rules l (s.fetch l.url)).isFull config.rules = false) :
      Moves config who op (downloading p l left filters) s
        (taking (p.takeFetch config.rules l (s.fetch l.url)) left filters) (s.receive l.url).2
  /-- Takes no more lists, as the rules have reached the ceiling. -/
  | filled {s : Shared} {p : Pass} {l : ListSource} (left : List ListSource)
      (filters : List CustomFilter)
      (full : (p.takeFetch config.rules l (s.fetch l.url)).isFull config.rules = true) :
      Moves config who op (downloading p l left filters) s
        (listing ((p.takeFetch config.rules l (s.fetch l.url)).commitOf config.rules filters))
        { (s.receive l.url).2 with phase := .committing }
  /-- The call to list the live rules fails. -/
  | unlisted {s : Shared} (c : Commit) (faults : Target → Option Fault) (e : StoreError) :
      Moves config who op (listing c) s (ended (.error (.storeCommit e)))
        (leavePass (s.called faults (.ids s.phase) true))
  /-- The store cannot list the live rules. -/
  | unlistable {s : Shared} (c : Commit) (faults : Target → Option Fault) {e : StoreError}
      (h : s.rules.ids = .error e) :
      Moves config who op (listing c) s (ended (.error (.storeCommit e)))
        (leavePass (s.called faults (.ids s.phase) false))
  /-- There are no rules and there are to be none. -/
  | nothing {s : Shared} {c : Commit} (faults : Target → Option Fault)
      (h : s.rules.ids = .ok []) (none : c.rules = []) :
      Moves config who op (listing c) s (atState (.merge (c.outcome s.now)))
        { s.called faults (.ids s.phase) false with phase := .idle }
  | listed {s : Shared} {c : Commit} {live : List UInt32} (faults : Target → Option Fault)
      (h : s.rules.ids = .ok live) (some : ¬(live = [] ∧ c.rules = [])) :
      Moves config who op (listing c) s (replacing live c)
        (s.called faults (.ids s.phase) false)
  /-- The call to replace the live rules fails. -/
  | unreplaced {s : Shared} (live : List UInt32) (c : Commit) (faults : Target → Option Fault)
      (e : StoreError) :
      Moves config who op (replacing live c) s (ended (.error (.storeCommit e)))
        (leavePass (s.called faults (.replace live.length c.rules.length s.phase) true))
  /-- The store refuses the rules. -/
  | refused {s : Shared} {live : List UInt32} {c : Commit} (faults : Target → Option Fault)
      {e : StoreError} (h : s.rules.replace live c.rules = .error e) :
      Moves config who op (replacing live c) s (ended (.error (.storeCommit e)))
        (leavePass (s.called faults (.replace live.length c.rules.length s.phase) false))
  | replaced {s : Shared} {live : List UInt32} {c : Commit} {rules : RuleStore}
      (faults : Target → Option Fault) (h : s.rules.replace live c.rules = .ok rules) :
      Moves config who op (replacing live c) s (atState (.merge (c.outcome s.now)))
        { s.called faults (.replace live.length c.rules.length s.phase) false with
          rules, phase := .idle }
  | mergeFailed {s s' : Shared} {o : Outcome} {e : StoreError}
      (h : s.update config.lists (·.afterPass o) = (.error e, s')) :
      Moves config who op (inState (.merge o)) s (ended (.error (.persistence e)))
        (leavePass { s' with stateHolder := none })
  | merged {s s' : Shared} {o : Outcome} {state : SyncState}
      (h : s.update config.lists (·.afterPass o) = (.ok state, s')) :
      Moves config who op (inState (.merge o)) s (ended (.ok (op.afterPass o)))
        (leavePass { s' with stateHolder := none })

variable {config : Config} {who : Nat} {op : Operation} {stage stage' : Stage} {s s' : Shared}

/-- What is done under the lock of the state is one of the listed steps. -/
theorem moves_visit (v : Visit) (h : visit config op v s = (stage', s')) :
    Moves config who op (inState v) s stage' s' := by
  cases v with
  | change =>
    cases hupdate : s.update config.lists op.change with
    | mk result s₁ =>
      simp only [visit, hupdate] at h
      cases result <;> cases h
      · exact .changeFailed hupdate
      · exact .changed hupdate
  | read =>
    cases hread : s.loadReconciled config.lists with
    | mk result s₁ =>
      simp only [visit, hread] at h
      cases result <;> cases h
      · exact .readFailed hread
      · exact .read hread
  | snapshot =>
    cases hread : s.loadReconciled config.lists with
    | mk result s₁ =>
      simp only [visit, hread] at h
      cases result with
      | error e =>
        cases h
        exact .snapshotFailed hread
      | ok state =>
        -- whether lists are taken depends on the snapshot
        simp only [begin] at h
        split at h
        · next hon =>
          cases h
          exact .protect hread hon
        · next hoff =>
          cases h
          exact .unprotect hread (Bool.not_eq_true _ ▸ hoff)
  | merge o =>
    cases hupdate : s.update config.lists (·.afterPass o) with
    | mk result s₁ =>
      simp only [visit, hupdate] at h
      cases result <;> cases h
      · exact .mergeFailed hupdate
      · exact .merged hupdate

/-- Every step is one of the listed ones. -/
theorem moves_of_next (h : next config who op stage s = some (stage', s')) :
    Moves config who op stage s stage' s' := by
  cases stage with
  | atState v =>
    simp only [next] at h
    split at h
    · cases h
    · next hfree =>
      cases h
      exact .enterState v (by simpa using hfree)
  | inState v => exact moves_visit v (Option.some.inj h)
  | atPass =>
    simp only [next] at h
    split at h
    · cases h
    · next hfree =>
      cases h
      exact .enterPass (by simpa using hfree)
  | taking p left filters =>
    cases left with
    | nil =>
      cases h
      exact .taken p filters
    | cons l left =>
      cases h
      exact .requested p l left filters
  | downloading p l left filters =>
    simp only [next] at h
    split at h
    · next hfull =>
      cases h
      exact .filled left filters hfull
    · next hroom =>
      cases h
      exact .received left filters (Bool.not_eq_true _ ▸ hroom)
  | listing c =>
    simp only [next] at h
    rcases s.listIds_cases with ⟨faults, e, hlist⟩ | ⟨faults, hlist⟩
    · rw [hlist] at h
      cases h
      exact .unlisted c faults e
    · rw [hlist] at h
      cases hids : s.rules.ids with
      | error e =>
        rw [hids] at h
        cases h
        exact .unlistable c faults hids
      | ok live =>
        rw [hids] at h
        dsimp only at h
        -- with nothing live and nothing to add there is nothing to replace
        split at h
        · next hnone =>
          cases h
          rw [Bool.and_eq_true, List.isEmpty_iff, List.isEmpty_iff] at hnone
          exact .nothing faults (hnone.1 ▸ hids) hnone.2
        · next hsome =>
          cases h
          refine .listed faults hids ?_
          rwa [Bool.and_eq_true, List.isEmpty_iff, List.isEmpty_iff] at hsome
  | replacing live c =>
    simp only [next] at h
    rcases s.replaceRules_cases live c.rules with
      ⟨faults, e, hreplace⟩ | ⟨faults, e, hrefused, hreplace⟩ | ⟨faults, rules, hok, hreplace⟩
    · rw [hreplace] at h
      cases h
      exact .unreplaced live c faults e
    · rw [hreplace] at h
      cases h
      exact .refused faults hrefused
    · rw [hreplace] at h
      cases h
      exact .replaced faults hok
  | ended result => cases h

end Stage

end FilterSync
