import FilterSync.Proofs.Pass.Identifiers
import FilterSync.Sync.Service

/-!
# What a pass makes of a state

A pass that runs among other operations takes its lists one by one, and each download
may give anything. `SyncState.plan?` says at once what such a pass makes of a state, given
the downloads that were made: it fails if these are not the downloads that a pass over
this state makes, so that a plan is evidence that they are.

Of the state a plan uses only what the user chose: the URLs of the lists in order, which
of them are enabled, the user's filters, and whether protection is on.

Main statements: `SyncState.plan?_rules_congr` and `SyncState.admissible_plan?`.
-/

namespace FilterSync

/-- A download of a pass: what was asked for, what came, and when. -/
structure Fetch where
  url : String
  download : Download
  time : Timestamp
  deriving DecidableEq, Repr

namespace Pass

variable (limits : Config.Rules)

/-- Takes lists with the downloads that were made for them: one per list in order, of the
URL of the list, up to the list at which the rules reach the ceiling. -/
def replay? (p : Pass) : List ListSource → List Fetch → Option Pass
  | [], [] => some p
  | l :: ls, f :: fs =>
    if l.url = f.url then
      let p := p.takeList limits l f.download f.time
      if p.isFull limits then if fs.isEmpty then some p else none
      else replay? p ls fs
    else none
  | _, _ => none

/-- What a pass commits that has taken its lists. -/
def commitOf (p : Pass) (filters : List CustomFilter) : Commit :=
  let p := p.takeEnabled limits filters
  { rules := p.live limits, lists := p.settled limits }

end Pass

/-- What a pass commits for a state, if the given downloads are the ones it makes. -/
def SyncState.plan? (limits : Config.Rules) (s : SyncState) (fetched : List Fetch) :
    Option Commit :=
  if s.protectionEnabled then
    ((Pass.start limits).replay? limits (s.lists.filter (·.enabled)) fetched).map
      (·.commitOf limits s.customFilters)
  else if fetched.isEmpty then some {} else none

theorem SyncState.plan?_eq_some_iff {limits : Config.Rules} {s : SyncState}
    {fetched : List Fetch} {c : Commit} (on : s.protectionEnabled = true) :
    s.plan? limits fetched = some c ↔
      ∃ q, (Pass.start limits).replay? limits (s.lists.filter (·.enabled)) fetched = some q ∧
        q.commitOf limits s.customFilters = c := by
  unfold plan?
  rw [if_pos on, Option.map_eq_some_iff]

namespace Pass

variable {limits : Config.Rules} {p q : Pass}

/-! ## How a replay goes -/

/-- A pass takes lists with the downloads that were made for them: it comes to the end of the
lists, or to the one with which the rules reach the ceiling. -/
inductive Replays (limits : Config.Rules) : Pass → List ListSource → List Fetch → Pass → Prop
  | done (p : Pass) : Replays limits p [] [] p
  | last {p : Pass} {l : ListSource} {f : Fetch} (ls : List ListSource) (url : l.url = f.url)
      (full : (p.takeList limits l f.download f.time).isFull limits = true) :
      Replays limits p (l :: ls) [f] (p.takeList limits l f.download f.time)
  | more {p q : Pass} {l : ListSource} {f : Fetch} {ls : List ListSource} {fs : List Fetch}
      (url : l.url = f.url)
      (room : (p.takeList limits l f.download f.time).isFull limits = false)
      (rest : Replays limits (p.takeList limits l f.download f.time) ls fs q) :
      Replays limits p (l :: ls) (f :: fs) q

theorem replays_of_eq {ls : List ListSource} {fs : List Fetch}
    (h : p.replay? limits ls fs = some q) : Replays limits p ls fs q := by
  induction ls generalizing p fs with
  | nil =>
    cases fs with
    | nil =>
      cases h
      exact .done _
    | cons f fs => cases h
  | cons l ls ih =>
    cases fs with
    | nil => cases h
    | cons f fs =>
      simp only [replay?] at h
      split at h
      · next hurl =>
        split at h
        · next hfull =>
          split at h
          · next hlast =>
            cases h
            rw [List.isEmpty_iff.1 hlast]
            exact .last ls hurl hfull
          · cases h
        · next hroom => exact .more hurl (Bool.eq_false_iff.2 hroom) (ih h)
      · cases h

/-! ## Identifiers -/

theorem issued_replay? {c : IdCursor} {ls : List ListSource} {fs : List Fetch}
    (h : Issued c p.cursor p.rules) (hreplay : p.replay? limits ls fs = some q) :
    Issued c q.cursor q.rules := by
  replace hreplay := replays_of_eq hreplay
  induction hreplay with
  | done p => exact h
  | last ls url full => exact issued_takeList h _ _ _
  | more url room rest ih => exact ih (issued_takeList h _ _ _)

/-! ## Lists -/

/-- The keys of the lists that a pass has taken. -/
def takenKeys (p : Pass) : List String := p.taken.map (·.list.key)

theorem takenKeys_takeList (p : Pass) (l : ListSource) (download : Download) (now : Timestamp) :
    (p.takeList limits l download now).takenKeys = p.takenKeys ++ [l.key] := by
  cases download with
  | ok text => simp [takenKeys, Pass.takeList, ListSource.recordSuccess]
  | error e => simp [takenKeys, Pass.takeList, ListSource.recordFailure]

theorem taken_takeFilters (p : Pass) (filters : List CustomFilter) :
    (p.takeFilters limits filters).taken = p.taken := by
  induction filters generalizing p with
  | nil => rfl
  | cons f rest ih =>
    unfold takeFilters
    split
    · rfl
    · rw [ih]
      unfold takeFilter
      split <;> rfl

theorem key_settle (t : TakenList) (kept : Nat) : (t.settle kept).key = t.list.key := by
  unfold TakenList.settle
  split <;> rfl

theorem lists_commitOf (p : Pass) (filters : List CustomFilter) :
    (p.commitOf limits filters).lists =
      p.taken.map (·.settle (p.commitOf limits filters).rules.length) := by
  show (p.takeEnabled limits filters).taken.map _ = _
  rw [Pass.takeEnabled, taken_takeFilters]
  rfl

/-- A pass reports on the lists that it has taken. -/
theorem keys_commitOf (p : Pass) (filters : List CustomFilter) :
    (p.commitOf limits filters).lists.map (·.key) = p.takenKeys := by
  rw [lists_commitOf, List.map_map]
  apply List.map_congr_left
  intro t _
  exact key_settle t _

/-! ## What the rules depend on -/

/-- Two passes that have made the same rules, whatever they know of the lists. -/
def SameRules (p q : Pass) : Prop := p.cursor = q.cursor ∧ p.rules = q.rules

theorem SameRules.isFull (h : SameRules p q) : p.isFull limits = q.isFull limits := by
  simp [Pass.isFull, h.2]

theorem SameRules.takeList (h : SameRules p q) (l l' : ListSource) (download : Download)
    (now : Timestamp) :
    SameRules (p.takeList limits l download now) (q.takeList limits l' download now) := by
  cases download with
  | ok text => simp [SameRules, Pass.takeList, h.1, h.2]
  | error e => exact h

theorem SameRules.takeFilter (h : SameRules p q) (f : CustomFilter) :
    SameRules (p.takeFilter f) (q.takeFilter f) := by
  unfold Pass.takeFilter
  split
  · exact h
  · simp [SameRules, h.1, h.2]

theorem SameRules.takeFilters (h : SameRules p q) (filters : List CustomFilter) :
    SameRules (p.takeFilters limits filters) (q.takeFilters limits filters) := by
  induction filters generalizing p q with
  | nil => exact h
  | cons f rest ih =>
    simp only [Pass.takeFilters, h.isFull]
    split
    · exact h
    · exact ih (h.takeFilter f)

theorem SameRules.commitOf (h : SameRules p q) (filters : List CustomFilter) :
    (p.commitOf limits filters).rules = (q.commitOf limits filters).rules := by
  have hfilters : SameRules (p.takeFilters limits (filters.filter (·.enabled)))
      (q.takeFilters limits (filters.filter (·.enabled))) := h.takeFilters _
  show ((p.takeFilters limits _).live limits) = ((q.takeFilters limits _).live limits)
  unfold live
  rw [hfilters.2]

theorem SameRules.replay? {ls ls' : List ListSource} {fs : List Fetch} (h : SameRules p q)
    (hurls : ls.map (·.url) = ls'.map (·.url)) :
    Option.Rel SameRules (p.replay? limits ls fs) (q.replay? limits ls' fs) := by
  induction ls generalizing p q ls' fs with
  | nil =>
    have hnil : ls' = [] := List.map_eq_nil_iff.1 hurls.symm
    subst hnil
    cases fs with
    | nil => exact Option.Rel.some h
    | cons f fs => exact Option.Rel.none
  | cons l ls ih =>
    cases ls' with
    | nil => cases hurls
    | cons l' ls' =>
      rw [List.map_cons, List.map_cons, List.cons.injEq] at hurls
      cases fs with
      | nil => exact Option.Rel.none
      | cons f fs =>
        have htake : SameRules (p.takeList limits l f.download f.time)
            (q.takeList limits l' f.download f.time) := h.takeList l l' f.download f.time
        simp only [Pass.replay?, hurls.1, htake.isFull]
        split
        · split
          · split
            · exact Option.Rel.some htake
            · exact Option.Rel.none
          · exact ih htake hurls.2
        · exact Option.Rel.none

end Pass

namespace SyncState

variable {limits : Config.Rules} {s s' : SyncState} {fetched : List Fetch} {c : Commit}

/-- Two states in which the user chose the same of what rules are made from. -/
structure SameSettings (s s' : SyncState) : Prop where
  lists : s.lists.map (fun l => (l.url, l.enabled)) = s'.lists.map (fun l => (l.url, l.enabled))
  customFilters : s.customFilters = s'.customFilters
  protectionEnabled : s.protectionEnabled = s'.protectionEnabled

namespace SameSettings

theorem refl (s : SyncState) : SameSettings s s := ⟨rfl, rfl, rfl⟩

theorem symm (h : SameSettings s s') : SameSettings s' s :=
  ⟨h.lists.symm, h.customFilters.symm, h.protectionEnabled.symm⟩

theorem trans {s'' : SyncState} (h : SameSettings s s') (h' : SameSettings s' s'') :
    SameSettings s s'' :=
  ⟨h.lists.trans h'.lists, h.customFilters.trans h'.customFilters,
    h.protectionEnabled.trans h'.protectionEnabled⟩

theorem enabledUrls (h : SameSettings s s') :
    (s.lists.filter (·.enabled)).map (·.url) = (s'.lists.filter (·.enabled)).map (·.url) := by
  have hview : ∀ ls : List ListSource, (ls.filter (·.enabled)).map (·.url) =
      ((ls.map fun l => (l.url, l.enabled)).filter (·.2)).map (·.1) := by
    intro ls
    rw [List.filter_map, List.map_map]
    rfl
  rw [hview, hview, h.lists]

end SameSettings

/-- The rules that a pass commits depend on the user's choices alone. -/
theorem plan?_rules_congr (h : SameSettings s s') (hplan : s.plan? limits fetched = some c) :
    ∃ c', s'.plan? limits fetched = some c' ∧ c'.rules = c.rules := by
  unfold plan? at hplan ⊢
  rw [← h.protectionEnabled, ← h.customFilters]
  split at hplan
  · next hon =>
    rw [if_pos hon]
    obtain ⟨p, hp, rfl⟩ := Option.map_eq_some_iff.1 hplan
    have hrel : Option.Rel Pass.SameRules
        ((Pass.start limits).replay? limits (s.lists.filter (·.enabled)) fetched)
        ((Pass.start limits).replay? limits (s'.lists.filter (·.enabled)) fetched) :=
      Pass.SameRules.replay? ⟨rfl, rfl⟩ h.enabledUrls
    rw [hp] at hrel
    cases hq : (Pass.start limits).replay? limits (s'.lists.filter (·.enabled)) fetched with
    | none =>
      rw [hq] at hrel
      cases hrel
    | some q =>
      rw [hq] at hrel
      cases hrel with
      | some hsame => exact ⟨_, rfl, (hsame.commitOf s.customFilters).symm⟩
  · next hoff =>
    rw [if_neg hoff]
    exact ⟨c, hplan, rfl⟩

/-- What a pass commits may be live. -/
theorem admissible_plan? (hplan : s.plan? limits fetched = some c) :
    Admissible limits c.rules := by
  unfold plan? at hplan
  split at hplan
  · obtain ⟨p, hp, rfl⟩ := Option.map_eq_some_iff.1 hplan
    exact Pass.admissible_live
      (Pass.issued_takeEnabled (Pass.issued_replay? (Pass.issued_start limits) hp) _)
  · split at hplan
    · cases hplan
      exact Admissible.nil limits
    · cases hplan

/-- Without protection no rules are to be live. -/
theorem plan?_of_unprotected (h : s.protectionEnabled = false)
    (hplan : s.plan? limits fetched = some c) : c = {} := by
  unfold plan? at hplan
  rw [if_neg (by simp [h])] at hplan
  split at hplan
  · cases hplan
    rfl
  · cases hplan

end SyncState

end FilterSync
