import FilterSync.Proofs.Service.System

/-!
# The live rules

A pass makes live what its snapshot and its downloads say, all at once. `Stage.Follows`
says for each stage of a pass how far it has come with that; it speaks of the record of
the pass and of the rule store only, so that no other operation can disturb it. Between
listing the live rules and replacing them nobody else touches the rule store, as all who
do hold the lock of passes.

Main statements: `System.tracked_play` and `System.live_rules_of_last_commit`.
-/

namespace FilterSync

/-! ## What a pass is about to commit -/

theorem Pass.replay?_cons {limits : Config.Rules} {l : ListSource} {f : Fetch}
    (hurl : l.url = f.url) (p : Pass) (left : List ListSource) (more : List Fetch) :
    p.replay? limits (l :: left) (f :: more) =
      if (p.takeFetch limits l f).isFull limits then
        if more.isEmpty then some (p.takeFetch limits l f) else none
      else (p.takeFetch limits l f).replay? limits left more :=
  if_pos hurl

namespace PassRecord

/-- What the pass commits, if its downloads are those that it makes. -/
def plan? (limits : Config.Rules) (r : PassRecord) : Option Commit :=
  r.snapshot.bind (·.plan? limits r.fetched)

/-- The pass has become `p` by the downloads on record, with some lists left: whatever comes
next, replaying all downloads is going on from `p`. -/
def Underway (limits : Config.Rules) (r : PassRecord) (p : Pass) (left : List ListSource)
    (filters : List CustomFilter) : Prop :=
  ∃ state, r.snapshot = some state ∧ state.protectionEnabled = true ∧
    filters = state.customFilters ∧
    ∀ more, (Pass.start limits).replay? limits (state.lists.filter (·.enabled))
      (r.fetched ++ more) = p.replay? limits left more

namespace Underway

variable {limits : Config.Rules} {r : PassRecord} {p q : Pass} {l : ListSource}
  {left : List ListSource} {filters : List CustomFilter}

theorem begin {state : SyncState} (h : state.protectionEnabled = true) :
    Underway limits { snapshot := some state } (.start limits)
      (state.lists.filter (·.enabled)) state.customFilters :=
  ⟨state, rfl, h, rfl, fun _ => rfl⟩

/-- Once the downloads that are still made are known, so is what the pass commits. -/
theorem plan? {more : List Fetch} (h : Underway limits r p left filters)
    (hreplay : p.replay? limits left more = some q) :
    PassRecord.plan? limits { r with fetched := r.fetched ++ more } =
      some (q.commitOf limits filters) := by
  obtain ⟨state, hsnapshot, hon, rfl, hgoes⟩ := h
  simp only [PassRecord.plan?, hsnapshot, Option.bind_some, SyncState.plan?, hon, if_true]
  rw [hgoes more, hreplay]
  rfl

theorem plan?_of_nil (h : Underway limits r p [] filters) :
    PassRecord.plan? limits r = some (p.commitOf limits filters) := by
  have hplan : PassRecord.plan? limits { r with fetched := r.fetched ++ [] } =
      some (p.commitOf limits filters) := h.plan? rfl
  rwa [List.append_nil] at hplan

theorem plan?_of_full {f : Fetch} (h : Underway limits r p (l :: left) filters)
    (hurl : l.url = f.url) (full : (p.takeFetch limits l f).isFull limits = true) :
    PassRecord.plan? limits { r with fetched := r.fetched ++ [f] } =
      some ((p.takeFetch limits l f).commitOf limits filters) := by
  apply h.plan?
  rw [Pass.replay?_cons hurl, if_pos full]
  rfl

theorem take {f : Fetch} (h : Underway limits r p (l :: left) filters)
    (hurl : l.url = f.url) (room : (p.takeFetch limits l f).isFull limits = false) :
    Underway limits { r with fetched := r.fetched ++ [f] } (p.takeFetch limits l f) left
      filters := by
  obtain ⟨state, hsnapshot, hon, hfilters, hgoes⟩ := h
  refine ⟨state, hsnapshot, hon, hfilters, ?_⟩
  intro more
  -- the download of this list comes first among those that were still to come
  rw [List.append_assoc, List.singleton_append, hgoes (f :: more), Pass.replay?_cons hurl,
    room, if_neg Bool.false_ne_true]

end Underway

end PassRecord

/-- How a pass with the given record stands in a stage, over the given rule store. -/
def Stage.Follows (limits : Config.Rules) (store : RuleStore) (r : PassRecord) : Stage → Prop
  | atState .snapshot | inState .snapshot => r = {}
  | taking p left filters => r.committed = false ∧ r.Underway limits p left filters
  | downloading p l left filters =>
    r.committed = false ∧ r.Underway limits p (l :: left) filters
  | listing c => r.committed = false ∧ r.plan? limits = some c
  | replacing live c => r.committed = false ∧ r.plan? limits = some c ∧ store.ids = .ok live
  | atState (.merge o) | inState (.merge o) =>
    r.committed = true ∧ ∃ c, r.plan? limits = some c ∧ o = c.outcome o.syncedAt
  | _ => True

/-- The rule store over a series of passes: it holds what the last one that committed was to
make live, and is the initial one if none has. -/
def LiveAfter (limits : Config.Rules) (initial : RuleStore) (passes : List PassRecord)
    (store : RuleStore) : Prop :=
  store.Keyed ∧
    match passes.find? (·.committed) with
    | none => store = initial
    | some r => ∃ c, r.plan? limits = some c ∧ store.Holds c.rules

namespace LiveAfter

variable {limits : Config.Rules} {initial store : RuleStore} {r : PassRecord}
  {rest : List PassRecord}

theorem cons_of_uncommitted (h : r.committed = false) :
    LiveAfter limits initial (r :: rest) store ↔ LiveAfter limits initial rest store := by
  unfold LiveAfter
  rw [List.find?_cons_of_neg (by simp [h])]

theorem cons_of_committed {c : Commit} (hkeyed : store.Keyed) (h : r.committed = true)
    (hplan : r.plan? limits = some c) (hholds : store.Holds c.rules) :
    LiveAfter limits initial (r :: rest) store := by
  refine ⟨hkeyed, ?_⟩
  rw [List.find?_cons_of_pos (by simpa using h)]
  exact ⟨c, hplan, hholds⟩

/-- Over a store that could be listed at first, the store can always be listed. -/
theorem listed (h : LiveAfter limits initial rest store)
    (initially : ∃ live, initial.ids = .ok live) : ∃ live, store.ids = .ok live := by
  obtain ⟨-, hlive⟩ := h
  split at hlive
  · rwa [hlive]
  · obtain ⟨c, -, live, -, hids, -⟩ := hlive
    exact ⟨_, hids⟩

end LiveAfter

/-! ## One step of a pass -/

theorem PassRecord.admissible_plan? {limits : Config.Rules} {r : PassRecord} {c : Commit}
    (h : r.plan? limits = some c) : Admissible limits c.rules := by
  obtain ⟨state, -, hplan⟩ := Option.bind_eq_some_iff.1 h
  exact SyncState.admissible_plan? hplan

namespace Stage.Moves

variable {config : Config} {who : Nat} {op : Operation} {stage stage' : Stage} {s s' : Shared}
  {r : PassRecord}

/-- A pass follows its snapshot and its downloads with every step. -/
theorem follows (move : Moves config who op stage s stage' s')
    (hholds : stage.holdsPass = true) (h : stage.Follows config.rules s.rules r) :
    stage'.Follows config.rules s'.rules (r.after config stage s stage') := by
  cases move with
  | enterState v free => cases v <;> exact h
  | enterPass | changeFailed | changed | readFailed | read => cases hholds
  | snapshotFailed | unlisted | unlistable | unreplaced | refused => trivial
  | mergeFailed | merged => trivial
  | protect hread on =>
    obtain rfl : r = {} := h
    refine ⟨rfl, ?_⟩
    simp only [PassRecord.after, hread]
    exact .begin on
  | unprotect hread off =>
    obtain rfl : r = {} := h
    refine ⟨rfl, ?_⟩
    simp only [PassRecord.after, hread, PassRecord.plan?, Except.toOption, Option.bind_some,
      SyncState.plan?, off]
    rfl
  | taken p filters => exact ⟨h.1, h.2.plan?_of_nil⟩
  | requested p l left filters => exact h
  | received left filters room => exact ⟨h.1, h.2.take rfl room⟩
  | filled left filters full => exact ⟨h.1, h.2.plan?_of_full rfl full⟩
  | listed faults hids some => exact ⟨h.1, h.2, hids⟩
  | nothing faults hids none => exact ⟨rfl, _, h.2, rfl⟩
  | replaced faults hreplace => exact ⟨rfl, _, h.2.1, rfl⟩

/-- With every step of a pass the rule store holds what the last pass that committed was to
make live. -/
theorem liveAfter {initial : RuleStore} {rest : List PassRecord}
    (move : Moves config who op stage s stage' s') (hholds : stage.holdsPass = true)
    (h : stage.Follows config.rules s.rules r)
    (hlive : LiveAfter config.rules initial (r :: rest) s.rules) :
    LiveAfter config.rules initial (r.after config stage s stage' :: rest) s'.rules := by
  cases move with
  | enterState v free => exact hlive
  | enterPass | changeFailed | changed | readFailed | read => cases hholds
  | snapshotFailed hread | protect hread on | unprotect hread off =>
    -- the record is still empty, and gets a snapshot at most
    obtain rfl : r = {} := h
    have hrules := (Shared.reading_of_eq hread).stateOnly.rules
    have hrest := (LiveAfter.cons_of_uncommitted rfl).1 hlive
    exact (LiveAfter.cons_of_uncommitted rfl).2 (hrules ▸ hrest)
  | taken p filters => exact hlive
  | requested p l left filters => exact hlive
  | received | filled =>
    have hrest := (LiveAfter.cons_of_uncommitted h.1).1 hlive
    refine (LiveAfter.cons_of_uncommitted ?_).2 hrest
    exact h.1
  | unlisted | unlistable | listed | unreplaced | refused => exact hlive
  | nothing faults hids hnone =>
    refine LiveAfter.cons_of_committed hlive.1 rfl h.2 ?_
    rw [hnone]
    exact RuleStore.holds_nil hids
  | replaced faults hreplace =>
    -- all that is live was listed, and the new identifiers differ among themselves
    obtain ⟨-, hplan, hids⟩ := h
    obtain ⟨store, hstore, hkeyed, hholds⟩ :=
      RuleStore.replace_live hlive.1 hids (PassRecord.admissible_plan? hplan).nodup_ids
    rw [hreplace] at hstore
    cases hstore
    exact LiveAfter.cons_of_committed hkeyed rfl hplan hholds
  | mergeFailed h | merged h =>
    have hrules := (Shared.updating_of_eq h).stateOnly.rules
    exact hrules ▸ hlive

end Stage.Moves

/-! ## Runs -/

namespace System

/-- A system in which the pass under way follows its snapshot and its downloads, over the
rules that the last pass to commit made live. -/
structure Tracked (config : Config) (initial : RuleStore) (sys : System) : Prop where
  locked : Locked sys
  follows : ∀ (i : Nat) (a : Activity), sys.activities[i]? = some a →
    a.stage.holdsPass = true → ∃ r rest, sys.history.passes = r :: rest ∧
      a.stage.Follows config.rules sys.shared.rules r
  live : LiveAfter config.rules initial sys.history.passes sys.shared.rules

variable {config : Config} {initial : RuleStore} {sys sys' : System}

/-- What is done apart from the lock of passes leaves the pass under way as it is. -/
theorem Tracked.step_outside {who : Nat} {op : Operation} {stage stage' : Stage} {s' : Shared}
    (h : Tracked config initial sys) (place : sys.activities[who]? = some ⟨op, stage⟩)
    (move : stage.Moves config who op sys.shared stage' s') (before : stage.holdsPass = false)
    (after : stage'.holdsPass = false) (elsewhere : stage ≠ .atPass)
    (rules : s'.rules = sys.shared.rules) :
    Tracked config initial (sys.moved config who op stage stage' s') := by
  have hrules : (sys.moved config who op stage stage' s').shared.rules = sys.shared.rules := rules
  have hpasses : (sys.moved config who op stage stage' s').history.passes =
      sys.history.passes := passes_moved_of_not_holdsPass before elsewhere
  refine ⟨h.locked.step_moved place move, ?_, ?_⟩
  · intro i a hi ha
    rw [hpasses, hrules]
    rw [getElem?_moved place] at hi
    by_cases hwho : who = i
    · rw [if_pos hwho] at hi
      cases hi
      rw [after] at ha
      cases ha
    · rw [if_neg hwho] at hi
      exact h.follows i a hi ha
  · rw [hpasses, hrules]
    exact h.live

/-- With each step of the pass under way its record follows. -/
theorem Tracked.step_inside {who : Nat} {op : Operation} {stage stage' : Stage} {s' : Shared}
    (h : Tracked config initial sys) (place : sys.activities[who]? = some ⟨op, stage⟩)
    (move : stage.Moves config who op sys.shared stage' s') (before : stage.holdsPass = true) :
    Tracked config initial (sys.moved config who op stage stage' s') := by
  obtain ⟨r, rest, hcons, hfollows⟩ := h.follows who _ place before
  have hlive := h.live
  rw [hcons] at hlive
  have hpasses : (sys.moved config who op stage stage' s').history.passes =
      r.after config stage sys.shared stage' :: rest := by
    rw [passes_moved_of_holdsPass before, hcons]
    rfl
  refine ⟨h.locked.step_moved place move, ?_, ?_⟩
  · intro i a hi ha
    refine ⟨_, rest, hpasses, ?_⟩
    rw [getElem?_moved place] at hi
    by_cases hwho : who = i
    · rw [if_pos hwho] at hi
      cases hi
      exact move.follows before hfollows
    · rw [if_neg hwho] at hi
      exact absurd (h.locked.eq_of_holdsPass place hi before ha) hwho
  · rw [hpasses]
    exact move.liveAfter before hfollows hlive

/-- A pass begins with an empty record. -/
theorem Tracked.step_enters {who : Nat} {op : Operation}
    (h : Tracked config initial sys) (place : sys.activities[who]? = some ⟨op, .atPass⟩)
    (free : sys.shared.passHolder = none) :
    Tracked config initial (sys.moved config who op .atPass (.atState .snapshot)
      { sys.shared with passHolder := some who }) := by
  refine ⟨h.locked.step_moved place (.enterPass free), ?_,
    (LiveAfter.cons_of_uncommitted rfl).2 h.live⟩
  intro i a hi ha
  refine ⟨{}, sys.history.passes, rfl, ?_⟩
  rw [getElem?_moved place] at hi
  by_cases hwho : who = i
  · rw [if_pos hwho] at hi
    cases hi
    rfl
  · rw [if_neg hwho] at hi
    exact absurd free (h.locked.not_free hi ha)

theorem Tracked.step (h : Tracked config initial sys) (hacts : Acts config sys sys') :
    Tracked config initial sys' := by
  have hlocked := h.locked.step hacts
  cases hacts with
  | begun op =>
    refine ⟨hlocked, ?_, h.live⟩
    intro i a hi ha
    rcases getElem?_begun hi with hi | rfl
    · exact h.follows i a hi ha
    · rw [Stage.holdsPass_start] at ha
      cases ha
  | surrounded w => exact ⟨hlocked, h.follows, h.live⟩
  | advanced place move =>
    cases move.course with
    | outside before after elsewhere rules =>
      exact h.step_outside place move before after elsewhere rules
    | enters before after free shared =>
      subst before after shared
      exact h.step_enters place free
    | inside before => exact h.step_inside place move before
    | leaves result before => exact h.step_inside place move before

/-- In every run the pass under way follows its snapshot and its downloads. -/
theorem tracked_play {rules : RuleStore} {states : StateStore} {turns : List Turn}
    (hkeyed : rules.Keyed) (h : (start rules states).play config turns = some sys) :
    Tracked config rules sys := by
  refine play_invariant Tracked.step ?_ h
  refine ⟨locked_start rules states, ?_, hkeyed, rfl⟩
  intro i a hi
  cases hi

end System

end FilterSync
