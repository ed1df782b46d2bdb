import FilterSync.Proofs.Service.LiveRules

/-!
# Settings and live rules

A setting may be saved while a pass works for an older state. The pass then makes rules
live that the settings no longer ask for, but whoever saved the setting still waits for
the lock of passes: as long as settings and snapshot of the last pass differ, a pass is
owed. When everything has ended, none is.

Main statements: `System.settling_play` and `System.settled_rules`.
-/

namespace FilterSync

/-! ## What keeps the settings -/

namespace SyncState

theorem sameSettings_afterPass (s : SyncState) (o : Outcome) :
    (s.afterPass o).SameSettings s := by
  refine ⟨?_, rfl, rfl⟩
  apply mergeMetadata_map
  intro l m
  rfl

/-- An operation that is over after its own change has left the settings alone. -/
theorem sameSettings_change {op : Operation} {s state : SyncState}
    (h : op.afterChange state ≠ .atPass) : (op.change s).SameSettings s := by
  cases op with
  | countBlocked => exact ⟨rfl, rfl, rfl⟩
  | refresh | setListEnabled | setCustomFilters | setProtectionEnabled | getState =>
    exact absurd rfl h

end SyncState

/-- Apart from taking a snapshot, a step keeps the settings of a complete state, or leads to
the lock of passes. -/
theorem Stage.Moves.settings {config : Config} {who : Nat} {op : Operation}
    {stage stage' : Stage} {s s' : Shared} {state : SyncState}
    (move : Moves config who op stage s stage' s') (hstage : stage ≠ inState .snapshot)
    (hload : s.states.load = .ok (some state))
    (hcomplete : state.isMissingFrom config.lists = false) :
    ∃ state', s'.states.load = .ok (some state') ∧ state'.keys = state.keys ∧
      (state'.SameSettings state ∨ stage' = .atPass) := by
  have hsame : ∃ state', s.states.load = .ok (some state') ∧ state'.keys = state.keys ∧
      (state'.SameSettings state ∨ stage' = .atPass) :=
    ⟨state, hload, rfl, Or.inl (.refl state)⟩
  -- completing a complete state gives it back
  have hfound : ∀ found, s.states.load = .ok found →
      SyncState.completed config.lists found = state := by
    intro found hfound
    rw [hload] at hfound
    cases hfound
    exact SyncState.completed_some hcomplete
  cases move with
  | snapshotFailed | protect | unprotect => exact absurd rfl hstage
  | enterState | enterPass | taken | requested | received | filled => exact hsame
  | unlisted | unlistable | nothing | listed | unreplaced | refused | replaced => exact hsame
  | changeFailed h | mergeFailed h =>
    rcases (Shared.updating_of_eq h).load_of_error with hstates | ⟨found, hload', hcompleted⟩
    · rwa [← hstates] at hsame
    · rw [hfound found hload'] at hcompleted
      exact ⟨state, hcompleted, rfl, Or.inl (.refl state)⟩
  | @changed s s' state' h =>
    obtain ⟨found, hload', hstate, hsaved⟩ := (Shared.updating_of_eq h).load_of_ok
    rw [hfound found hload'] at hstate
    refine ⟨_, hsaved, by rw [hstate, SyncState.keys_change], ?_⟩
    by_cases hpass : op.afterChange state' = .atPass
    · exact Or.inr hpass
    · rw [hstate]
      exact Or.inl (SyncState.sameSettings_change hpass)
  | readFailed h =>
    have hstates := (Shared.reading_of_eq h).states_of_error
    rwa [← hstates] at hsame
  | read h =>
    obtain ⟨found, hload', rfl, hsaved⟩ := (Shared.reading_of_eq h).load_of_ok
    rw [hfound found hload'] at hsaved
    exact ⟨state, hsaved, rfl, Or.inl (.refl state)⟩
  | merged h =>
    obtain ⟨found, hload', rfl, hsaved⟩ := (Shared.updating_of_eq h).load_of_ok
    rw [hfound found hload'] at hsaved
    exact ⟨_, hsaved, SyncState.keys_afterPass _ _, Or.inl (SyncState.sameSettings_afterPass _ _)⟩

/-! ## Runs -/

namespace System

/-- Some operation waits for the lock of passes. -/
def Owes (sys : System) : Prop :=
  ∃ (i : Nat) (op : Operation), sys.activities[i]? = some ⟨op, .atPass⟩

/-- Unless another pass is owed, the settings are still those that the last pass worked for. -/
def Settling (config : Config) (sys : System) : Prop :=
  ∀ r snapshot, sys.history.passes.head? = some r → r.snapshot = some snapshot →
    ∃ state, sys.shared.states.load = .ok (some state) ∧
      state.isMissingFrom config.lists = false ∧ (state.SameSettings snapshot ∨ sys.Owes)

variable {config : Config} {sys sys' : System}

/-- A pass is still owed after a step that does not begin it. -/
theorem Owes.moved {who : Nat} {op : Operation} {stage stage' : Stage} {s' : Shared}
    (h : sys.Owes) (place : sys.activities[who]? = some ⟨op, stage⟩) (hstage : stage ≠ .atPass) :
    (sys.moved config who op stage stage' s').Owes := by
  obtain ⟨i, op', hi⟩ := h
  refine ⟨i, op', ?_⟩
  rw [getElem?_moved place]
  by_cases hwho : who = i
  · subst hwho
    rw [place] at hi
    cases hi
    exact absurd rfl hstage
  · rw [if_neg hwho]
    exact hi

/-- Reading its snapshot a pass catches up with the settings. -/
theorem settling_snapshot {who : Nat} {op : Operation} {stage' : Stage} {s' : Shared}
    (move : (Stage.inState .snapshot).Moves config who op sys.shared stage' s') :
    Settling config (sys.moved config who op (.inState .snapshot) stage' s') := by
  intro r snapshot hr hsnapshot
  rw [passes_moved_of_holdsPass rfl, List.head?_modifyHead] at hr
  obtain ⟨r₀, -, rfl⟩ := Option.map_eq_some_iff.1 hr
  obtain ⟨found, -, rfl, hload⟩ := move.load_snapshot hsnapshot
  exact ⟨_, hload, SyncState.isMissingFrom_completed _ _, Or.inl (.refl _)⟩

/-- Any other step of an operation that has the lock of passes or needs none keeps up. -/
theorem Settling.step_other {who : Nat} {op : Operation} {stage stage' : Stage} {s' : Shared}
    (h : Settling config sys) (place : sys.activities[who]? = some ⟨op, stage⟩)
    (move : stage.Moves config who op sys.shared stage' s') (hat : stage ≠ .atPass)
    (hstage : stage ≠ .inState .snapshot) :
    Settling config (sys.moved config who op stage stage' s') := by
  intro r snapshot hr hsnapshot
  -- the snapshot was on record before the step
  have hlast : ∃ r₀, sys.history.passes.head? = some r₀ ∧ r₀.snapshot = some snapshot := by
    cases hholds : stage.holdsPass with
    | true =>
      rw [passes_moved_of_holdsPass hholds, List.head?_modifyHead] at hr
      obtain ⟨r₀, hr₀, rfl⟩ := Option.map_eq_some_iff.1 hr
      rw [PassRecord.after_snapshot hstage] at hsnapshot
      exact ⟨r₀, hr₀, hsnapshot⟩
    | false =>
      rw [passes_moved_of_not_holdsPass hholds hat] at hr
      exact ⟨r, hr, hsnapshot⟩
  obtain ⟨r₀, hr₀, hsnapshot₀⟩ := hlast
  obtain ⟨state, hload, hcomplete, hsettings⟩ := h r₀ snapshot hr₀ hsnapshot₀
  obtain ⟨state', hload', hkeys, hkept⟩ := move.settings hstage hload hcomplete
  refine ⟨state', hload', SyncState.isMissingFrom_congr hkeys hcomplete, ?_⟩
  rcases hkept with hsame | rfl
  · rcases hsettings with hsnap | howes
    · exact Or.inl (hsame.trans hsnap)
    · exact Or.inr (howes.moved place hat)
  · -- whoever changed a setting now waits for its own pass
    refine Or.inr ⟨who, op, ?_⟩
    rw [getElem?_moved place, if_pos rfl]

theorem Settling.step (h : Settling config sys) (hacts : Acts config sys sys') :
    Settling config sys' := by
  cases hacts with
  | begun op =>
    intro r snapshot hr hsnapshot
    obtain ⟨state, hload, hcomplete, hsettings⟩ := h r snapshot hr hsnapshot
    refine ⟨state, hload, hcomplete, hsettings.imp_right ?_⟩
    rintro ⟨i, op', hi⟩
    obtain ⟨hlt, -⟩ := List.getElem?_eq_some_iff.1 hi
    refine ⟨i, op', ?_⟩
    show (sys.activities ++ _)[i]? = _
    rw [List.getElem?_append_left hlt]
    exact hi
  | surrounded w => exact h
  | @advanced who op stage stage' s' place move =>
    by_cases hat : stage = .atPass
    · -- the pass that begins has no snapshot yet
      subst hat
      intro r snapshot hr hsnapshot
      cases hr
      cases hsnapshot
    · by_cases hstage : stage = .inState .snapshot
      · subst hstage
        exact settling_snapshot move
      · exact h.step_other place move hat hstage

/-- In every run the settings are those of the last pass, or a pass is owed. -/
theorem settling_play {rules : RuleStore} {states : StateStore} {turns : List Turn}
    (h : (start rules states).play config turns = some sys) : Settling config sys := by
  refine play_invariant Settling.step ?_ h
  intro r snapshot hr
  cases hr

/-- When every operation has ended and the last pass committed, the live rules are what a
pass makes of the state as it is stored now, with the downloads of that pass. -/
theorem settled_rules {rules : RuleStore} {states : StateStore} {turns : List Turn}
    {r : PassRecord} (keyed : rules.Keyed)
    (h : (start rules states).play config turns = some sys)
    (ended : ∀ a ∈ sys.activities, ∃ result, a.stage = .ended result)
    (last : sys.history.passes.head? = some r) (committed : r.committed = true) :
    ∃ state c, sys.shared.states.load = .ok (some state) ∧
      state.plan? config.rules r.fetched = some c ∧ sys.shared.rules.Holds c.rules ∧
      (state.protectionEnabled = false → sys.shared.rules.rules = .ok []) := by
  obtain ⟨-, hlive⟩ := (tracked_play keyed h).live
  obtain ⟨rest, hpasses⟩ := List.head?_eq_some_iff.1 last
  rw [hpasses, List.find?_cons_of_pos (by simpa using committed)] at hlive
  obtain ⟨c, hplan, hholds⟩ := hlive
  obtain ⟨snapshot, hsnapshot, hplan⟩ := Option.bind_eq_some_iff.1 hplan
  obtain ⟨state, hload, -, hsettings⟩ := settling_play h r snapshot last hsnapshot
  have hsame : snapshot.SameSettings state := by
    rcases hsettings with hsame | ⟨i, op, hi⟩
    · exact hsame.symm
    · -- nothing waits for a lock when everything has ended
      obtain ⟨result, hresult⟩ := ended _ (List.mem_of_getElem? hi)
      cases hresult
  obtain ⟨c', hplan', hrules⟩ := SyncState.plan?_rules_congr hsame hplan
  rw [← hrules] at hholds
  refine ⟨state, c', hload, hplan', hholds, ?_⟩
  intro hoff
  obtain ⟨live, hlive, -, hperm, -⟩ := hholds
  rw [SyncState.plan?_of_unprotected hoff hplan', List.perm_nil] at hperm
  rw [hlive, hperm]

/-- A list is disabled while a refresh downloads it. The refresh makes its rules live all the
same, and the pass that the change brings about takes them away. -/
def disabledMeanwhile : List Turn :=
  [.surround (serving (fun _ => false) "||ads.example^\n@@||ok.example^"), .begin .refresh,
    .begin (.setListEnabled "a" false)] ++
  [.advance 0, .advance 0, .advance 0, .advance 0, .advance 1, .advance 1] ++
  List.replicate 6 (.advance 0) ++ List.replicate 8 (.advance 1)

theorem settled_rules_disabledMeanwhile :
    ∃ sys, (start (.new .memory) (.memory none)).play oneList disabledMeanwhile = some sys ∧
      ∃ state c, sys.shared.states.load = .ok (some state) ∧
        state.plan? oneList.rules [] = some c ∧ sys.shared.rules.Holds c.rules := by
  have hseen : ((start (.new .memory) (.memory none)).play oneList disabledMeanwhile).map
      (fun sys => (sys.history.passes.head?.map fun r => (r.fetched, r.committed),
        sys.activities.all fun a => a.stage matches .ended _)) =
      some (some ([], true), true) := by
    decide +kernel
  obtain ⟨sys, hplay, hseen⟩ := Option.map_eq_some_iff.1 hseen
  rw [Prod.mk.injEq, List.all_eq_true] at hseen
  obtain ⟨r, hlast, hr⟩ := Option.map_eq_some_iff.1 hseen.1
  rw [Prod.mk.injEq] at hr
  have hended : ∀ a ∈ sys.activities, ∃ result, a.stage = .ended result := by
    intro a ha
    have hmatches := hseen.2 a ha
    split at hmatches
    · next result heq => exact ⟨result, heq⟩
    · cases hmatches
  obtain ⟨state, c, hload, hplan, hholds, -⟩ :=
    settled_rules (RuleStore.keyed_new .memory) hplay hended hlast hr.2
  rw [hr.1] at hplan
  exact ⟨sys, hplay, state, c, hload, hplan, hholds⟩

end System

end FilterSync
