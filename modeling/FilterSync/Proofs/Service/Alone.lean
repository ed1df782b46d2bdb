import FilterSync.Proofs.Service.LiveRules
import FilterSync.Proofs.Service.Unfinished
import FilterSync.Session.Run

/-!
# An operation by itself

An operation that runs while no other is under way never has to wait, whatever calls fail
and whatever is downloaded. `Alone` holds of it all the way: the locks it holds, the phase,
the record of its pass, what is stored, and whether a call has failed.

Main statements: `System.quiet_of_ended`, by which an operation finds nothing under way when
all others have ended, `Alone.step` and `Alone.ended`.
-/

namespace FilterSync

namespace Stage

/-! ## An operation by itself -/

/-- Runs an operation until it has ended or has to wait, while what surrounds it may be
different before every step. The history goes along. -/
def runAmid (config : Config) (who : Nat) (op : Operation) (world : Nat → Shared → Surroundings)
    (n : Nat) (stage : Stage) (s : Shared) (past : History) : Stage × Shared × History :=
  match _h : next config who op stage (s.amid (world n s)) with
  | none => (stage, s.amid (world n s), past)
  | some (stage', s') =>
    runAmid config who op world (n + 1) stage' s'
      (past.after config op stage (s.amid (world n s)) stage' s')
termination_by stage.rank
decreasing_by exact rank_next_lt _h

variable {config : Config} {who : Nat} {op : Operation} {world : Nat → Shared → Surroundings}
  {stage stage' : Stage} {s s' : Shared} {past : History}

theorem runAmid_of_none {n : Nat} (h : next config who op stage (s.amid (world n s)) = none) :
    runAmid config who op world n stage s past = (stage, s.amid (world n s), past) := by
  rw [runAmid]
  split
  · rfl
  · next hsome =>
    rw [h] at hsome
    cases hsome

theorem runAmid_of_some {n : Nat}
    (h : next config who op stage (s.amid (world n s)) = some (stage', s')) :
    runAmid config who op world n stage s past =
      runAmid config who op world (n + 1) stage' s'
        (past.after config op stage (s.amid (world n s)) stage' s') := by
  rw [runAmid]
  split
  · next hnone =>
    rw [h] at hnone
    cases hnone
  · next hsome =>
    rw [h] at hsome
    cases hsome
    rfl

/-- In surroundings that change by nothing but its own calls an operation runs as it does in
a session. -/
theorem runAmid_surroundings (n : Nat) (stage : Stage) (s : Shared) (past : History) :
    ∃ past', runAmid config who op (fun _ s => s.surroundings) n stage s past =
      ((run config who op stage s).1, (run config who op stage s).2, past') := by
  induction stage, s using Stage.run.induct config who op generalizing n past with
  | case1 stage s hnext =>
    have hrun : run config who op stage s = (stage, s) := by
      rw [run]
      split
      · rfl
      · next hsome =>
        rw [hnext] at hsome
        cases hsome
    rw [hrun]
    exact ⟨past, runAmid_of_none hnext⟩
  | case2 stage s stage' s' hnext ih =>
    have hrun : run config who op stage s = run config who op stage' s' := by
      rw [run]
      split
      · next hnone =>
        rw [hnext] at hnone
        cases hnone
      · next hsome =>
        rw [hnext] at hsome
        cases hsome
        rfl
    rw [hrun, runAmid_of_some hnext]
    exact ih _ _

end Stage

/-! ## The record of its pass -/

/-- Whether an operation has ended. -/
def Stage.isEnded : Stage → Bool
  | ended _ => true
  | _ => false

theorem Stage.isEnded_iff {stage : Stage} :
    stage.isEnded = true ↔ ∃ result, stage = .ended result := by
  constructor
  · intro h
    cases stage with
    | ended result => exact ⟨result, rfl⟩
    | atState | inState | atPass | taking | downloading | listing | replacing => cases h
  · rintro ⟨result, rfl⟩
    rfl

/-- The record of the only pass there is, in a stage of the operation that runs it: it works
for the state `own`. -/
structure OnRecord (config : Config) (initial : RuleStore) (own : SyncState) (stage : Stage)
    (rules : RuleStore) (passes : List PassRecord) : Prop where
  live : LiveAfter config.rules initial passes rules
  single : passes.length ≤ 1
  fresh : stage.holdsPass = false → stage.isEnded = false → passes = []
  follows : stage.holdsPass = true →
    ∃ r, passes = [r] ∧ stage.Follows config.rules rules r
  snapshot : ∀ r ∈ passes, ∀ state, r.snapshot = some state → state = own

/-- Unless it waits for a lock that is taken, an operation that has not ended makes a step. -/
theorem Stage.exists_next {config : Config} {who : Nat} {op : Operation} {stage : Stage}
    {s : Shared} (hstate : ∀ v, stage = atState v → s.stateHolder = none)
    (hpass : stage = atPass → s.passHolder = none) (going : stage.isEnded = false) :
    ∃ stage' s', next config who op stage s = some (stage', s') := by
  cases stage with
  | atState v => exact ⟨_, _, by rw [next, hstate v rfl]; rfl⟩
  | inState v => exact ⟨_, _, rfl⟩
  | atPass => exact ⟨_, _, by rw [next, hpass rfl]; rfl⟩
  | taking p left filters => cases left <;> exact ⟨_, _, rfl⟩
  | downloading p l left filters =>
    simp only [next]
    split <;> exact ⟨_, _, rfl⟩
  | listing c =>
    simp only [next]
    split
    · exact ⟨_, _, rfl⟩
    · split <;> exact ⟨_, _, rfl⟩
  | replacing live c =>
    simp only [next]
    split <;> exact ⟨_, _, rfl⟩
  | ended result => cases going

namespace Stage.Moves

variable {config : Config} {who : Nat} {op : Operation} {stage stage' : Stage} {s s' : Shared}
  {initial : RuleStore} {own : SyncState} {past : History}

theorem not_isEnded (move : Moves config who op stage s stage' s') : stage.isEnded = false := by
  cases move <;> rfl

theorem onRecord_pass (move : Moves config who op stage s stage' s')
    (h : OnRecord config initial own stage s.rules past.passes) (hholds : stage.holdsPass = true)
    (hsees : stage = inState .snapshot → ∀ found, s.states.load = .ok found →
      SyncState.completed config.lists found = own) :
    OnRecord config initial own stage' s'.rules
      (past.after config op stage s stage' s').passes := by
  obtain ⟨r, hpasses, hfollows⟩ := h.follows hholds
  have hlive := h.live
  have hsnapshot := h.snapshot r (by simp [hpasses])
  rw [hpasses] at hlive
  rw [History.passes_after_of_holdsPass hholds, hpasses, List.modifyHead_cons]
  refine ⟨move.liveAfter hholds hfollows hlive, Nat.le_refl 1, ?_, ?_, ?_⟩
  · -- a pass that is left has ended
    intro hleaves hgoes
    cases move.course with
    | outside before =>
      rw [hholds] at before
      cases before
    | enters before =>
      subst before
      cases hholds
    | inside before after =>
      rw [hleaves] at after
      cases after
    | leaves result before after =>
      subst after
      cases hgoes
  · intro _
    exact ⟨_, rfl, move.follows hholds hfollows⟩
  · intro r' hr' state hstate
    rw [List.mem_singleton.1 hr'] at hstate
    by_cases hstage : stage = inState .snapshot
    · subst hstage
      obtain ⟨found, hfound, rfl, -⟩ := move.load_snapshot hstate
      exact hsees rfl found hfound
    · rw [PassRecord.after_snapshot hstage] at hstate
      exact hsnapshot state hstate

theorem onRecord (move : Moves config who op stage s stage' s')
    (h : OnRecord config initial own stage s.rules past.passes)
    (hsees : stage = inState .snapshot → ∀ found, s.states.load = .ok found →
      SyncState.completed config.lists found = own) :
    OnRecord config initial own stage' s'.rules
      (past.after config op stage s stage' s').passes := by
  have hlive := h.live
  cases move.course with
  | outside before after elsewhere rules =>
    have hfresh := h.fresh before move.not_isEnded
    rw [hfresh, ← rules] at hlive
    rw [History.passes_after_of_not_holdsPass before elsewhere, hfresh]
    refine ⟨hlive, Nat.zero_le 1, fun _ _ => rfl, ?_, by simp⟩
    intro henters
    rw [after] at henters
    cases henters
  | enters before after free shared =>
    subst before after shared
    have hfresh := h.fresh rfl rfl
    rw [hfresh] at hlive
    show OnRecord _ _ _ _ _ ({} :: past.passes)
    rw [hfresh]
    refine ⟨(LiveAfter.cons_of_uncommitted rfl).2 hlive, Nat.le_refl 1, ?_, ?_, by simp⟩
    · intro hleaves
      cases hleaves
    · intro _
      exact ⟨{}, rfl, rfl⟩
  | inside before => exact move.onRecord_pass h before hsees
  | leaves result before => exact move.onRecord_pass h before hsees

end Stage.Moves

/-! ## Where nothing is under way -/

/-- Nothing is under way, and the stores can be read. -/
structure Shared.Quiet (s : Shared) (stored : Option SyncState) : Prop where
  passHolder : s.passHolder = none
  stateHolder : s.stateHolder = none
  phase : s.phase = .idle
  loaded : s.states.load = .ok stored
  keyed : s.rules.Keyed
  listed : ∃ live, s.rules.ids = .ok live

/-- No step leaves a state behind that cannot be read. -/
theorem Stage.Moves.readable {config : Config} {who : Nat} {op : Operation}
    {stage stage' : Stage} {s s' : Shared} (move : Moves config who op stage s stage' s')
    (h : ∃ found, s.states.load = .ok found) : ∃ found, s'.states.load = .ok found := by
  cases move with
  | enterState | enterPass | taken | requested | received | filled => exact h
  | unlisted | unlistable | nothing | listed | unreplaced | refused | replaced => exact h
  | changeFailed heq | mergeFailed heq =>
    rcases (Shared.updating_of_eq heq).load_of_error with hstates | ⟨found, -, hload⟩
    · rwa [hstates]
    · exact ⟨_, hload⟩
  | changed heq | merged heq =>
    obtain ⟨found, -, -, hload⟩ := (Shared.updating_of_eq heq).load_of_ok
    exact ⟨_, hload⟩
  | readFailed heq | snapshotFailed heq =>
    rwa [(Shared.reading_of_eq heq).states_of_error]
  | read heq | protect heq | unprotect heq =>
    obtain ⟨found, -, -, hload⟩ := (Shared.reading_of_eq heq).load_of_ok
    exact ⟨_, hload⟩

namespace System

variable {config : Config} {sys sys' : System}

theorem readable_step (h : ∃ found, sys.shared.states.load = .ok found)
    (hacts : Acts config sys sys') : ∃ found, sys'.shared.states.load = .ok found := by
  cases hacts with
  | begun op => exact h
  | surrounded w => exact h
  | advanced place move => exact move.readable h

/-- When all operations have ended, the next one finds nothing under way. -/
theorem Tracked.quiet {initial : RuleStore} {stored : Option SyncState}
    (h : Tracked config initial sys) (listed : ∃ live, initial.ids = .ok live)
    (loaded : sys.shared.states.load = .ok stored)
    (ended : ∀ a ∈ sys.activities, ∃ result, a.stage = .ended result) :
    sys.shared.Quiet stored := by
  have hpass : sys.shared.passHolder = none := by
    apply h.locked.pass.free
    intro a ha
    obtain ⟨result, hresult⟩ := ended a ha
    rw [hresult]
    rfl
  have hstate : sys.shared.stateHolder = none := by
    apply h.locked.state.free
    intro a ha
    obtain ⟨result, hresult⟩ := ended a ha
    rw [hresult]
    rfl
  exact ⟨hpass, hstate, h.locked.idle hpass, loaded, h.live.1, LiveAfter.listed h.live listed⟩

theorem quiet_of_ended {backend : Config.Backend} {states : StateStore} {turns : List Turn}
    (readable : ∃ stored, states.load = .ok stored)
    (h : (start (.new backend) states).play config turns = some sys)
    (ended : ∀ a ∈ sys.activities, ∃ result, a.stage = .ended result) :
    ∃ stored, sys.shared.Quiet stored := by
  obtain ⟨stored, hstored⟩ := play_invariant readable_step readable h
  obtain ⟨live, -, hlisted, -⟩ := RuleStore.holds_new backend
  exact ⟨stored, (tracked_play (RuleStore.keyed_new backend) h).quiet ⟨_, hlisted⟩ hstored ended⟩

end System

/-! ## A whole run -/

/-- An operation that runs by itself, in a stage, since the moment `before`. -/
structure Alone (config : Config) (op : Operation) (stored : Option SyncState) (before : Shared)
    (stage : Stage) (s : Shared) (past : History) : Prop where
  passHolder : s.passHolder.isSome = stage.holdsPass
  stateHolder : s.stateHolder.isSome = stage.holdsState
  phase : s.phase = stage.phase
  record : OnRecord config before.rules (op.change (SyncState.completed config.lists stored))
    stage s.rules past.passes
  stands : stage.Stands config op stored s.states past
  calls : Shared.Calls before s stage.hasFailed

theorem Hands.isSome_eq {who : Nat} {a b : Bool} {holder holder' : Option Nat}
    (h : Hands who a b holder holder') (hholder : holder.isSome = a) : holder'.isSome = b := by
  cases h with
  | stays => exact hholder
  | taken => rfl
  | given => rfl

theorem Stage.phase_of_not_holdsPass {stage : Stage} (h : stage.holdsPass = false) :
    stage.phase = .idle := by
  cases stage with
  | atState | inState | atPass | ended => rfl
  | taking | downloading | listing | replacing => cases h

namespace Alone

variable {config : Config} {who : Nat} {op : Operation} {stored : Option SyncState}
  {before s s' : Shared} {stage stage' : Stage} {past : History}

theorem start (quiet : before.Quiet stored) (op : Operation) :
    Alone config op stored before op.start before {} := by
  have hunfinished : Unfinished config.lists op stored before.states [] :=
    Or.inl ⟨rfl, Or.inl quiet.loaded⟩
  constructor
  · rw [quiet.passHolder, Stage.holdsPass_start]
    rfl
  · rw [quiet.stateHolder, Stage.holdsState_start]
    rfl
  · rw [quiet.phase]
    cases op <;> rfl
  · refine ⟨⟨quiet.keyed, rfl⟩, Nat.zero_le 1, fun _ _ => rfl, ?_, by simp⟩
    intro hholds
    rw [Stage.holdsPass_start] at hholds
    cases hholds
  · cases op with
    | refresh => exact ⟨rfl, hunfinished⟩
    | getState => exact ⟨rfl, rfl, hunfinished⟩
    | setListEnabled | setCustomFilters | setProtectionEnabled | countBlocked =>
      exact ⟨rfl, hunfinished⟩
  · have hgood : op.start.hasFailed = false := by cases op <;> rfl
    rw [hgood]
    exact .refl before

/-- The rule store serves the pass: before anything went live it lists what was there, and
it accepts the rules of the pass. -/
theorem serves (h : Alone config op stored before stage s past)
    (listed : ∃ live, before.rules.ids = .ok live) :
    (∀ c, stage = .listing c → ∃ live, s.rules.ids = .ok live) ∧
      ∀ live c, stage = .replacing live c → ∃ rules, s.rules.replace live c.rules = .ok rules := by
  have hlive := h.record.live
  constructor
  · rintro c rfl
    obtain ⟨r, hpasses, huncommitted, -⟩ := h.record.follows rfl
    rw [hpasses, LiveAfter.cons_of_uncommitted huncommitted] at hlive
    have hrules : s.rules = before.rules := hlive.2
    rw [hrules]
    exact listed
  · rintro live c rfl
    obtain ⟨r, -, -, hplan, hids⟩ := h.record.follows rfl
    obtain ⟨store, hstore, -, -⟩ :=
      RuleStore.replace_live hlive.1 hids (PassRecord.admissible_plan? hplan).nodup_ids
    exact ⟨store, hstore⟩

/-- What a pass that merges its findings has on record. -/
theorem merging (h : Alone config op stored before stage s past) {o : Outcome}
    (hstage : stage = .inState (.merge o)) : ∃ r c, past.passes = [r] ∧ r.committed = true ∧
      (op.change (SyncState.completed config.lists stored)).plan? config.rules r.fetched =
        some c ∧ o = c.outcome o.syncedAt := by
  subst hstage
  obtain ⟨r, hpasses, hcommitted, c, hplan, ho⟩ := h.record.follows rfl
  obtain ⟨state, hsnapshot, hplan⟩ := Option.bind_eq_some_iff.1 hplan
  rw [h.record.snapshot r (by simp [hpasses]) state hsnapshot] at hplan
  exact ⟨r, c, hpasses, hcommitted, hplan, ho⟩

theorem step (h : Alone config op stored before stage s past)
    (listed : ∃ live, before.rules.ids = .ok live)
    (move : stage.Moves config who op s stage' s') :
    Alone config op stored before stage' s' (past.after config op stage s stage' s') := by
  constructor
  · exact move.course.hands.isSome_eq h.passHolder
  · exact move.state_hands.isSome_eq h.stateHolder
  · cases move.course with
    | outside before after elsewhere rules phase =>
      rw [phase, h.phase, Stage.phase_of_not_holdsPass before, Stage.phase_of_not_holdsPass after]
    | enters before after free shared =>
      subst before after shared
      exact h.phase
    | inside before after phase => exact phase h.phase
    | leaves result before after phase => rw [phase, after]; rfl
  · apply move.onRecord h.record
    rintro rfl found hfound
    exact h.stands.2.completed_of_own hfound
  · exact move.stands h.stands (fun hholds => h.record.fresh hholds move.not_isEnded)
      fun o => h.merging
  · obtain ⟨found, hfound⟩ := h.stands.exists_load
    obtain ⟨hlist, hreplace⟩ := h.serves listed
    have hcalls := h.calls.trans (move.calls hfound hlist hreplace)
    have hgood : stage.hasFailed = false := by
      have hmoves := move.not_isEnded
      cases stage with
      | ended => cases hmoves
      | atState | inState | atPass | taking | downloading | listing | replacing => rfl
    rwa [hgood, Bool.false_or] at hcalls

theorem amid (h : Alone config op stored before stage s past) (w : Surroundings) :
    Alone config op stored before stage (s.amid w) past :=
  { h with }

/-- An operation that runs by itself never has to wait. -/
theorem ended (h : Alone config op stored before stage s past)
    (hnext : stage.next config who op s = none) : ∃ result, stage = .ended result := by
  by_contra hgoing
  have hstate : ∀ v, stage = .atState v → s.stateHolder = none := by
    rintro v rfl
    exact Option.not_isSome_iff_eq_none.1 (by rw [h.stateHolder]; exact Bool.false_ne_true)
  have hpass : stage = .atPass → s.passHolder = none := by
    rintro rfl
    exact Option.not_isSome_iff_eq_none.1 (by rw [h.passHolder]; exact Bool.false_ne_true)
  have hnot : stage.isEnded = false := by
    rw [← Bool.not_eq_true, Stage.isEnded_iff]
    exact hgoing
  have hsteps : ∃ stage' s', stage.next config who op s = some (stage', s') :=
    Stage.exists_next hstate hpass hnot
  obtain ⟨stage', s', hsome⟩ := hsteps
  rw [hnext] at hsome
  cases hsome

end Alone

end FilterSync
