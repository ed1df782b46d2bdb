import FilterSync.Proofs.Pass.Choices
import FilterSync.Proofs.Service.Handling
import FilterSync.Proofs.Service.Noted
import FilterSync.Proofs.Service.Settled

/-!
# Rules do not depend on the past

A service may have gone through anything before: other lists and filters, failed calls, an
end in the middle of a pass. None of it shows in the rules that an operation leaves which runs
by itself and well. Whatever was live before was listed and is replaced; what is known of
earlier downloads is part of the state but no rule is made from it.

Main statement: `System.refresh_independent_of_past`.
-/

namespace FilterSync

/-! ## Stores that show the same -/

namespace RuleStore

/-- Two stores list the same rules and the same identifiers. -/
def Agree (store store' : RuleStore) : Prop :=
  ∃ live, store.rules = .ok live ∧ store'.rules = .ok live ∧
    store.ids = .ok (live.map (·.id)) ∧ store'.ids = .ok (live.map (·.id))

variable {store store' : RuleStore} {rules : List Rule}

theorem Holds.agree (h : store.Holds rules) (h' : store'.Holds rules) : store.Agree store' := by
  obtain ⟨live, hrules, hids, hperm, hsorted⟩ := h
  obtain ⟨live', hrules', hids', hperm', hsorted'⟩ := h'
  -- what is listed in order of identifiers is determined by what is in the store
  have hantisymm : ∀ a b : Rule, a ∈ live → b ∈ live' → a.id < b.id → b.id < a.id → a = b := by
    intro a b _ _ hab hba
    exact absurd (uint32_lt_trans hab hba) (UInt32.lt_irrefl a.id)
  obtain rfl : live = live' :=
    List.Perm.eq_of_pairwise hantisymm hsorted hsorted' (hperm.trans hperm'.symm)
  exact ⟨live, hrules, hrules', hids, hids'⟩

theorem Holds.listed (h : store.Holds rules) : ∃ live, store.ids = .ok live := by
  obtain ⟨live, -, hids, -⟩ := h
  exact ⟨_, hids⟩

theorem Holds.rules_of_nil (h : store.Holds []) : store.rules = .ok [] := by
  obtain ⟨live, hrules, -, hperm, -⟩ := h
  rwa [List.perm_nil.1 hperm] at hrules

/-- Replacing nothing by nothing changes nothing. -/
theorem replace_nil (store : RuleStore) : store.replace [] [] = .ok store := by
  cases store <;> rfl

end RuleStore

/-! ## Services with a past -/

namespace System

/-- What a service can have come to whose rule store nobody else writes: its operations have
their turns in any order, and at any moment it may end and be started again, with another
configuration. -/
inductive Reached (backend : Config.Backend) : Config → System → Prop
  | opened (config : Config) {states : StateStore} (readable : ∃ stored, states.load = .ok stored) :
      Reached backend config (start (.new backend) states)
  | acted {config : Config} {sys sys' : System} {t : Turn} (h : Reached backend config sys)
      (hact : sys.act config t = some sys') : Reached backend config sys'
  | restarted {config : Config} {sys : System} (h : Reached backend config sys)
      (config' : Config) :
      Reached backend config' (start sys.shared.rules.reopen sys.shared.states.reopen)

end System

theorem RuleStore.keyed_reopen {store : RuleStore} (h : store.Keyed) : store.reopen.Keyed := by
  cases store with
  | memory t => exact keyed_new .memory
  | database t => exact h

theorem RuleStore.listed_reopen {store : RuleStore} (h : ∃ live, store.ids = .ok live) :
    ∃ live, store.reopen.ids = .ok live := by
  cases store with
  | memory t => exact ⟨[], rfl⟩
  | database t => exact h

theorem StateStore.readable_reopen {store : StateStore} (h : ∃ stored, store.load = .ok stored) :
    ∃ stored, store.reopen.load = .ok stored := by
  cases store with
  | memory state => exact ⟨none, rfl⟩
  | database t => exact h

namespace System

variable {backend : Config.Backend} {config : Config} {sys sys' : System}
  {stored : Option SyncState}

theorem tracked_start {rules : RuleStore} {states : StateStore} (config : Config)
    (hkeyed : rules.Keyed) : Tracked config rules (start rules states) :=
  tracked_play hkeyed (rfl : (start rules states).play config [] = some _)

/-- Whatever a service has come to, its pass under way is on record, and its stores can be
read. -/
theorem Reached.tracked (h : Reached backend config sys) :
    (∃ initial, Tracked config initial sys ∧ ∃ live, initial.ids = .ok live) ∧
      ∃ stored, sys.shared.states.load = .ok stored := by
  induction h with
  | opened config readable =>
    obtain ⟨live, -, hids, -⟩ := RuleStore.holds_new backend
    exact ⟨⟨_, tracked_start config (RuleStore.keyed_new backend), _, hids⟩, readable⟩
  | acted h hact ih =>
    obtain ⟨⟨initial, htracked, hlisted⟩, hreadable⟩ := ih
    have hacts := acts_of_act hact
    exact ⟨⟨initial, htracked.step hacts, hlisted⟩, readable_step hreadable hacts⟩
  | restarted h config' ih =>
    obtain ⟨⟨initial, htracked, hlisted⟩, hreadable⟩ := ih
    have hkeyed := RuleStore.keyed_reopen htracked.live.1
    have hlisted' := RuleStore.listed_reopen (LiveAfter.listed htracked.live hlisted)
    exact ⟨⟨_, tracked_start config' hkeyed, hlisted'⟩, StateStore.readable_reopen hreadable⟩

theorem Reached.quiet (h : Reached backend config sys)
    (ended : ∀ a ∈ sys.activities, ∃ result, a.stage = .ended result)
    (loaded : sys.shared.states.load = .ok stored) : sys.shared.Quiet stored := by
  obtain ⟨⟨initial, htracked, hlisted⟩, -⟩ := h.tracked
  exact htracked.quiet hlisted loaded ended

/-! ## One operation by itself -/

/-- Whether a turn leaves all operations but one where they are. -/
def Turn.isOf (who : Nat) : Turn → Bool
  | begin _ => false
  | advance i => i = who
  | surround _ => true

/-- What the steps of one operation keep, in any surroundings, holds after its turns. -/
theorem play_of_one {P : Stage → Shared → History → Prop} {who : Nat} {op : Operation}
    {stage : Stage} {turns : List Turn}
    (hamid : ∀ stage s past w, P stage s past → P stage (s.amid w) past)
    (hstep : ∀ stage s past stage' s', P stage s past → stage.Moves config who op s stage' s' →
      P stage' s' (past.after config op stage s stage' s'))
    (hturns : ∀ t ∈ turns, t.isOf who = true)
    (hplay : sys.play config turns = some sys') (place : sys.activities[who]? = some ⟨op, stage⟩)
    (h : P stage sys.shared sys.history) :
    ∃ stage', sys'.activities[who]? = some ⟨op, stage'⟩ ∧ P stage' sys'.shared sys'.history := by
  induction turns generalizing sys stage with
  | nil =>
    cases hplay
    exact ⟨stage, place, h⟩
  | cons t turns ih =>
    obtain ⟨next, hact, hrest⟩ := Option.bind_eq_some_iff.1 hplay
    have hothers : ∀ t ∈ turns, t.isOf who = true :=
      fun t ht => hturns t (List.mem_cons_of_mem _ ht)
    have hown := hturns t List.mem_cons_self
    cases t with
    | begin op' => cases hown
    | surround w =>
      cases hact
      exact ih hothers hrest place (hamid _ _ _ w h)
    | advance i =>
      obtain rfl : i = who := of_decide_eq_true hown
      obtain ⟨a, hplace, hact⟩ := Option.bind_eq_some_iff.1 hact
      rw [place] at hplace
      cases hplace
      obtain ⟨⟨stage', s'⟩, hnext, hact⟩ := Option.bind_eq_some_iff.1 hact
      cases hact
      refine ih hothers hrest ?_ (hstep _ _ _ _ _ h (Stage.moves_of_next hnext))
      rw [getElem?_moved place, if_pos rfl]

/-- An operation that runs by itself, with the records of older passes behind its own. -/
def AloneAmong (config : Config) (op : Operation) (stored : Option SyncState) (before : Shared)
    (older : List PassRecord) (stage : Stage) (s : Shared) (past : History) : Prop :=
  ∃ own, Alone config op stored before stage s own ∧ stage.Answers op own ∧
    past.passes = own.passes ++ older

theorem AloneAmong.step {who : Nat} {op : Operation} {before s s' : Shared}
    {older : List PassRecord} {stage stage' : Stage} {past : History}
    (h : AloneAmong config op stored before older stage s past)
    (listed : ∃ live, before.rules.ids = .ok live)
    (move : stage.Moves config who op s stage' s') :
    AloneAmong config op stored before older stage' s'
      (past.after config op stage s stage' s') := by
  obtain ⟨own, halone, -, hpasses⟩ := h
  refine ⟨_, halone.step listed move, move.answers halone.stands, ?_⟩
  by_cases hat : stage = .atPass
  · subst hat
    show {} :: past.passes = ({} :: own.passes) ++ older
    rw [hpasses]
    rfl
  · cases hholds : stage.holdsPass with
    | true =>
      -- the record in front is its own
      obtain ⟨r, hr, -⟩ := halone.record.follows hholds
      rw [History.passes_after_of_holdsPass hholds, History.passes_after_of_holdsPass hholds,
        hpasses, hr]
      rfl
    | false =>
      rw [History.passes_after_of_not_holdsPass hholds hat,
        History.passes_after_of_not_holdsPass hholds hat, hpasses]

/-- An operation begins, runs by itself and ends, no call fails, and its downloads give these
answers in order, as far as it makes them. -/
structure RunsWell (config : Config) (op : Operation) (answers : Nat → Download)
    (sys sys' : System) : Prop where
  alone : ∃ turns, (∀ t ∈ turns, t.isOf sys.activities.length = true) ∧
    sys.play config (.begin op :: turns) = some sys'
  ended : ∃ result, sys'.activities[sys.activities.length]? = some ⟨op, .ended result⟩
  calls : Shared.Calls sys.shared sys'.shared false
  answered : ∀ r, sys'.history.passes.head? = some r → Fetch.Gave answers r.fetched

namespace RunsWell

variable {op : Operation} {answers : Nat → Download}

/-- What holds of an operation in each stage while it runs by itself holds when it has ended. -/
theorem exists_stage {P : Stage → Shared → History → Prop}
    (h : RunsWell config op answers sys sys')
    (hamid : ∀ stage s past w, P stage s past → P stage (s.amid w) past)
    (hstep : ∀ who stage s past stage' s', P stage s past →
      stage.Moves config who op s stage' s' → P stage' s' (past.after config op stage s stage' s'))
    (hstart : P op.start sys.shared sys.history) :
    ∃ result, sys'.activities[sys.activities.length]? = some ⟨op, .ended result⟩ ∧
      P (.ended result) sys'.shared sys'.history := by
  obtain ⟨turns, hturns, hplay⟩ := h.alone
  obtain ⟨begun, hact, hrest⟩ := Option.bind_eq_some_iff.1 hplay
  cases hact
  have hplace : (sys.activities ++ [⟨op, op.start⟩])[sys.activities.length]? =
      some ⟨op, op.start⟩ := List.getElem?_concat_length
  obtain ⟨stage, hstage, hend⟩ := play_of_one hamid (hstep _) hturns hrest hplace hstart
  obtain ⟨result, hresult⟩ := h.ended
  rw [hresult] at hstage
  cases hstage
  exact ⟨result, hresult, hend⟩

/-- An operation that runs well does all that it is for. -/
theorem handled (h : RunsWell config op answers sys sys') (quiet : sys.shared.Quiet stored) :
    ∃ answer own calls, sys'.activities[sys.activities.length]? = some ⟨op, .ended (.ok answer)⟩ ∧
      sys'.history.passes = own.passes ++ sys.history.passes ∧
      (Stage.ended (.ok answer)).Answers op own ∧
      Handled config op stored sys.shared calls (.ok answer) sys'.shared own ∧
      Finished config op stored sys'.shared.states own ∧ sys'.shared.rules.Keyed := by
  have hrun : ∃ result, sys'.activities[sys.activities.length]? = some ⟨op, .ended result⟩ ∧
      AloneAmong config op stored sys.shared sys.history.passes (.ended result) sys'.shared
        sys'.history := by
    apply h.exists_stage
    · rintro stage s past w ⟨own, halone, hanswers, hpasses⟩
      exact ⟨own, halone.amid w, hanswers, hpasses⟩
    · intro who stage s past stage' s' hamong move
      exact hamong.step quiet.listed move
    · have hstart : op.start.Answers op {} := by cases op <;> trivial
      exact ⟨{}, Alone.start quiet op, hstart, rfl⟩
  obtain ⟨result, hended, own, halone, hanswers, hpasses⟩ := hrun
  obtain ⟨calls, hevents, hnone⟩ := h.calls
  obtain ⟨calls', hevents', hfailed⟩ := halone.calls
  -- there is only one way to cut the new calls off the old ones
  obtain rfl : calls = calls' := List.append_cancel_right (hevents.symm.trans hevents')
  have hhandled := halone.handled hfailed
  have hgood : (Operation.response result).ok = true := by
    rw [hhandled.answer]
    intro e he
    simpa using List.any_eq_false.1 hnone e he
  cases result with
  | error e => cases hgood
  | ok answer =>
    exact ⟨answer, own, calls, hended, hpasses, hanswers, hhandled, hhandled.finished hgood,
      halone.record.live.1⟩

/-- A pass that runs well leaves what its state and its downloads say, answers that, and is the
last word on both stores. -/
theorem recorded (h : RunsWell config op answers sys sys') (quiet : sys.shared.Quiet stored)
    (pass : op ≠ .getState ∧ op ≠ .countBlocked) :
    ∃ r c time, sys'.history.passes.head? = some r ∧ Fetch.Gave answers r.fetched ∧
      (op.change (SyncState.completed config.lists stored)).plan? config.rules r.fetched =
        some c ∧
      sys'.shared.rules.Holds c.rules ∧
      sys'.activities[sys.activities.length]? =
        some ⟨op, .ended (.ok (op.afterPass (c.outcome time)))⟩ ∧
      sys'.shared.Quiet (some ((op.change (SyncState.completed config.lists stored)).afterPass
        (c.outcome time))) := by
  obtain ⟨answer, own, calls, hended, hpasses, hanswers, hhandled, hfinished, hkeyed⟩ :=
    h.handled quiet
  rcases hfinished with ⟨hnopass, -⟩ | ⟨r, c, time, hr, hcommitted, hplan, hsaved, hload⟩
  · exact absurd hnopass (not_or.2 pass)
  · obtain ⟨c', hplan', hholds⟩ := hhandled.committed r (by simp [hr]) hcommitted
    rw [hplan] at hplan'
    cases hplan'
    have hlast : sys'.history.passes.head? = some r := by
      rw [hpasses, hr]
      rfl
    have hanswer : answer = op.afterPass (c.outcome time) := by
      rcases hanswers with hget | hcount | ⟨o, ho, hlast⟩
      · exact absurd hget pass.1
      · exact absurd hcount pass.2
      · rw [hsaved, List.getLast?_concat] at hlast
        cases hlast
        exact ho
    rw [hanswer] at hended
    exact ⟨r, c, time, hlast, h.answered r hlast, hplan, hholds, hended, hhandled.passHolder,
      hhandled.stateHolder, hhandled.phase, hload, hkeyed, hholds.listed⟩

theorem leaves (h : RunsWell config op answers sys sys') (quiet : sys.shared.Quiet stored)
    (pass : op ≠ .getState ∧ op ≠ .countBlocked) :
    ∃ fetched c time, Fetch.Gave answers fetched ∧
      (op.change (SyncState.completed config.lists stored)).plan? config.rules fetched = some c ∧
      sys'.shared.rules.Holds c.rules ∧
      sys'.shared.Quiet (some ((op.change (SyncState.completed config.lists stored)).afterPass
        (c.outcome time))) := by
  obtain ⟨r, c, time, -, hgave, hplan, hholds, -, hquiet⟩ := h.recorded quiet pass
  exact ⟨r.fetched, c, time, hgave, hplan, hholds, hquiet⟩

/-- Two passes that run well over states with the same choices leave the same rules. -/
theorem agree {config' : Config} {op' : Operation} {sys₁ sys₁' : System}
    {stored' : Option SyncState} (limits : config.rules = config'.rules)
    (h : RunsWell config op answers sys sys') (h' : RunsWell config' op' answers sys₁ sys₁')
    (quiet : sys.shared.Quiet stored) (quiet' : sys₁.shared.Quiet stored')
    (pass : op ≠ .getState ∧ op ≠ .countBlocked) (pass' : op' ≠ .getState ∧ op' ≠ .countBlocked)
    (same : (op.change (SyncState.completed config.lists stored)).SameChoices
      (op'.change (SyncState.completed config'.lists stored'))) :
    sys'.shared.rules.Agree sys₁'.shared.rules := by
  obtain ⟨fetched, c, -, hgave, hplan, hholds, -⟩ := h.leaves quiet pass
  obtain ⟨fetched', c', -, hgave', hplan', hholds', -⟩ := h'.leaves quiet' pass'
  rw [← limits] at hplan'
  have hrules := SyncState.rules_of_sameChoices same hgave hgave' hplan hplan'
  rw [← hrules] at hholds'
  exact hholds.agree hholds'

end RunsWell

/-! ## Doing it again -/

/-- What a pass stores is complete, and chooses what its state did. -/
theorem completed_of_pass (catalog : List CatalogEntry) (stored : Option SyncState)
    (op : Operation) (o : Outcome) :
    (SyncState.completed catalog (some ((op.change (SyncState.completed catalog stored)).afterPass
      o))).SameChoices (op.change (SyncState.completed catalog stored)) := by
  have hkeys : ((op.change (SyncState.completed catalog stored)).afterPass o).keys =
      (SyncState.completed catalog stored).keys := by
    rw [SyncState.keys_afterPass, SyncState.keys_change]
  have hcomplete := SyncState.isMissingFrom_congr hkeys (SyncState.isMissingFrom_completed _ _)
  rw [SyncState.completed_some hcomplete]
  exact (SyncState.sameSettings_afterPass _ o).sameChoices

/-- A refresh after a pass leaves the rules of that pass. -/
theorem RunsWell.refresh_again {op : Operation} {answers : Nat → Download} {again : System}
    (h : RunsWell config op answers sys sys') (h' : RunsWell config .refresh answers sys' again)
    (quiet : sys.shared.Quiet stored) (pass : op ≠ .getState ∧ op ≠ .countBlocked) :
    again.shared.rules.Agree sys'.shared.rules := by
  obtain ⟨fetched, c, time, -, -, -, hquiet⟩ := h.leaves quiet pass
  exact h'.agree rfl h hquiet quiet ⟨by simp, by simp⟩ pass (completed_of_pass _ _ op _)

end System

/-! ## Without protection -/

/-- No download was asked for between two moments. -/
def Shared.DownloadsNothing (s s' : Shared) : Prop :=
  ∃ calls, s'.events = calls ++ s.events ∧ ∀ e ∈ calls, ∀ url phase, e.call ≠ .fetch url phase

theorem Shared.DownloadsNothing.step {before s s' : Shared} {stage : Stage}
    (h : before.DownloadsNothing s) (hmakes : stage.MakesOnly s s')
    (hstage : ∀ p left filters, stage ≠ .taking p left filters) : before.DownloadsNothing s' := by
  obtain ⟨calls, hevents, hnone⟩ := h
  obtain ⟨calls', hevents', hmakes⟩ := hmakes
  refine ⟨calls' ++ calls, ?_, ?_⟩
  · rw [hevents', hevents, List.append_assoc]
  · intro e he url phase hfetch
    rcases List.mem_append.1 he with he | he
    · have hmade := hmakes e he
      rw [hfetch] at hmade
      obtain ⟨-, p, l, left, filters, htaking, -⟩ := hmade
      exact hstage p (l :: left) filters htaking
    · exact hnone e he url phase hfetch

/-- An operation whose state is without protection takes no lists. -/
theorem Alone.not_taking {config : Config} {op : Operation} {stored : Option SyncState}
    {before s : Shared} {stage : Stage} {past : History}
    (h : Alone config op stored before stage s past)
    (off : (op.change (SyncState.completed config.lists stored)).protectionEnabled = false)
    (p : Pass) (left : List ListSource) (filters : List CustomFilter) :
    stage ≠ .taking p left filters := by
  rintro rfl
  obtain ⟨r, hpasses, -, state, hsnapshot, on, -⟩ := h.record.follows rfl
  rw [h.record.snapshot r (by simp [hpasses]) state hsnapshot, off] at on
  cases on

namespace System

variable {config : Config} {sys sys' : System} {stored : Option SyncState}
  {answers : Nat → Download}

/-- Taking protection away empties the rules, downloads nothing, and leaves the lists alone. -/
theorem RunsWell.unprotects
    (h : RunsWell config (.setProtectionEnabled false) answers sys sys')
    (quiet : sys.shared.Quiet stored) :
    sys'.shared.rules.rules = .ok [] ∧ sys.shared.DownloadsNothing sys'.shared ∧
      ∃ state, sys'.shared.states.load = .ok (some state) ∧
        state.lists = (SyncState.completed config.lists stored).lists := by
  have off : ((Operation.setProtectionEnabled false).change
      (SyncState.completed config.lists stored)).protectionEnabled = false := rfl
  obtain ⟨fetched, c, time, -, hplan, hholds, hquiet⟩ := h.leaves quiet ⟨by simp, by simp⟩
  obtain rfl : c = {} := SyncState.plan?_of_unprotected off hplan
  refine ⟨hholds.rules_of_nil, ?_, _, hquiet.loaded, rfl⟩
  have hrun : ∃ result, sys'.activities[sys.activities.length]? =
        some ⟨.setProtectionEnabled false, .ended result⟩ ∧
      (∃ own, Alone config (.setProtectionEnabled false) stored sys.shared (.ended result)
        sys'.shared own) ∧ sys.shared.DownloadsNothing sys'.shared := by
    apply h.exists_stage (P := fun stage s _ => (∃ own, Alone config (.setProtectionEnabled false)
      stored sys.shared stage s own) ∧ sys.shared.DownloadsNothing s)
    · rintro stage s past w ⟨⟨own, halone⟩, hnone⟩
      exact ⟨⟨own, halone.amid w⟩, hnone⟩
    · rintro who stage s past stage' s' ⟨⟨own, halone⟩, hnone⟩ move
      exact ⟨⟨_, halone.step quiet.listed move⟩, hnone.step move.makes (halone.not_taking off)⟩
    · exact ⟨⟨{}, Alone.start quiet _⟩, [], rfl, by simp⟩
  obtain ⟨result, -, -, hnone⟩ := hrun
  exact hnone

/-- Giving protection back after taking it away leaves the rules of a refresh. -/
theorem RunsWell.protects_again {off after : System} {noAnswers : Nat → Download}
    (h : RunsWell config (.setProtectionEnabled false) noAnswers sys off)
    (h' : RunsWell config (.setProtectionEnabled true) answers off sys')
    (refreshed : RunsWell config .refresh answers sys after) (quiet : sys.shared.Quiet stored)
    (on : (SyncState.completed config.lists stored).protectionEnabled = true) :
    sys'.shared.rules.Agree after.shared.rules := by
  obtain ⟨fetched, c, time, -, -, -, hquiet⟩ := h.leaves quiet ⟨by simp, by simp⟩
  refine h'.agree rfl refreshed hquiet quiet ⟨by simp, by simp⟩ ⟨by simp, by simp⟩ ?_
  -- between the two changes the state differs from the old one in its protection alone
  have hsame := completed_of_pass config.lists stored (.setProtectionEnabled false)
    (c.outcome time)
  exact ⟨on.symm, hsame.urls, hsame.filters⟩

end System

/-- Where a pass goes on without replacing anything, replacing would have changed nothing. -/
theorem Stage.replace_of_skipped {config : Config} {who : Nat} {op : Operation} {c : Commit}
    {o : Outcome} {s s' : Shared}
    (h : Stage.next config who op (.listing c) s = some (.atState (.merge o), s')) :
    s.rules.ids = .ok [] ∧ c.rules = [] ∧ s.rules.replace [] c.rules = .ok s'.rules := by
  cases Stage.moves_of_next h with
  | nothing faults hids hnone =>
    refine ⟨hids, hnone, ?_⟩
    rw [hnone]
    exact s.rules.replace_nil

namespace System

variable {backend backend' : Config.Backend} {config config' : Config}
  {sys sys' after after' : System} {stored stored' : Option SyncState} {answers : Nat → Download}

/-- Two services that have nothing under way, whatever they have gone through, and whose
states choose the same hold the same rules after a refresh that runs well and downloads the
same. So a second refresh changes no rule; taking protection away empties the rules, and giving
it back leaves those of a refresh. Where there was nothing to replace, leaving the store alone
is replacing. -/
theorem refresh_independent_of_past (limits : config.rules = config'.rules)
    (reached : Reached backend config sys) (reached' : Reached backend' config' sys')
    (idle : ∀ a ∈ sys.activities, ∃ result, a.stage = .ended result)
    (idle' : ∀ a ∈ sys'.activities, ∃ result, a.stage = .ended result)
    (loaded : sys.shared.states.load = .ok stored)
    (loaded' : sys'.shared.states.load = .ok stored')
    (same : (SyncState.completed config.lists stored).SameChoices
      (SyncState.completed config'.lists stored'))
    (refreshed : RunsWell config .refresh answers sys after)
    (refreshed' : RunsWell config' .refresh answers sys' after') :
    after.shared.rules.Agree after'.shared.rules ∧
    (∀ again, RunsWell config .refresh answers after again →
      again.shared.rules.Agree after.shared.rules) ∧
    (∀ off noAnswers, RunsWell config (.setProtectionEnabled false) noAnswers sys off →
      off.shared.rules.rules = .ok [] ∧ sys.shared.DownloadsNothing off.shared ∧
      (∃ state, off.shared.states.load = .ok (some state) ∧
        state.lists = (SyncState.completed config.lists stored).lists) ∧
      ∀ on, RunsWell config (.setProtectionEnabled true) answers off on →
        ((SyncState.completed config.lists stored).protectionEnabled = true →
          on.shared.rules.Agree after.shared.rules) ∧
        ∀ again, RunsWell config .refresh answers on again →
          again.shared.rules.Agree on.shared.rules) ∧
    ∀ (who : Nat) (op : Operation) (c : Commit) (o : Outcome) (s s' : Shared),
      Stage.next config who op (.listing c) s = some (.atState (.merge o), s') →
        s.rules.ids = .ok [] ∧ c.rules = [] ∧ s.rules.replace [] c.rules = .ok s'.rules := by
  have hquiet := reached.quiet idle loaded
  have hquiet' := reached'.quiet idle' loaded'
  have hrefresh : Operation.refresh ≠ .getState ∧ Operation.refresh ≠ .countBlocked :=
    ⟨by simp, by simp⟩
  refine ⟨?_, ?_, ?_, ?_⟩
  · exact refreshed.agree limits refreshed' hquiet hquiet' hrefresh hrefresh same
  · intro again hagain
    exact refreshed.refresh_again hagain hquiet hrefresh
  · intro off noAnswers hoff
    obtain ⟨hempty, hnone, hlists⟩ := hoff.unprotects hquiet
    refine ⟨hempty, hnone, hlists, ?_⟩
    intro on hon
    constructor
    · intro hprotected
      exact hoff.protects_again hon refreshed hquiet hprotected
    · intro again hagain
      obtain ⟨_, _, _, -, -, -, hquietOff⟩ := hoff.leaves hquiet ⟨by simp, by simp⟩
      exact hon.refresh_again hagain hquietOff ⟨by simp, by simp⟩
  · intro who op c o s s' hskipped
    exact Stage.replace_of_skipped hskipped

/-! ## An old service and a new one -/

theorem Reached.play {turns : List Turn} (h : Reached backend config sys)
    (hplay : sys.play config turns = some sys') : Reached backend config sys' := by
  induction turns generalizing sys with
  | nil =>
    cases hplay
    exact h
  | cons t turns ih =>
    obtain ⟨next, hact, hrest⟩ := Option.bind_eq_some_iff.1 hplay
    exact ih (h.acted hact) hrest

/-- Whether an operation that has begun last has ended with no call failed and every download
the same. -/
def hasRunWell (op : Operation) (download : Download) (sys sys' : System) : Bool :=
  let calls := sys'.shared.events.take (sys'.shared.events.length - sys.shared.events.length)
  (sys'.activities[sys.activities.length]?.any fun a => a.op = op && a.stage.isEnded) &&
  decide (sys'.shared.events = calls ++ sys.shared.events) && !calls.any (·.failed) &&
  sys'.history.passes.head?.all fun r => r.fetched.all (·.download = download)

/-- Whether an operation that has begun last has ended with no call failed, and its downloads have
given these answers. -/
def hasRun (op : Operation) (answers : Nat → Download) (sys sys' : System) : Bool :=
  let calls := sys'.shared.events.take (sys'.shared.events.length - sys.shared.events.length)
  (sys'.activities[sys.activities.length]?.any fun a => a.op = op && a.stage.isEnded) &&
  decide (sys'.shared.events = calls ++ sys.shared.events) && !calls.any (·.failed) &&
  sys'.history.passes.head?.all fun r => decide (Fetch.Gave answers r.fetched)

theorem runsWell_of_hasRun {op : Operation} {turns : List Turn}
    (hturns : turns.all (·.isOf sys.activities.length) = true)
    (hplay : sys.play config (.begin op :: turns) = some sys')
    (h : hasRun op answers sys sys' = true) : RunsWell config op answers sys sys' := by
  unfold hasRun at h
  simp only [Bool.and_eq_true, decide_eq_true_eq, Bool.not_eq_true'] at h
  obtain ⟨⟨⟨hended, hevents⟩, hfailed⟩, hanswered⟩ := h
  refine ⟨⟨turns, List.all_eq_true.1 hturns, hplay⟩, ?_, ⟨_, hevents, hfailed⟩, ?_⟩
  · obtain ⟨⟨op', stage⟩, hplace, hended⟩ := (Option.any_eq_true _ _).1 hended
    rw [Bool.and_eq_true, decide_eq_true_eq, Stage.isEnded_iff] at hended
    obtain ⟨rfl, result, rfl⟩ := hended
    exact ⟨result, hplace⟩
  · intro r hr
    rw [hr, Option.all_some] at hanswered
    exact of_decide_eq_true hanswered

theorem runsWell_of_hasRunWell {op : Operation} {download : Download} {turns : List Turn}
    (hturns : turns.all (·.isOf sys.activities.length) = true)
    (hplay : sys.play config (.begin op :: turns) = some sys')
    (h : hasRunWell op download sys sys' = true) :
    RunsWell config op (fun _ => download) sys sys' := by
  apply runsWell_of_hasRun hturns hplay
  unfold hasRunWell at h
  unfold hasRun
  rw [Bool.and_eq_true] at h ⊢
  refine ⟨h.1, ?_⟩
  cases hlast : sys'.history.passes.head? with
  | none => rfl
  | some r =>
    have hall := h.2
    rw [hlast, Option.all_some, List.all_eq_true] at hall
    refine decide_eq_true ?_
    intro k f hf
    exact of_decide_eq_true (hall f (List.mem_of_getElem? hf))

/-- A refresh that meets a text for the only list. -/
def refreshing (who : Nat) (text : String) : List Turn :=
  .surround (serving (fun _ => false) text) :: List.replicate 10 (.advance who)

theorem refresh_independent_of_past_oldAndNew : ∃ old after after',
    (start (.new .sqlite) (.memory none)).play oneList
      (.begin .refresh :: refreshing 0 "||old.example^\n||ads.example^") = some old ∧
    old.shared.rules.ids = .ok [100, 101] ∧
    old.play oneList (.begin .refresh :: refreshing 1 "||ads.example^") = some after ∧
    (start (.new .memory) (.memory none)).play oneList
      (.begin .refresh :: refreshing 0 "||ads.example^") = some after' ∧
    after.shared.rules.Agree after'.shared.rules := by
  have hseen : ((start (.new .sqlite) (.memory none)).play oneList
      (.begin .refresh :: refreshing 0 "||old.example^\n||ads.example^")).map (fun old =>
        (old.shared.rules.ids, old.activities.all (·.stage.isEnded),
          old.shared.states.load.toOption.map fun stored => decide
            ((SyncState.completed oneList.lists stored).SameChoices
              (SyncState.completed oneList.lists none)),
          old.activities.length,
          (old.play oneList (.begin .refresh :: refreshing 1 "||ads.example^")).map
            (hasRunWell .refresh (.ok "||ads.example^") old))) =
      some (.ok [100, 101], true, some true, 1, some true) := by
    decide +kernel
  have hseen' : ((start (.new .memory) (.memory none)).play oneList
      (.begin .refresh :: refreshing 0 "||ads.example^")).map
        (hasRunWell .refresh (.ok "||ads.example^") (start (.new .memory) (.memory none))) =
      some true := by
    decide +kernel
  obtain ⟨old, hplay, hseen⟩ := Option.map_eq_some_iff.1 hseen
  obtain ⟨after', hplay', hwell'⟩ := Option.map_eq_some_iff.1 hseen'
  simp only [Prod.mk.injEq] at hseen
  obtain ⟨hids, hended, hchoices, hlength, hwell⟩ := hseen
  obtain ⟨after, hagain, hwell⟩ := Option.map_eq_some_iff.1 hwell
  obtain ⟨stored, hstored, hsame⟩ := Option.map_eq_some_iff.1 hchoices
  have hloaded : old.shared.states.load = .ok stored := by
    cases hload : old.shared.states.load with
    | error e =>
      rw [hload] at hstored
      cases hstored
    | ok found =>
      rw [hload] at hstored
      cases hstored
      rfl
  have hidle : ∀ a ∈ old.activities, ∃ result, a.stage = .ended result := by
    intro a ha
    exact Stage.isEnded_iff.1 (List.all_eq_true.1 hended a ha)
  have hrules := refresh_independent_of_past rfl
    ((Reached.opened oneList ⟨none, rfl⟩).play hplay) (.opened oneList ⟨none, rfl⟩) hidle
    (by simp [start]) hloaded rfl (of_decide_eq_true hsame)
    (runsWell_of_hasRunWell (by rw [hlength]; rfl) hagain hwell)
    (runsWell_of_hasRunWell rfl hplay' hwell')
  exact ⟨old, after, after', hplay, hids, hagain, hplay', hrules.1⟩

end System

end FilterSync
