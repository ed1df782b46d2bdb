import FilterSync.Proofs.Service.Updates

/-!
# An operation that has not ended

An operation that runs by itself makes one call after the other and ends with the first one
that fails. What is stored by then is told by what was saved so far: nothing yet, or its own
change. Only the last call saves the findings of its pass.

Main statements: `Stage.Moves.calls` and `Stage.Moves.stands`.
-/

namespace FilterSync

/-! ## Calls -/

/-- Whether an operation has failed. -/
def Stage.hasFailed : Stage → Bool
  | ended (.error _) => true
  | _ => false

namespace Shared

/-- Between two moments calls were made; `failed` says whether one of them failed. -/
def Calls (s s' : Shared) (failed : Bool) : Prop :=
  ∃ calls, s'.events = calls ++ s.events ∧ calls.any (·.failed) = failed

theorem Calls.refl (s : Shared) : Calls s s false := ⟨[], rfl, rfl⟩

theorem Calls.trans {s s' s'' : Shared} {a b : Bool} (h : Calls s s' a) (h' : Calls s' s'' b) :
    Calls s s'' (a || b) := by
  obtain ⟨calls, hevents, rfl⟩ := h
  obtain ⟨calls', hevents', rfl⟩ := h'
  refine ⟨calls' ++ calls, ?_, ?_⟩
  · rw [hevents', hevents, List.append_assoc]
  · rw [List.any_append, Bool.or_comm]

theorem Calls.single {s s' : Shared} {call : Call} {failed : Bool}
    (h : s'.events = ⟨call, failed⟩ :: s.events) : Calls s s' failed :=
  ⟨[⟨call, failed⟩], h, by simp⟩

variable {catalog : List CatalogEntry} {change : SyncState → SyncState} {s s' : Shared}
  {found : Option SyncState} {result : Except StoreError SyncState}

/-- Where there is a state to be read, reading fails only if a call does. -/
theorem Reading.calls (h : Reading catalog s result s') (hfound : s.states.load = .ok found) :
    Calls s s' (!result.isOk) := by
  cases h with
  | unloaded faults e => exact .single rfl
  | unreadable faults e stored =>
    rw [hfound] at stored
    cases stored
  | found faults state stored complete => exact .single rfl
  | uncompleted faults faults' e found' stored incomplete =>
    exact ⟨[⟨.save, true⟩, ⟨.load, false⟩], rfl, rfl⟩
  | completed faults faults' found' stored incomplete =>
    exact ⟨[⟨.save, false⟩, ⟨.load, false⟩], rfl, rfl⟩

theorem Updating.calls (h : Updating catalog change s result s')
    (hfound : s.states.load = .ok found) : Calls s s' (!result.isOk) := by
  cases h with
  | unread reading => exact reading.calls hfound
  | unsaved reading faults e => exact (reading.calls hfound).trans (.single rfl)
  | saved reading faults => exact (reading.calls hfound).trans (.single rfl)

end Shared

/-- A step fails exactly if one of its calls does, as long as the stores themselves refuse
nothing. -/
theorem Stage.Moves.calls {config : Config} {who : Nat} {op : Operation} {stage stage' : Stage}
    {s s' : Shared} {found : Option SyncState} (move : Moves config who op stage s stage' s')
    (hfound : s.states.load = .ok found)
    (hlist : ∀ c, stage = listing c → ∃ live, s.rules.ids = .ok live)
    (hreplace : ∀ live c, stage = replacing live c →
      ∃ rules, s.rules.replace live c.rules = .ok rules) :
    Shared.Calls s s' stage'.hasFailed := by
  cases move with
  | enterState | enterPass | taken => exact .refl s
  | changeFailed h | mergeFailed h =>
    have hcalls := (Shared.updating_of_eq h).calls hfound
    exact hcalls
  | @changed s s' state h =>
    have hcalls := (Shared.updating_of_eq h).calls hfound
    have hgood : (op.afterChange state).hasFailed = false := by cases op <;> rfl
    rw [hgood]
    exact hcalls
  | merged h =>
    have hcalls := (Shared.updating_of_eq h).calls hfound
    exact hcalls
  | readFailed h | snapshotFailed h =>
    have hcalls := (Shared.reading_of_eq h).calls hfound
    exact hcalls
  | read h | protect h | unprotect h =>
    have hcalls := (Shared.reading_of_eq h).calls hfound
    exact hcalls
  | requested => exact .single rfl
  | received | filled => exact .refl s
  | unlisted | nothing | listed | unreplaced | replaced => exact .single rfl
  | unlistable c faults h =>
    obtain ⟨live, hlive⟩ := hlist c rfl
    rw [h] at hlive
    cases hlive
  | @refused s live c faults e h =>
    obtain ⟨rules, hrules⟩ := hreplace live c rfl
    rw [h] at hrules
    cases hrules

/-! ## The state -/

theorem Operation.change_of_no_mutation {op : Operation} (h : op.mutation?.toList = [])
    (s : SyncState) : op.change s = s := by
  cases op with
  | refresh | getState => rfl
  | setListEnabled | setCustomFilters | setProtectionEnabled | countBlocked => cases h

/-- What is stored under an operation that has not ended well: what was there, completed or
not, as long as none of its changes was saved, and its own change of that afterwards. -/
def Unfinished (catalog : List CatalogEntry) (op : Operation) (stored : Option SyncState)
    (states : StateStore) (saved : List Mutation) : Prop :=
  (saved = [] ∧ (states.load = .ok stored ∨
    states.load = .ok (some (SyncState.completed catalog stored)))) ∨
  (saved = op.mutation?.toList ∧
    states.load = .ok (some (op.change (SyncState.completed catalog stored))))

/-- What is stored after an operation that has ended well: its own change of what was there,
and the findings of its pass if it runs one, whose rules are live. -/
def Finished (config : Config) (op : Operation) (stored : Option SyncState)
    (states : StateStore) (past : History) : Prop :=
  let own := op.change (SyncState.completed config.lists stored)
  ((op = .getState ∨ op = .countBlocked) ∧ past.passes = [] ∧
    past.saved = op.mutation?.toList ∧ states.load = .ok (some own)) ∨
  ∃ r c time, past.passes = [r] ∧ r.committed = true ∧
    own.plan? config.rules r.fetched = some c ∧
    past.saved = op.mutation?.toList ++ [.finished (c.outcome time)] ∧
    states.load = .ok (some (own.afterPass (c.outcome time)))

namespace Unfinished

variable {catalog : List CatalogEntry} {op : Operation} {stored found : Option SyncState}
  {states : StateStore} {saved : List Mutation}

theorem exists_load (h : Unfinished catalog op stored states saved) :
    ∃ found, states.load = .ok found := by
  rcases h with ⟨-, h | h⟩ | ⟨-, h⟩
  · exact ⟨_, h⟩
  · exact ⟨_, h⟩
  · exact ⟨_, h⟩

/-- Before its own change an operation sees what was there. -/
theorem completed_of_nil (h : Unfinished catalog op stored states [])
    (hfound : states.load = .ok found) :
    SyncState.completed catalog found = SyncState.completed catalog stored := by
  have hcomplete := SyncState.isMissingFrom_completed catalog stored
  rcases h with ⟨-, h | h⟩ | ⟨hnone, h⟩
  · rw [h] at hfound
    cases hfound
    rfl
  · rw [h] at hfound
    cases hfound
    exact SyncState.completed_some hcomplete
  · rw [h, Operation.change_of_no_mutation hnone.symm] at hfound
    cases hfound
    exact SyncState.completed_some hcomplete

/-- After its own change an operation sees just that. -/
theorem completed_of_own (h : Unfinished catalog op stored states op.mutation?.toList)
    (hfound : states.load = .ok found) : SyncState.completed catalog found =
      op.change (SyncState.completed catalog stored) := by
  rcases h with ⟨hnone, h⟩ | ⟨-, h⟩
  · have hunfinished : Unfinished catalog op stored states [] := Or.inl ⟨rfl, h⟩
    rw [Operation.change_of_no_mutation hnone]
    exact hunfinished.completed_of_nil hfound
  · rw [h] at hfound
    cases hfound
    apply SyncState.completed_some
    exact SyncState.isMissingFrom_congr (SyncState.keys_change op _)
      (SyncState.isMissingFrom_completed _ _)

variable {s s' : Shared} {result : Except StoreError SyncState}

/-- Reading leaves an operation as unfinished as it is. -/
theorem reading_of_own (h : Unfinished catalog op stored s.states op.mutation?.toList)
    (hread : Shared.Reading catalog s result s') :
    Unfinished catalog op stored s'.states op.mutation?.toList := by
  cases result with
  | error e => rwa [hread.states_of_error]
  | ok state =>
    obtain ⟨found, hfound, rfl, hload⟩ := hread.load_of_ok
    rw [h.completed_of_own hfound] at hload
    exact Or.inr ⟨rfl, hload⟩

theorem updating_of_nil {change : SyncState → SyncState} {e : StoreError}
    (h : Unfinished catalog op stored s.states [])
    (hupdate : Shared.Updating catalog change s (.error e) s') :
    Unfinished catalog op stored s'.states [] := by
  rcases hupdate.load_of_error with hstates | ⟨found, hfound, hload⟩
  · rwa [hstates]
  · rw [h.completed_of_nil hfound] at hload
    exact Or.inl ⟨rfl, Or.inr hload⟩

theorem updating_of_own {change : SyncState → SyncState} {e : StoreError}
    (h : Unfinished catalog op stored s.states op.mutation?.toList)
    (hupdate : Shared.Updating catalog change s (.error e) s') :
    Unfinished catalog op stored s'.states op.mutation?.toList := by
  rcases hupdate.load_of_error with hstates | ⟨found, hfound, hload⟩
  · rwa [hstates]
  · rw [h.completed_of_own hfound] at hload
    exact Or.inr ⟨rfl, hload⟩

end Unfinished

/-- What is stored while an operation that runs by itself is in a stage. -/
def Stage.Stands (config : Config) (op : Operation) (stored : Option SyncState)
    (states : StateStore) (past : History) : Stage → Prop
  | atState .change | inState .change =>
    past.saved = [] ∧ Unfinished config.lists op stored states []
  | atState .read | inState .read => op = .getState ∧
    past.saved = op.mutation?.toList ∧ Unfinished config.lists op stored states op.mutation?.toList
  | ended (.error _) => Unfinished config.lists op stored states past.saved
  | ended (.ok _) => Finished config op stored states past
  | _ =>
    past.saved = op.mutation?.toList ∧ Unfinished config.lists op stored states op.mutation?.toList

theorem Stage.Stands.exists_load {config : Config} {op : Operation} {stored : Option SyncState}
    {states : StateStore} {past : History} {stage : Stage}
    (h : stage.Stands config op stored states past) : ∃ found, states.load = .ok found := by
  cases stage with
  | atState v => cases v <;> first | exact h.2.exists_load | exact h.2.2.exists_load
  | inState v => cases v <;> first | exact h.2.exists_load | exact h.2.2.exists_load
  | ended result =>
    cases result with
    | error e => exact Unfinished.exists_load h
    | ok answer =>
      rcases h with ⟨-, -, -, h⟩ | ⟨r, c, time, -, -, -, -, h⟩
      · exact ⟨_, h⟩
      · exact ⟨_, h⟩
  | atPass | taking | downloading | listing | replacing => exact h.2.exists_load

/-- What is stored keeps up with every step. -/
theorem Stage.Moves.stands {config : Config} {who : Nat} {op : Operation} {stage stage' : Stage}
    {s s' : Shared} {stored : Option SyncState} {past : History}
    (move : Moves config who op stage s stage' s')
    (h : stage.Stands config op stored s.states past)
    (hfresh : stage.holdsPass = false → past.passes = [])
    (hmerge : ∀ o, stage = inState (.merge o) → ∃ r c, past.passes = [r] ∧ r.committed = true ∧
      (op.change (SyncState.completed config.lists stored)).plan? config.rules r.fetched = some c ∧
      o = c.outcome o.syncedAt) :
    stage'.Stands config op stored s'.states (past.after config op stage s stage' s') := by
  have hsaved : stage.mutation? op = none →
      (past.after config op stage s stage' s').saved = past.saved :=
    fun hnone => History.saved_after_of_none hnone past
  cases move with
  | enterState v free =>
    cases v with
    | change => exact ⟨(hsaved rfl).trans h.1, h.2⟩
    | read => exact ⟨h.1, (hsaved rfl).trans h.2.1, h.2.2⟩
    | snapshot | merge => exact ⟨(hsaved rfl).trans h.1, h.2⟩
  | enterPass free => exact ⟨(hsaved rfl).trans h.1, h.2⟩
  | @changeFailed s s' e heq =>
    have hupdate := Shared.updating_of_eq heq
    -- the last call was not a save that went through
    show Unfinished _ _ _ s'.states (History.after ..).saved
    rw [History.saved_after_of_not_hasSaved, h.1]
    · exact h.2.updating_of_nil hupdate
    · exact hupdate.hasSaved_iff
  | @changed s s' state heq =>
    have hupdate := Shared.updating_of_eq heq
    have hown : (past.after config op (inState .change) s (op.afterChange state)
        { s' with stateHolder := none }).saved = op.mutation?.toList := by
      rw [History.saved_after_of_hasSaved, h.1]
      · rfl
      · exact hupdate.hasSaved_iff
    obtain ⟨found, hfound, rfl, hload⟩ := hupdate.load_of_ok
    rw [h.2.completed_of_nil hfound] at hload
    -- counting is over with this, and the others go on to a pass
    cases op with
    | countBlocked =>
      refine Or.inl ⟨Or.inr rfl, ?_, hown, hload⟩
      exact (History.passes_after_of_not_holdsPass rfl (by simp) past).trans (hfresh rfl)
    | refresh | setListEnabled | setCustomFilters | setProtectionEnabled | getState =>
      exact ⟨hown, Or.inr ⟨rfl, hload⟩⟩
  | @readFailed s s' e heq =>
    show Unfinished _ _ _ s'.states (History.after ..).saved
    rw [hsaved rfl, h.2.1]
    exact h.2.2.reading_of_own (Shared.reading_of_eq heq)
  | @read s s' state heq =>
    obtain ⟨found, hfound, rfl, hload⟩ := (Shared.reading_of_eq heq).load_of_ok
    rw [h.2.2.completed_of_own hfound] at hload
    refine Or.inl ⟨Or.inl h.1, ?_, (hsaved rfl).trans h.2.1, hload⟩
    exact (History.passes_after_of_not_holdsPass rfl (by simp) past).trans (hfresh rfl)
  | @snapshotFailed s s' e heq =>
    show Unfinished _ _ _ s'.states (History.after ..).saved
    rw [hsaved rfl, h.1]
    exact h.2.reading_of_own (Shared.reading_of_eq heq)
  | protect heq on | unprotect heq off =>
    have hread := h.2.reading_of_own (Shared.reading_of_eq heq)
    exact ⟨(hsaved rfl).trans h.1, hread⟩
  | taken | requested | received | filled => exact ⟨(hsaved rfl).trans h.1, h.2⟩
  | listed | nothing | replaced => exact ⟨(hsaved rfl).trans h.1, h.2⟩
  | unlisted | unlistable | unreplaced | refused =>
    show Unfinished _ _ _ s.states (History.after ..).saved
    rw [hsaved rfl, h.1]
    exact h.2
  | @mergeFailed s s' o e heq =>
    have hupdate := Shared.updating_of_eq heq
    show Unfinished _ _ _ s'.states (History.after ..).saved
    rw [History.saved_after_of_not_hasSaved, h.1]
    · exact h.2.updating_of_own hupdate
    · exact hupdate.hasSaved_iff
  | @merged s s' o state heq =>
    have hupdate := Shared.updating_of_eq heq
    obtain ⟨found, hfound, rfl, hload⟩ := hupdate.load_of_ok
    rw [h.2.completed_of_own hfound] at hload
    obtain ⟨r, c, hpasses, hcommitted, hplan, ho⟩ := hmerge o rfl
    rw [ho] at hload
    refine Or.inr ⟨r, c, o.syncedAt, ?_, hcommitted, hplan, ?_, hload⟩
    · -- the record of a pass that merges its findings is closed
      rw [History.passes_after_of_holdsPass rfl, hpasses]
      rfl
    · rw [History.saved_after_of_hasSaved, h.1, ← ho]
      · rfl
      · exact hupdate.hasSaved_iff

/-! ## Answers -/

/-- An operation that has run a pass answers with the outcome that it has saved. -/
def Stage.Answers (op : Operation) (past : History) : Stage → Prop
  | ended (.ok answer) => op = .getState ∨ op = .countBlocked ∨
    ∃ o, answer = op.afterPass o ∧ past.saved.getLast? = some (.finished o)
  | _ => True

theorem Stage.Moves.answers {config : Config} {who : Nat} {op : Operation} {stage stage' : Stage}
    {s s' : Shared} {stored : Option SyncState} {past : History}
    (move : Moves config who op stage s stage' s')
    (h : stage.Stands config op stored s.states past) :
    stage'.Answers op (past.after config op stage s stage' s') := by
  cases move with
  | changed =>
    cases op with
    | countBlocked => exact Or.inr (Or.inl rfl)
    | refresh | setListEnabled | setCustomFilters | setProtectionEnabled | getState => trivial
  | read => exact Or.inl h.1
  | merged heq =>
    refine Or.inr (Or.inr ⟨_, rfl, ?_⟩)
    rw [History.saved_after_of_hasSaved]
    · exact List.getLast?_concat
    · exact (Shared.updating_of_eq heq).hasSaved_iff
  | enterState | enterPass | changeFailed | readFailed | snapshotFailed | mergeFailed => trivial
  | protect | unprotect | taken | requested | received | filled => trivial
  | unlisted | unlistable | nothing | listed | unreplaced | refused | replaced => trivial

end FilterSync
