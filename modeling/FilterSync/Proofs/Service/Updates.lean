import FilterSync.Proofs.Service.System

/-!
# Updates of the persisted state

Whoever changes the persisted state loads it, changes it and saves it under one lock, so
that the changes that were saved make up a single series. The persisted state is what they
make of the first one, one after the other; a pass adds nothing to that but its findings,
however old its snapshot is by then.

Main statements: `System.updated_play` and `System.no_lost_update`.
-/

namespace FilterSync

open Mutation (applyAll)

/-! ## Whether a change was saved -/

namespace Shared

variable {catalog : List CatalogEntry} {change : SyncState → SyncState} {s s' : Shared}

theorem Reading.hasSaved_of_error {e : StoreError} (h : Reading catalog s (.error e) s') :
    s'.hasSaved = false := by
  cases h <;> rfl

/-- A change is saved by the last call that is made for it. -/
theorem Updating.hasSaved_iff {result : Except StoreError SyncState}
    (h : Updating catalog change s result s') : s'.hasSaved = result.isOk := by
  cases h with
  | unread reading => exact reading.hasSaved_of_error
  | unsaved reading faults e => rfl
  | saved reading faults => rfl

end Shared

/-! ## The keys of lists -/

/-- The keys of the lists that a pass has to do with from a stage on. -/
def Stage.listKeys : Stage → List String
  | taking p left _ => p.takenKeys ++ left.map (·.key)
  | downloading p l left _ => p.takenKeys ++ (l :: left).map (·.key)
  | listing c | replacing _ c => c.lists.map (·.key)
  | atState (.merge o) | inState (.merge o) => o.lists.map (·.key)
  | _ => []

/-- A pass has to do with lists of its snapshot only, and each of them once. -/
theorem Stage.Moves.listKeys {config : Config} {who : Nat} {op : Operation}
    {stage stage' : Stage} {s s' : Shared} (move : Moves config who op stage s stage' s') :
    stage'.listKeys.Sublist stage.listKeys ∨ ∃ found, s.states.load = .ok found ∧
      stage'.listKeys.Sublist (SyncState.completed config.lists found).keys := by
  have hnone : ∀ stage₁ : Stage, stage₁.listKeys = [] →
      stage₁.listKeys.Sublist stage.listKeys := by
    intro stage₁ h
    rw [h]
    exact List.nil_sublist _
  cases move with
  | enterState v free => cases v <;> exact Or.inl (List.Sublist.refl _)
  | changed h => exact Or.inl (hnone _ (by cases op <;> rfl))
  | enterPass | changeFailed | readFailed | read | snapshotFailed => exact Or.inl (hnone _ rfl)
  | unlisted | unlistable | unreplaced | refused => exact Or.inl (hnone _ rfl)
  | mergeFailed | merged => exact Or.inl (hnone _ rfl)
  | unprotect => exact Or.inl (hnone _ rfl)
  | protect h on =>
    obtain ⟨found, hfound, rfl, -⟩ := (Shared.reading_of_eq h).load_of_ok
    refine Or.inr ⟨found, hfound, ?_⟩
    exact List.filter_sublist.map _
  | taken p filters =>
    refine Or.inl ?_
    show ((p.commitOf _ _).lists.map _).Sublist (p.takenKeys ++ [])
    rw [Pass.keys_commitOf]
    exact List.sublist_append_left _ _
  | requested | nothing | listed | replaced => exact Or.inl (List.Sublist.refl _)
  | @received s p l left filters room =>
    refine Or.inl ?_
    show (Pass.takenKeys (p.takeList ..) ++ left.map _).Sublist
      (p.takenKeys ++ l.key :: left.map _)
    rw [Pass.takenKeys_takeList, List.append_assoc]
    exact List.Sublist.refl _
  | @filled s p l left filters full =>
    refine Or.inl ?_
    show ((Pass.commitOf _ (p.takeList ..) _).lists.map _).Sublist
      (p.takenKeys ++ l.key :: left.map _)
    rw [Pass.keys_commitOf, Pass.takenKeys_takeList]
    exact (List.Sublist.refl _).append (List.singleton_sublist.2 List.mem_cons_self)

/-! ## One step -/

/-- What is stored after some changes were saved: nothing has been touched yet, or it is the
completed first state with these changes. -/
def Persisted (catalog : List CatalogEntry) (initial : StateStore) (stored : Option SyncState)
    (states : StateStore) (saved : List Mutation) : Prop :=
  (states = initial ∧ saved = []) ∨
    states.load = .ok (some (applyAll saved (SyncState.completed catalog stored)))

namespace Persisted

variable {catalog : List CatalogEntry} {initial states : StateStore}
  {stored found : Option SyncState} {saved : List Mutation}

/-- Whether anything was touched or not, an operation that loads the state sees the changes. -/
theorem completed_eq (h : Persisted catalog initial stored states saved)
    (loaded : initial.load = .ok stored) (hfound : states.load = .ok found) :
    SyncState.completed catalog found = applyAll saved (SyncState.completed catalog stored) := by
  rcases h with ⟨rfl, rfl⟩ | h
  · rw [loaded] at hfound
    cases hfound
    rfl
  · rw [h] at hfound
    cases hfound
    apply SyncState.completed_some
    exact SyncState.isMissingFrom_congr (Mutation.keys_applyAll _ _)
      (SyncState.isMissingFrom_completed _ _)

variable {s s' : Shared}

theorem reading (h : Persisted catalog initial stored s.states saved)
    (loaded : initial.load = .ok stored) {result : Except StoreError SyncState}
    (hread : Shared.Reading catalog s result s') :
    Persisted catalog initial stored s'.states saved := by
  cases result with
  | error e => rwa [hread.states_of_error]
  | ok state =>
    obtain ⟨found, hfound, rfl, hload⟩ := hread.load_of_ok
    rw [h.completed_eq loaded hfound] at hload
    exact Or.inr hload

/-- A change that is saved comes at the end of the series, and one that fails adds nothing. -/
theorem updating (h : Persisted catalog initial stored s.states saved)
    (loaded : initial.load = .ok stored) {change : SyncState → SyncState} {more : List Mutation}
    (hchange : change (applyAll saved (SyncState.completed catalog stored)) =
      applyAll more (applyAll saved (SyncState.completed catalog stored)))
    {result : Except StoreError SyncState} (hupdate : Shared.Updating catalog change s result s') :
    Persisted catalog initial stored s'.states
      (if s'.hasSaved then saved ++ more else saved) := by
  rw [hupdate.hasSaved_iff]
  cases result with
  | error e =>
    show Persisted _ _ _ _ saved
    rcases hupdate.load_of_error with hstates | ⟨found, hfound, hload⟩
    · rwa [hstates]
    · rw [h.completed_eq loaded hfound] at hload
      exact Or.inr hload
  | ok state =>
    obtain ⟨found, hfound, rfl, hload⟩ := hupdate.load_of_ok
    rw [h.completed_eq loaded hfound, hchange, ← Mutation.applyAll_append] at hload
    exact Or.inr hload

end Persisted

/-- With every step the persisted state is what the saved changes make of the first. -/
theorem Stage.Moves.persisted {config : Config} {who : Nat} {op : Operation}
    {stage stage' : Stage} {s s' : Shared} {initial : StateStore} {stored : Option SyncState}
    {saved : List Mutation} (move : Moves config who op stage s stage' s')
    (loaded : initial.load = .ok stored)
    (distinct : (SyncState.completed config.lists stored).keys.Nodup)
    (hlists : stage.listKeys.Nodup)
    (h : Persisted config.lists initial stored s.states saved) :
    Persisted config.lists initial stored s'.states
      (if s'.hasSaved then saved ++ (stage.mutation? op).toList else saved) := by
  have hkeys : (applyAll saved (SyncState.completed config.lists stored)).keys.Nodup := by
    rwa [Mutation.keys_applyAll]
  -- a step that is no change of the state adds nothing to the series
  have hnone : stage.mutation? op = none → Persisted config.lists initial stored s'.states saved →
      Persisted config.lists initial stored s'.states
        (if s'.hasSaved then saved ++ (stage.mutation? op).toList else saved) := by
    intro hmutation hpersisted
    rw [hmutation]
    simpa using hpersisted
  cases move with
  | enterState | enterPass => exact hnone rfl h
  | changeFailed heq | changed heq =>
    have hupdated := h.updating loaded (Mutation.change_eq_applyAll op hkeys)
      (Shared.updating_of_eq heq)
    exact hupdated
  | readFailed heq | read heq =>
    have hread := h.reading loaded (Shared.reading_of_eq heq)
    exact hnone rfl hread
  | snapshotFailed heq | protect heq | unprotect heq =>
    have hread := h.reading loaded (Shared.reading_of_eq heq)
    exact hnone rfl hread
  | taken | requested | received | filled => exact hnone rfl h
  | unlisted | unlistable | nothing | listed => exact hnone rfl h
  | unreplaced | refused | replaced => exact hnone rfl h
  | @mergeFailed s s' o e heq | @merged s s' o state heq =>
    have hmerge : (applyAll saved (SyncState.completed config.lists stored)).afterPass o =
        applyAll [.finished o] (applyAll saved (SyncState.completed config.lists stored)) :=
      Mutation.afterPass_eq_apply hkeys hlists
    have hupdated := h.updating loaded hmerge (Shared.updating_of_eq heq)
    exact hupdated

/-! ## Runs -/

namespace System

/-- A system in which the persisted state is what the saved changes make of the first, and
every pass has to do with lists of different keys. -/
structure Updated (config : Config) (initial : StateStore) (stored : Option SyncState)
    (sys : System) : Prop where
  persisted : Persisted config.lists initial stored sys.shared.states sys.history.saved
  listKeys : ∀ (i : Nat) (a : Activity), sys.activities[i]? = some a → a.stage.listKeys.Nodup

variable {config : Config} {initial : StateStore} {stored : Option SyncState} {sys sys' : System}

theorem Updated.step (loaded : initial.load = .ok stored)
    (distinct : (SyncState.completed config.lists stored).keys.Nodup)
    (h : Updated config initial stored sys) (hacts : Acts config sys sys') :
    Updated config initial stored sys' := by
  cases hacts with
  | begun op =>
    refine ⟨h.persisted, ?_⟩
    intro i a hi
    rcases getElem?_begun hi with hi | rfl
    · exact h.listKeys i a hi
    · cases op <;> exact List.nodup_nil
  | surrounded w => exact ⟨h.persisted, h.listKeys⟩
  | @advanced who op stage stage' s' place move =>
    refine ⟨move.persisted loaded distinct (h.listKeys who _ place) h.persisted, ?_⟩
    intro i a hi
    rw [getElem?_moved place] at hi
    by_cases hwho : who = i
    · rw [if_pos hwho] at hi
      cases hi
      rcases move.listKeys with hsub | ⟨found, hfound, hsub⟩
      · exact (h.listKeys who _ place).sublist hsub
      · -- a snapshot has the keys of the first state, as no change touches keys
        rw [h.persisted.completed_eq loaded hfound, Mutation.keys_applyAll] at hsub
        exact distinct.sublist hsub
    · rw [if_neg hwho] at hi
      exact h.listKeys i a hi

/-- In every run the persisted state is what the saved changes make of the first. -/
theorem updated_play {rules : RuleStore} {turns : List Turn} (loaded : initial.load = .ok stored)
    (distinct : (SyncState.completed config.lists stored).keys.Nodup)
    (h : (start rules initial).play config turns = some sys) :
    Updated config initial stored sys := by
  refine play_invariant (Updated.step loaded distinct) ?_ h
  refine ⟨Or.inl ⟨rfl, rfl⟩, ?_⟩
  intro i a hi
  cases hi

/-- The persisted state is the completed first one with all changes that were saved, in
order, and nothing else; of the passes in between nothing reaches what the user chose or
what was counted. -/
theorem no_lost_update {rules : RuleStore} {turns : List Turn} (loaded : initial.load = .ok stored)
    (distinct : (SyncState.completed config.lists stored).keys.Nodup)
    (h : (start rules initial).play config turns = some sys) :
    ((sys.shared.states = initial ∧ sys.history.saved = []) ∨
      sys.shared.states.load =
        .ok (some (applyAll sys.history.saved (SyncState.completed config.lists stored)))) ∧
    ∀ found, sys.shared.states.load = .ok found →
      (SyncState.completed config.lists found).withoutFindings =
        applyAll (sys.history.saved.filter (·.isRequested))
          (SyncState.completed config.lists stored).withoutFindings := by
  have hupdated := updated_play loaded distinct h
  refine ⟨hupdated.persisted, ?_⟩
  intro found hfound
  rw [hupdated.persisted.completed_eq loaded hfound, Mutation.withoutFindings_applyAll]

/-- A match is counted and a list disabled while a refresh downloads the list. -/
def changedMeanwhile : List Turn :=
  [.surround (serving (fun _ => false) "||ads.example^"), .begin .refresh, .begin .countBlocked,
    .begin (.setListEnabled "a" false)] ++
  List.replicate 4 (.advance 0) ++ [.advance 1, .advance 1, .advance 2, .advance 2] ++
  List.replicate 6 (.advance 0)

theorem no_lost_update_changedMeanwhile :
    ∃ sys, (start (.new .memory) (.memory none)).play oneList changedMeanwhile = some sys ∧
      sys.history.saved.map (·.isRequested) = [true, true, false] ∧
      sys.shared.states.load =
        .ok (some (applyAll sys.history.saved (SyncState.completed oneList.lists none))) := by
  have hseen : ((start (.new .memory) (.memory none)).play oneList changedMeanwhile).map
      (fun sys => sys.history.saved.map (·.isRequested)) = some [true, true, false] := by
    decide +kernel
  obtain ⟨sys, hplay, hsaved⟩ := Option.map_eq_some_iff.1 hseen
  obtain ⟨⟨-, hnone⟩ | hload, -⟩ := no_lost_update rfl (by decide) hplay
  · rw [hnone] at hsaved
    cases hsaved
  · exact ⟨sys, hplay, hsaved, hload⟩

end System

end FilterSync
