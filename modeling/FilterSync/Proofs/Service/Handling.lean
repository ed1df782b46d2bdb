import FilterSync.Proofs.Service.Alone

/-!
# Handling one message

A message that finds nothing under way fails exactly if a call does. It then leaves the live
rules as they were, or complete new ones if the call that failed came after they went live;
and of the state it leaves what was saved up to then.

Main statement: `handle_alone`.
-/

namespace FilterSync

theorem Operation.ok_response (result : Except SyncError Answer) :
    (Operation.response result).ok = result.isOk := by
  cases result with
  | error e => rfl
  | ok answer => cases answer <;> rfl

/-- How a message is handled that finds nothing under way: `calls` were made, the last one
first. -/
structure Handled (config : Config) (op : Operation) (stored : Option SyncState)
    (before : Shared) (calls : List Event) (result : Except SyncError Answer) (after : Shared)
    (past : History) : Prop where
  /-- The response is good exactly if no call failed. -/
  answer : (Operation.response result).ok = true ↔ ∀ e ∈ calls, e.failed = false
  /-- The rules are as before unless a pass committed. -/
  uncommitted : (∀ r ∈ past.passes, r.committed = false) → after.rules = before.rules
  /-- If one did they are all those of the changed state, with the downloads that were made. -/
  committed : ∀ r ∈ past.passes, r.committed = true → ∃ c,
    (op.change (SyncState.completed config.lists stored)).plan? config.rules r.fetched = some c ∧
      after.rules.Holds c.rules
  /-- A failed operation leaves what is known of downloads. -/
  findings : (Operation.response result).ok = false → ∀ found, after.states.load = .ok found →
    (stored.getD (.ofCatalog config.lists)).KeepsFindings (found.getD (.ofCatalog config.lists))
  /-- It leaves what was stored, completed or not, or its own change of that. -/
  failed : (Operation.response result).ok = false →
    after.states.load = .ok stored ∨
    after.states.load = .ok (some (SyncState.completed config.lists stored)) ∨
    after.states.load = .ok (some (op.change (SyncState.completed config.lists stored)))
  /-- Its own change lasts if it was saved, whatever comes later. -/
  saved : ∀ m, op.mutation? = some m → m ∈ past.saved → ∃ state,
    after.states.load = .ok (some state) ∧ state.withoutFindings =
      (op.change (SyncState.completed config.lists stored)).withoutFindings
  /-- Its own change is not there if it was not saved. -/
  unsaved : ∀ m, op.mutation? = some m → m ∉ past.saved →
    after.states.load = .ok stored ∨
    after.states.load = .ok (some (SyncState.completed config.lists stored))
  /-- An operation that did not fail did all that it is for. -/
  finished : (Operation.response result).ok = true → Finished config op stored after.states past
  phase : after.phase = .idle
  passHolder : after.passHolder = none
  stateHolder : after.stateHolder = none

namespace Alone

variable {config : Config} {op : Operation} {stored : Option SyncState} {before after : Shared}
  {past : History} {e : SyncError} {answer : Answer}

theorem findings_of_error (h : Unfinished config.lists op stored after.states past.saved)
    {found : Option SyncState} (hfound : after.states.load = .ok found) :
    (stored.getD (.ofCatalog config.lists)).KeepsFindings
      (found.getD (.ofCatalog config.lists)) := by
  have hcompleted := SyncState.keepsFindings_completed config.lists stored
  rcases h with ⟨-, h | h⟩ | ⟨-, h⟩
  · rw [h] at hfound
    cases hfound
    exact .refl _
  · rw [h] at hfound
    cases hfound
    exact hcompleted
  · rw [h] at hfound
    cases hfound
    exact hcompleted.trans (SyncState.keepsFindings_change op _)

theorem saved_of_ended {result : Except SyncError Answer} {m : Mutation}
    (h : (Stage.ended result).Stands config op stored after.states past)
    (hsaved : m ∈ past.saved) :
    ∃ state, after.states.load = .ok (some state) ∧ state.withoutFindings =
      (op.change (SyncState.completed config.lists stored)).withoutFindings := by
  cases result with
  | error e =>
    rcases h with ⟨hnone, -⟩ | ⟨-, h⟩
    · rw [hnone] at hsaved
      cases hsaved
    · exact ⟨_, h, rfl⟩
  | ok answer =>
    rcases h with ⟨-, -, -, h⟩ | ⟨r, c, time, -, -, -, -, h⟩
    · exact ⟨_, h, rfl⟩
    · exact ⟨_, h, Mutation.withoutFindings_afterPass _ _⟩

theorem unsaved_of_ended {result : Except SyncError Answer} {m : Mutation}
    (h : (Stage.ended result).Stands config op stored after.states past)
    (hm : op.mutation? = some m) (hunsaved : m ∉ past.saved) :
    after.states.load = .ok stored ∨
      after.states.load = .ok (some (SyncState.completed config.lists stored)) := by
  have hnot : ∀ more, past.saved ≠ op.mutation?.toList ++ more := by
    intro more hsaved
    rw [hsaved, hm] at hunsaved
    exact hunsaved List.mem_cons_self
  cases result with
  | error e =>
    rcases h with ⟨-, h⟩ | ⟨hsaved, -⟩
    · exact h
    · exact absurd (hsaved.trans (List.append_nil _).symm) (hnot [])
  | ok answer =>
    rcases h with ⟨-, -, hsaved, -⟩ | ⟨r, c, time, -, -, -, hsaved, -⟩
    · exact absurd (hsaved.trans (List.append_nil _).symm) (hnot [])
    · exact absurd hsaved (hnot _)

theorem handled {result : Except SyncError Answer} {calls : List Event}
    (h : Alone config op stored before (.ended result) after past)
    (hcalls : calls.any (·.failed) = (Stage.ended result).hasFailed) :
    Handled config op stored before calls result after past := by
  have hlive := h.record.live
  have hfailed : (Operation.response result).ok = !(Stage.ended result).hasFailed := by
    rw [Operation.ok_response]
    cases result <;> rfl
  constructor
  · rw [hfailed, ← hcalls, Bool.not_eq_true', List.any_eq_false]
    simp
  · intro huncommitted
    have hnone : past.passes.find? (·.committed) = none :=
      List.find?_eq_none.2 fun r hr => by simp [huncommitted r hr]
    obtain ⟨-, hlive⟩ := hlive
    rwa [hnone] at hlive
  · intro r hr hcommitted
    -- there is one record at most, so the rules are those of `r`
    have hpasses : past.passes = [r] := by
      obtain ⟨r', hr'⟩ := List.length_eq_one_iff.1
        (Nat.le_antisymm h.record.single (List.length_pos_of_mem hr))
      rw [hr', List.mem_singleton] at hr
      rw [hr', hr]
    obtain ⟨-, hlive⟩ := hlive
    rw [hpasses, List.find?_cons_of_pos (by simpa using hcommitted)] at hlive
    obtain ⟨c, hplan, hholds⟩ := hlive
    obtain ⟨state, hsnapshot, hplan⟩ := Option.bind_eq_some_iff.1 hplan
    rw [h.record.snapshot r hr state hsnapshot] at hplan
    exact ⟨c, hplan, hholds⟩
  · intro hbad found hfound
    cases result with
    | error e => exact findings_of_error h.stands hfound
    | ok answer =>
      rw [Operation.ok_response] at hbad
      cases hbad
  · intro hbad
    cases result with
    | error e =>
      rcases h.stands with ⟨-, hstored | hcompleted⟩ | ⟨-, hown⟩
      · exact Or.inl hstored
      · exact Or.inr (Or.inl hcompleted)
      · exact Or.inr (Or.inr hown)
    | ok answer =>
      rw [Operation.ok_response] at hbad
      cases hbad
  · intro m _ hsaved
    exact saved_of_ended h.stands hsaved
  · intro m hm hunsaved
    exact unsaved_of_ended h.stands hm hunsaved
  · intro hgood
    cases result with
    | error e =>
      rw [Operation.ok_response] at hgood
      cases hgood
    | ok answer => exact h.stands
  · exact h.phase
  · exact Option.not_isSome_iff_eq_none.1 (by rw [h.passHolder]; exact Bool.false_ne_true)
  · exact Option.not_isSome_iff_eq_none.1 (by rw [h.stateHolder]; exact Bool.false_ne_true)

end Alone

end FilterSync
