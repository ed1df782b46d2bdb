import FilterSync.Proofs.Service.Moves
import FilterSync.Proofs.State.Mutation

/-!
# What operations leave on record

Along with operations goes a history, which none of them reads: what each pass worked for
and downloaded, and which changes of the state were saved. A step is made apart from the lock
of passes, takes it, is made under it, or gives it back; which of them it is decides what the
step can touch.

Main statement: `Stage.Moves.course`.
-/

namespace FilterSync

/-! ## History -/

/-- What is on record of a pass. -/
structure PassRecord where
  /-- The state that the pass works for, once it was read. -/
  snapshot : Option SyncState := none
  /-- The downloads so far, in order. -/
  fetched : List Fetch := []
  /-- Whether the rules of the pass went live. -/
  committed : Bool := false
  deriving DecidableEq, Repr

/-- What operations have done so far. -/
structure History where
  /-- The passes, the last one first. -/
  passes : List PassRecord := []
  /-- The changes of the state that were saved, in order. -/
  saved : List Mutation := []
  deriving DecidableEq, Repr

/-- Whether the last call saved a state. -/
def Shared.hasSaved (s : Shared) : Bool := s.events.head? = some ⟨.save, false⟩

/-- The change of the state that is made in a stage, if any. -/
def Stage.mutation? (op : Operation) : Stage → Option Mutation
  | inState .change => op.mutation?
  | inState (.merge o) => some (.finished o)
  | _ => none

/-- What a pass is on record with after its step from `stage` to `stage'`. -/
def PassRecord.after (config : Config) (stage : Stage) (s : Shared) (stage' : Stage)
    (r : PassRecord) : PassRecord :=
  match stage, stage' with
  | .inState .snapshot, _ => { r with snapshot := (s.loadReconciled config.lists).1.toOption }
  | .downloading _ l _ _, _ => { r with fetched := r.fetched ++ [s.fetch l.url] }
  | .listing _, .atState _ | .replacing _ _, .atState _ => { r with committed := true }
  | _, _ => r

/-! ## Locks -/

namespace Stage

/-- Whether an operation holds the lock of passes there. -/
def holdsPass : Stage → Bool
  | atState .snapshot | inState .snapshot => true
  | taking _ _ _ | downloading _ _ _ _ | listing _ | replacing _ _ => true
  | atState (.merge _) | inState (.merge _) => true
  | _ => false

/-- Whether an operation holds the lock of the state there. -/
def holdsState : Stage → Bool
  | inState _ => true
  | _ => false

/-- The phase of a pass there. -/
def phase : Stage → Phase
  | taking _ _ _ | downloading _ _ _ _ => .fetching
  | listing _ | replacing _ _ => .committing
  | _ => .idle

theorem holdsPass_start (op : Operation) : op.start.holdsPass = false := by
  cases op <;> rfl

theorem holdsState_start (op : Operation) : op.start.holdsState = false := by
  cases op <;> rfl

@[simp] theorem holdsPass_afterChange (op : Operation) (s : SyncState) :
    (op.afterChange s).holdsPass = false := by
  cases op <;> rfl

@[simp] theorem holdsState_afterChange (op : Operation) (s : SyncState) :
    (op.afterChange s).holdsState = false := by
  cases op <;> rfl

end Stage

/-- The history after a step from `stage` to `stage'`. -/
def History.after (config : Config) (op : Operation) (stage : Stage) (s : Shared)
    (stage' : Stage) (s' : Shared) (h : History) : History where
  passes :=
    match stage with
    | .atPass => {} :: h.passes
    | _ =>
      if stage.holdsPass then h.passes.modifyHead (·.after config stage s stage') else h.passes
  saved := if s'.hasSaved then h.saved ++ (stage.mutation? op).toList else h.saved

namespace History

variable {config : Config} {op : Operation} {stage stage' : Stage} {s s' : Shared}

/-- A step under the lock of passes is on the record of the last pass. -/
theorem passes_after_of_holdsPass (hholds : stage.holdsPass = true) (h : History) :
    (h.after config op stage s stage' s').passes =
      h.passes.modifyHead (·.after config stage s stage') := by
  cases stage with
  | atState v => cases v <;> first | rfl | cases hholds
  | inState v => cases v <;> first | rfl | cases hholds
  | atPass | ended => cases hholds
  | taking | downloading | listing | replacing => rfl

/-- Other steps are on the record of no pass, and only one of them begins a pass. -/
theorem passes_after_of_not_holdsPass (hholds : stage.holdsPass = false) (hat : stage ≠ .atPass)
    (h : History) : (h.after config op stage s stage' s').passes = h.passes := by
  cases stage with
  | atState v => cases v <;> first | rfl | cases hholds
  | inState v => cases v <;> first | rfl | cases hholds
  | atPass => exact absurd rfl hat
  | ended => rfl
  | taking | downloading | listing | replacing => cases hholds

theorem saved_after_of_none (h : stage.mutation? op = none) (past : History) :
    (past.after config op stage s stage' s').saved = past.saved := by
  simp [after, h]

theorem saved_after_of_not_hasSaved (h : s'.hasSaved = false) (past : History) :
    (past.after config op stage s stage' s').saved = past.saved := by
  simp [after, h]

theorem saved_after_of_hasSaved (h : s'.hasSaved = true) (past : History) :
    (past.after config op stage s stage' s').saved =
      past.saved ++ (stage.mutation? op).toList := by
  simp [after, h]

end History

theorem PassRecord.after_snapshot {config : Config} {stage stage' : Stage} {s : Shared}
    (h : stage ≠ .inState .snapshot) (r : PassRecord) :
    (r.after config stage s stage').snapshot = r.snapshot := by
  unfold PassRecord.after
  split
  · exact absurd rfl h
  · rfl
  · rfl
  · rfl
  · rfl

/-- How a lock may change hands when `who` makes a step: it stays where it is, is taken when
it is free, or is given back. -/
inductive Hands (who : Nat) : Bool → Bool → Option Nat → Option Nat → Prop
  | stays (b : Bool) (holder : Option Nat) : Hands who b b holder holder
  | taken : Hands who false true none (some who)
  | given (holder : Option Nat) : Hands who true false holder none

/-- How a step stands to the lock of passes: it is made apart from it, takes it, is made
under it, or gives it back. -/
inductive Course (who : Nat) (stage : Stage) (s : Shared) (stage' : Stage) (s' : Shared) : Prop
  | outside (before : stage.holdsPass = false) (after : stage'.holdsPass = false)
      (elsewhere : stage ≠ .atPass) (rules : s'.rules = s.rules) (phase : s'.phase = s.phase)
      (holder : s'.passHolder = s.passHolder)
  | enters (before : stage = .atPass) (after : stage' = .atState .snapshot)
      (free : s.passHolder = none) (shared : s' = { s with passHolder := some who })
  | inside (before : stage.holdsPass = true) (after : stage'.holdsPass = true)
      (phase : s.phase = stage.phase → s'.phase = stage'.phase)
      (holder : s'.passHolder = s.passHolder)
  | leaves (result : Except SyncError Answer) (before : stage.holdsPass = true)
      (after : stage' = .ended result) (phase : s'.phase = .idle) (holder : s'.passHolder = none)

theorem Course.hands {who : Nat} {stage stage' : Stage} {s s' : Shared}
    (h : Course who stage s stage' s') :
    Hands who stage.holdsPass stage'.holdsPass s.passHolder s'.passHolder := by
  cases h with
  | outside before after elsewhere rules phase holder =>
    rw [before, after, holder]
    exact .stays _ _
  | enters before after free shared =>
    rw [before, after, free, shared]
    exact .taken
  | inside before after phase holder =>
    rw [before, after, holder]
    exact .stays _ _
  | leaves result before after phase holder =>
    rw [before, after, holder]
    exact .given _

/-- A step under the lock of passes keeps it, or ends the operation. -/
theorem Course.keeps_or_ends {who : Nat} {stage stage' : Stage} {s s' : Shared}
    (h : Course who stage s stage' s') (hholds : stage.holdsPass = true) :
    stage'.holdsPass = true ∨ ∃ result, stage' = .ended result ∧ s'.phase = .idle := by
  cases h with
  | inside before after => exact Or.inl after
  | leaves result before after phase => exact Or.inr ⟨result, after, phase⟩
  | outside before =>
    rw [hholds] at before
    cases before
  | enters before =>
    rw [before] at hholds
    cases hholds

/-- There is one step alone that leads into a pass. -/
theorem Course.keeps_out {who : Nat} {stage stage' : Stage} {s s' : Shared}
    (h : Course who stage s stage' s') (hholds : stage.holdsPass = false)
    (hat : stage ≠ .atPass) : stage'.holdsPass = false := by
  cases h with
  | outside before after => exact after
  | enters before => exact absurd before hat
  | inside before =>
    rw [hholds] at before
    cases before
  | leaves result before =>
    rw [hholds] at before
    cases before

namespace Stage.Moves

variable {config : Config} {who : Nat} {op : Operation} {stage stage' : Stage} {s s' : Shared}

theorem course (move : Moves config who op stage s stage' s') :
    Course who stage s stage' s' := by
  cases move with
  | enterState v free =>
    cases v with
    | change | read => exact .outside rfl rfl (by simp) rfl rfl rfl
    | snapshot | merge => exact .inside rfl rfl id rfl
  | enterPass free => exact .enters rfl rfl free rfl
  -- work on the state touches neither the rules nor the lock of passes
  | changeFailed h =>
    have hsame := (Shared.updating_of_eq h).stateOnly
    exact .outside rfl rfl (by simp) hsame.rules hsame.phase hsame.passHolder
  | changed h =>
    have hsame := (Shared.updating_of_eq h).stateOnly
    exact .outside rfl (holdsPass_afterChange op _) (by simp) hsame.rules hsame.phase
      hsame.passHolder
  | readFailed h | read h =>
    have hsame := (Shared.reading_of_eq h).stateOnly
    exact .outside rfl rfl (by simp) hsame.rules hsame.phase hsame.passHolder
  | protect h | unprotect h =>
    have hsame := (Shared.reading_of_eq h).stateOnly
    exact .inside rfl rfl (fun _ => rfl) hsame.passHolder
  | requested | received | listed => exact .inside rfl rfl id rfl
  | taken | filled | nothing | replaced => exact .inside rfl rfl (fun _ => rfl) rfl
  -- a pass ends with its operation, well or not
  | snapshotFailed | unlisted | unlistable | unreplaced | refused =>
    exact .leaves _ rfl rfl rfl rfl
  | mergeFailed | merged => exact .leaves _ rfl rfl rfl rfl

theorem state_hands (h : Moves config who op stage s stage' s') :
    Hands who stage.holdsState stage'.holdsState s.stateHolder s'.stateHolder := by
  cases h with
  | enterState v free =>
    rw [free]
    exact .taken
  | changed h =>
    rw [holdsState_afterChange]
    exact .given _
  | changeFailed | readFailed | read | snapshotFailed | protect | unprotect => exact .given _
  | mergeFailed | merged => exact .given _
  | enterPass | taken | requested | received | filled => exact .stays _ _
  | unlisted | unlistable | nothing | listed => exact .stays _ _
  | unreplaced | refused | replaced => exact .stays _ _

/-- The snapshot that a pass takes is the completed state, which is stored from then on. -/
theorem load_snapshot {r : PassRecord} {snapshot : SyncState}
    (move : Moves config who op (inState .snapshot) s stage' s')
    (h : (r.after config (inState .snapshot) s stage').snapshot = some snapshot) :
    ∃ found, s.states.load = .ok found ∧ snapshot = SyncState.completed config.lists found ∧
      s'.states.load = .ok (some snapshot) := by
  have hread : (s.loadReconciled config.lists).1.toOption = some snapshot := h
  cases move with
  | snapshotFailed heq =>
    rw [heq] at hread
    cases hread
  | protect heq | unprotect heq =>
    rw [heq] at hread
    cases hread
    exact (Shared.reading_of_eq heq).load_of_ok

end Stage.Moves

end FilterSync
