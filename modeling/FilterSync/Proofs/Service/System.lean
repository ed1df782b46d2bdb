import FilterSync.Proofs.Service.History

/-!
# Operations that run together

A system is any number of operations over what they share. Its turns come in any order:
an operation begins, one of those under way makes a step, or what surrounds them changes.
An operation that has to wait for a lock has no turn.

Main statements: `System.play_invariant`, by which what every turn keeps holds of every
run, and `System.locked_play`, by which the two locks are held by those who work under
them.
-/

namespace FilterSync

/-! ## Systems -/

/-- An operation that has begun. -/
structure Activity where
  op : Operation
  stage : Stage

/-- Whether an operation has ended well, if it has ended. -/
def Stage.endedWell? : Stage → Option Bool
  | ended result => some result.isOk
  | atState _ | inState _ | atPass => none
  | taking _ _ _ | downloading _ _ _ _ | listing _ | replacing _ _ => none

/-- Operations over what they share; each has the number of its place. -/
structure System where
  shared : Shared
  activities : List Activity := []
  history : History := {}

namespace System

/-- What may come next in a system. -/
inductive Turn
  | begin (op : Operation)
  /-- The operation with a number makes a step. -/
  | advance (who : Nat)
  /-- Other calls are going to fail, other downloads to come, or it is another time. -/
  | surround (w : Surroundings)

/-- A system over two stores in which nothing has begun. -/
def start (rules : RuleStore) (states : StateStore) : System where
  shared := { rules, states, clock := 0 }

variable (config : Config)

/-- The system after the operation `who` has gone from `stage` to `stage'`. -/
def moved (sys : System) (who : Nat) (op : Operation) (stage stage' : Stage) (s' : Shared) :
    System where
  shared := s'
  activities := sys.activities.set who ⟨op, stage'⟩
  history := sys.history.after config op stage sys.shared stage' s'

/-- The system after a turn, if it can have it. -/
def act (sys : System) : Turn → Option System
  | .begin op => some { sys with activities := sys.activities ++ [⟨op, op.start⟩] }
  | .surround w => some { sys with shared := sys.shared.amid w }
  | .advance who => do
    let a ← sys.activities[who]?
    let (stage, shared) ← a.stage.next config who a.op sys.shared
    some (sys.moved config who a.op a.stage stage shared)

/-- The system after a run, if it can have these turns. -/
def play (sys : System) : List Turn → Option System
  | [] => some sys
  | t :: turns => (sys.act config t).bind (·.play turns)

/-- The turns of a system with their outcome. -/
inductive Acts (sys : System) : System → Prop
  | begun (op : Operation) :
      Acts sys { sys with activities := sys.activities ++ [⟨op, op.start⟩] }
  | surrounded (w : Surroundings) : Acts sys { sys with shared := sys.shared.amid w }
  | advanced {who : Nat} {op : Operation} {stage stage' : Stage} {s' : Shared}
      (place : sys.activities[who]? = some ⟨op, stage⟩)
      (move : stage.Moves config who op sys.shared stage' s') :
      Acts sys (sys.moved config who op stage stage' s')

variable {config} {sys sys' : System}

theorem acts_of_act {t : Turn} (h : sys.act config t = some sys') : Acts config sys sys' := by
  cases t with
  | begin op =>
    cases h
    exact .begun op
  | surround w =>
    cases h
    exact .surrounded w
  | advance who =>
    obtain ⟨⟨op, stage⟩, hplace, h⟩ := Option.bind_eq_some_iff.1 h
    obtain ⟨⟨stage', s'⟩, hnext, h⟩ := Option.bind_eq_some_iff.1 h
    cases h
    exact .advanced hplace (Stage.moves_of_next hnext)

/-- What every turn keeps holds after every run. -/
theorem play_invariant {P : System → Prop}
    (hstep : ∀ {sys sys' : System}, P sys → Acts config sys sys' → P sys') (h₀ : P sys)
    {turns : List Turn} (hplay : sys.play config turns = some sys') : P sys' := by
  induction turns generalizing sys with
  | nil =>
    cases hplay
    exact h₀
  | cons t turns ih =>
    obtain ⟨next, hact, hrest⟩ := Option.bind_eq_some_iff.1 hplay
    exact ih (hstep h₀ (acts_of_act hact)) hrest

/-! ## Who holds a lock -/

theorem getElem?_set_place {as : List Activity} {who : Nat} {a : Activity}
    (hplace : as[who]? = some a) (b : Activity) (i : Nat) :
    (as.set who b)[i]? = if who = i then some b else as[i]? := by
  obtain ⟨hlt, -⟩ := List.getElem?_eq_some_iff.1 hplace
  rw [List.getElem?_set, if_pos hlt]

theorem getElem?_moved {who : Nat} {op : Operation} {stage : Stage}
    (hplace : sys.activities[who]? = some ⟨op, stage⟩) (stage' : Stage) (s' : Shared)
    (i : Nat) :
    (sys.moved config who op stage stage' s').activities[i]? =
      if who = i then some ⟨op, stage'⟩ else sys.activities[i]? :=
  getElem?_set_place hplace ⟨op, stage'⟩ i

theorem passes_moved_of_holdsPass {who : Nat} {op : Operation} {stage stage' : Stage}
    {s' : Shared} (hholds : stage.holdsPass = true) :
    (sys.moved config who op stage stage' s').history.passes =
      sys.history.passes.modifyHead (·.after config stage sys.shared stage') :=
  History.passes_after_of_holdsPass hholds _

theorem passes_moved_of_not_holdsPass {who : Nat} {op : Operation} {stage stage' : Stage}
    {s' : Shared} (hholds : stage.holdsPass = false) (hat : stage ≠ .atPass) :
    (sys.moved config who op stage stage' s').history.passes = sys.history.passes :=
  History.passes_after_of_not_holdsPass hholds hat _

theorem getElem?_begun {as : List Activity} {a b : Activity} {i : Nat}
    (h : (as ++ [a])[i]? = some b) : as[i]? = some b ∨ b = a := by
  rcases Nat.lt_trichotomy i as.length with hlt | rfl | hgt
  · rw [List.getElem?_append_left hlt] at h
    exact Or.inl h
  · rw [List.getElem?_concat_length] at h
    exact Or.inr (Option.some.inj h).symm
  · rw [List.getElem?_eq_none (by simp; omega)] at h
    cases h

theorem getElem?_of_begun {as : List Activity} {b : Activity} {i : Nat} (h : as[i]? = some b)
    (a : Activity) : (as ++ [a])[i]? = some b := by
  obtain ⟨hlt, -⟩ := List.getElem?_eq_some_iff.1 h
  rwa [List.getElem?_append_left hlt]

/-- A lock is held by the operation whose stage says so, if there is one. -/
def HeldBy (holds : Stage → Bool) (holder : Option Nat) (as : List Activity) : Prop :=
  ∀ i, holder = some i ↔ (as[i]?).any (fun a => holds a.stage) = true

theorem HeldBy.begun {holds : Stage → Bool} {holder : Option Nat} {as : List Activity}
    (h : HeldBy holds holder as) {a : Activity} (ha : holds a.stage = false) :
    HeldBy holds holder (as ++ [a]) := by
  intro i
  rw [h i]
  rcases Nat.lt_trichotomy i as.length with hlt | rfl | hgt
  · rw [List.getElem?_append_left hlt]
  · simp [ha]
  · rw [List.getElem?_eq_none (Nat.le_of_lt hgt), List.getElem?_eq_none (by simp; omega)]

theorem HeldBy.advanced {holds : Stage → Bool} {holder holder' : Option Nat}
    {as : List Activity} {who : Nat} {op : Operation} {stage stage' : Stage}
    (h : HeldBy holds holder as) (hplace : as[who]? = some ⟨op, stage⟩)
    (hhands : Hands who (holds stage) (holds stage') holder holder') :
    HeldBy holds holder' (as.set who ⟨op, stage'⟩) := by
  intro i
  rw [getElem?_set_place hplace]
  have hown : holder = some who ↔ holds stage = true := by
    rw [h who, hplace, Option.any_some]
  by_cases hi : who = i
  · subst hi
    rw [if_pos rfl, Option.any_some]
    generalize holds stage = before, holds stage' = after at hhands hown
    cases hhands with
    | stays b holder => exact hown
    | taken => simp
    | given holder => simp
  · rw [if_neg hi, ← h i]
    generalize holds stage = before, holds stage' = after at hhands hown
    cases hhands with
    | stays b holder => rfl
    | taken => simp [hi]
    | given holder =>
      -- the lock was not held by anyone else
      rw [hown.2 rfl]
      simp [hi]

theorem HeldBy.free {holds : Stage → Bool} {holder : Option Nat} {as : List Activity}
    (h : HeldBy holds holder as) (hnobody : ∀ a ∈ as, holds a.stage = false) :
    holder = none := by
  cases holder with
  | none => rfl
  | some i =>
    obtain ⟨a, ha, hholds⟩ := (Option.any_eq_true _ _).1 ((h i).1 rfl)
    rw [hnobody a (List.mem_of_getElem? ha)] at hholds
    cases hholds

/-- The locks are held by those who work under them, and the phase is that of the pass. -/
structure Locked (sys : System) : Prop where
  pass : HeldBy Stage.holdsPass sys.shared.passHolder sys.activities
  state : HeldBy Stage.holdsState sys.shared.stateHolder sys.activities
  phase : ∀ (i : Nat) (a : Activity), sys.activities[i]? = some a → a.stage.holdsPass = true →
    sys.shared.phase = a.stage.phase
  idle : sys.shared.passHolder = none → sys.shared.phase = .idle

namespace Locked

/-- Who holds the lock of passes is the only one to do so. -/
theorem eq_of_holdsPass (h : Locked sys) {i j : Nat} {a b : Activity}
    (hi : sys.activities[i]? = some a) (hj : sys.activities[j]? = some b)
    (ha : a.stage.holdsPass = true) (hb : b.stage.holdsPass = true) : i = j := by
  have hholder := (h.pass i).2 (by rw [hi]; exact ha)
  have hholder' := (h.pass j).2 (by rw [hj]; exact hb)
  exact Option.some.inj (hholder.symm.trans hholder')

theorem not_free (h : Locked sys) {i : Nat} {a : Activity} (hi : sys.activities[i]? = some a)
    (ha : a.stage.holdsPass = true) : sys.shared.passHolder ≠ none := by
  rw [(h.pass i).2 (by rw [hi]; exact ha)]
  exact Option.some_ne_none i

theorem step_moved (h : Locked sys) {who : Nat} {op : Operation} {stage stage' : Stage}
    {s' : Shared} (place : sys.activities[who]? = some ⟨op, stage⟩)
    (move : stage.Moves config who op sys.shared stage' s') :
    Locked (sys.moved config who op stage stage' s') := by
  refine ⟨h.pass.advanced place move.course.hands, h.state.advanced place move.state_hands,
    ?_, ?_⟩
  · intro i a hi ha
    rw [getElem?_moved place] at hi
    by_cases hwho : who = i
    · rw [if_pos hwho] at hi
      cases hi
      cases move.course with
      | outside before after =>
        rw [after] at ha
        cases ha
      | enters before after free shared =>
        -- nobody was in a pass, and the pass that begins here has no phase yet
        subst shared after
        exact h.idle free
      | inside before after phase => exact phase (h.phase who _ place before)
      | leaves result before after =>
        rw [after] at ha
        cases ha
    · rw [if_neg hwho] at hi
      cases move.course with
      | outside before after elsewhere rules phase => exact phase.trans (h.phase i a hi ha)
      | enters before after free => exact absurd free (h.not_free hi ha)
      | inside before => exact absurd (h.eq_of_holdsPass place hi before ha) hwho
      | leaves result before => exact absurd (h.eq_of_holdsPass place hi before ha) hwho
  · intro hnone
    cases move.course with
    | outside before after elsewhere rules phase holder =>
      exact phase.trans (h.idle (holder.symm.trans hnone))
    | enters before after free shared =>
      subst shared
      cases hnone
    | inside before after phase holder =>
      exact absurd (holder.symm.trans hnone) (h.not_free place before)
    | leaves result before after phase => exact phase

theorem step (h : Locked sys) (hacts : Acts config sys sys') : Locked sys' := by
  cases hacts with
  | begun op =>
    refine ⟨h.pass.begun (Stage.holdsPass_start op), h.state.begun (Stage.holdsState_start op),
      ?_, h.idle⟩
    intro i a hi ha
    rcases getElem?_begun hi with hi | rfl
    · exact h.phase i a hi ha
    · rw [Stage.holdsPass_start] at ha
      cases ha
  | surrounded w => exact ⟨h.pass, h.state, h.phase, h.idle⟩
  | advanced place move => exact h.step_moved place move

end Locked

theorem locked_start (rules : RuleStore) (states : StateStore) : Locked (start rules states) := by
  constructor
  · intro i
    simp [start]
  · intro i
    simp [start]
  · intro i a hi
    cases hi
  · intro _
    rfl

/-- In every run the locks are held by those who work under them. -/
theorem locked_play {rules : RuleStore} {states : StateStore} {turns : List Turn}
    (h : (start rules states).play config turns = some sys) : Locked sys :=
  play_invariant Locked.step (locked_start rules states) h

/-! ## A small system -/

/-- Room for three rules, and one list to take them from. -/
def oneList : Config where
  lists := [⟨"a", "A", "https://a", true⟩]
  rules := ⟨3, 100⟩

/-- Surroundings in which that list has a text and certain calls fail from now on. -/
def serving (fails : Target → Bool) (text : String) : Surroundings where
  faults := fun t => if fails t then some ⟨0, none, .sqlite "down"⟩ else none
  pages := .put .empty "https://a" ⟨.text text, none⟩
  clock := 5

end System

end FilterSync
