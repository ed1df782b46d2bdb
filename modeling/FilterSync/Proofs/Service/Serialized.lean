import FilterSync.Proofs.Service.Alone
import FilterSync.Proofs.Service.Noted
import Mathlib.Data.List.Destutter

/-!
# One pass at a time

However operations take turns and whatever fails, passes come one after the other. The phase is
driven by the pass under way alone, so that all who look at it meanwhile see it go from idle
through fetching and committing back to idle, and see nothing but idle between passes. The two
locks cannot be waited for in vain: who holds the lock of the state never waits, and who holds
the lock of passes waits for the lock of the state at most.

Main statement: `System.serialized_play`.
-/

namespace FilterSync

/-! ## Phases -/

/-- A call of a pass is noted with the phase that it belongs to. -/
def Call.InPhase : Call → Prop
  | .fetch _ phase => phase = .fetching
  | .ids phase | .replace _ _ phase => phase = .committing
  | .load | .save => True

theorem Stage.Makes.inPhase {stage : Stage} {call : Call} (h : stage.Makes stage.phase call) :
    call.InPhase := by
  cases call with
  | load | save => trivial
  | fetch url phase =>
    obtain ⟨rfl, p, l, left, filters, rfl, -⟩ := h
    rfl
  | ids phase =>
    obtain ⟨rfl, c, rfl⟩ := h
    rfl
  | replace removed added phase =>
    obtain ⟨rfl, live, c, rfl, -⟩ := h
    rfl

/-- Who is in no pass makes no calls of a pass. -/
theorem Stage.Makes.of_not_holdsPass {stage : Stage} {phase : Phase} {call : Call}
    (h : stage.Makes phase call) (hholds : stage.holdsPass = false) :
    call = .load ∨ call = .save := by
  cases call with
  | load => exact Or.inl rfl
  | save => exact Or.inr rfl
  | fetch url noted =>
    obtain ⟨-, p, l, left, filters, rfl, -⟩ := h
    cases hholds
  | ids noted =>
    obtain ⟨-, c, rfl⟩ := h
    cases hholds
  | replace removed added noted =>
    obtain ⟨-, live, c, rfl, -⟩ := h
    cases hholds

namespace Stage

/-- Whether an operation downloads or commits there. -/
def works : Stage → Bool
  | taking _ _ _ | downloading _ _ _ _ | listing _ | replacing _ _ => true
  | _ => false

theorem phase_of_not_works {stage : Stage} (h : stage.works = false) : stage.phase = .idle := by
  cases stage with
  | atState | inState | atPass | ended => rfl
  | taking | downloading | listing | replacing => cases h

end Stage

/-- The phases that a pass goes through: it may find no state to work for, and downloads
nothing without protection. -/
def Phase.course : Option SyncState → List Phase
  | none => [idle]
  | some snapshot =>
    if snapshot.protectionEnabled then [idle, fetching, committing, idle]
    else [idle, committing, idle]

namespace Stage

/-- The phases that are still to come in a pass, the present one included. -/
def ahead (snapshot : Option SyncState) : Stage → List Phase
  | atState .snapshot | inState .snapshot => Phase.course snapshot
  | taking _ _ _ | downloading _ _ _ _ => [.fetching, .committing, .idle]
  | listing _ | replacing _ _ => [.committing, .idle]
  | _ => [.idle]

/-- Whether a pass has no snapshot yet. -/
def beforeSnapshot : Stage → Bool
  | atState .snapshot | inState .snapshot => true
  | _ => false

/-- Whether a pass waits there to take its snapshot. -/
def awaitsSnapshot : Stage → Bool
  | atState .snapshot => true
  | _ => false

theorem awaitsSnapshot_iff {stage : Stage} :
    stage.awaitsSnapshot = true ↔ stage = atState .snapshot := by
  constructor
  · intro h
    unfold awaitsSnapshot at h
    split at h
    · rfl
    · cases h
  · rintro rfl
    rfl

variable {config : Config} {who : Nat} {op : Operation} {stage stage' : Stage} {s s' : Shared}
  {snapshot : Option SyncState}

/-- A step of a pass leads to what was to come. -/
theorem Moves.ahead (move : Moves config who op stage s stage' s')
    (hholds : stage.holdsPass = true) (hphase : s.phase = stage.phase)
    (hreads : stage = inState .snapshot →
      snapshot = (s.loadReconciled config.lists).1.toOption) :
    stage.ahead snapshot =
      if s.phase = s'.phase then stage'.ahead snapshot
      else s.phase :: stage'.ahead snapshot := by
  cases move with
  | enterPass | changeFailed | changed | readFailed | read => cases hholds
  | enterState v => cases v <;> exact (if_pos rfl).symm
  | snapshotFailed h =>
    rw [hreads rfl, h, hphase]
    rfl
  | protect h on =>
    rw [hreads rfl, h, hphase]
    simp [Stage.ahead, Phase.course, Except.toOption, on, Stage.phase]
  | unprotect h off =>
    rw [hreads rfl, h, hphase]
    simp [Stage.ahead, Phase.course, Except.toOption, off, Stage.phase]
  | requested | received | listed => exact (if_pos rfl).symm
  | taken | filled => simp [Stage.ahead, hphase, Stage.phase]
  | nothing | replaced => simp [Stage.ahead, hphase, Stage.phase]
  | unlisted | unlistable | unreplaced | refused =>
    simp [Stage.ahead, hphase, Stage.phase, leavePass]
  | mergeFailed | merged => simp [Stage.ahead, hphase, Stage.phase, leavePass]

theorem Moves.not_beforeSnapshot (move : Moves config who op stage s stage' s')
    (hholds : stage.holdsPass = true) (hstage : stage ≠ atState .snapshot) :
    stage'.beforeSnapshot = false := by
  cases move with
  | enterPass | changeFailed | changed | readFailed | read => cases hholds
  | enterState v =>
    cases v with
    | snapshot => exact absurd rfl hstage
    | change | read | merge => rfl
  | snapshotFailed | protect | unprotect => rfl
  | taken | requested | received | filled | listed | nothing | replaced => rfl
  | unlisted | unlistable | unreplaced | refused | mergeFailed | merged => rfl

end Stage

/-! ## Runs -/

namespace System

variable {config : Config} {sys sys' : System}

/-- The phases at all moments of a run. -/
def phases (config : Config) (sys : System) : List Turn → List Phase
  | [] => [sys.shared.phase]
  | t :: turns =>
    sys.shared.phase :: match sys.act config t with
      | none => []
      | some sys' => sys'.phases config turns

theorem phases_eq_cons (config : Config) (sys : System) (turns : List Turn) :
    ∃ rest, sys.phases config turns = sys.shared.phase :: rest := by
  cases turns <;> exact ⟨_, rfl⟩

/-- The phases without repetitions, with one more in front. -/
theorem destutter_phases_cons {t : Turn} {turns : List Turn} (hact : sys.act config t = some sys') :
    (sys.phases config (t :: turns)).destutter (· ≠ ·) =
      if sys.shared.phase = sys'.shared.phase then
        (sys'.phases config turns).destutter (· ≠ ·)
      else sys.shared.phase :: (sys'.phases config turns).destutter (· ≠ ·) := by
  obtain ⟨rest, hrest⟩ := phases_eq_cons config sys' turns
  have hcons : sys.phases config (t :: turns) =
      sys.shared.phase :: sys'.phases config turns := by
    rw [phases, hact]
  rw [hcons, hrest, List.destutter_cons_cons, List.destutter_cons']
  by_cases hsame : sys.shared.phase = sys'.shared.phase
  · rw [if_neg (not_not.2 hsame), if_pos hsame, hsame]
  · rw [if_pos hsame, if_neg hsame]

/-! ### Operations that are elsewhere -/

/-- An operation that has ended stays where it is. -/
theorem ended_play {who : Nat} {op : Operation} {result : Except SyncError Answer}
    {turns : List Turn} (place : sys.activities[who]? = some ⟨op, .ended result⟩)
    (hplay : sys.play config turns = some sys') :
    sys'.activities[who]? = some ⟨op, .ended result⟩ := by
  refine play_invariant (P := fun sys => sys.activities[who]? = some ⟨op, .ended result⟩)
    ?_ place hplay
  intro sys sys' hplace hacts
  cases hacts with
  | begun op' => exact getElem?_of_begun hplace _
  | surrounded w => exact hplace
  | @advanced i op' stage stage' s' place' move =>
    rw [getElem?_moved place']
    by_cases hi : i = who
    · subst hi
      rw [hplace] at place'
      cases place'
      cases move.not_isEnded
    · rwa [if_neg hi]

/-- To an operation in its pass nothing else happens than its own steps. -/
theorem Locked.acts_cases (h : Locked sys) {who : Nat} {op : Operation} {stage : Stage}
    (place : sys.activities[who]? = some ⟨op, stage⟩) (hholds : stage.holdsPass = true)
    (hacts : Acts config sys sys') :
    (sys'.activities[who]? = some ⟨op, stage⟩ ∧ sys'.shared.phase = sys.shared.phase ∧
      sys'.history.passes = sys.history.passes) ∨
    ∃ stage' s', stage.Moves config who op sys.shared stage' s' ∧
      sys' = sys.moved config who op stage stage' s' := by
  cases hacts with
  | begun op' => exact Or.inl ⟨getElem?_of_begun place _, rfl, rfl⟩
  | surrounded w => exact Or.inl ⟨place, rfl, rfl⟩
  | @advanced i op' stage' stage'' s' place' move =>
    by_cases hi : i = who
    · subst hi
      rw [place] at place'
      cases place'
      exact Or.inr ⟨_, _, move, rfl⟩
    · left
      have hplace : (sys.moved config i op' stage' stage'' s').activities[who]? =
          some ⟨op, stage⟩ := by rw [getElem?_moved place', if_neg hi, place]
      -- nobody else has the lock of passes, or can take it
      cases move.course with
      | outside before after elsewhere rules phase =>
        exact ⟨hplace, phase, passes_moved_of_not_holdsPass before elsewhere⟩
      | enters before after free => exact absurd free (h.not_free place hholds)
      | inside before => exact absurd (h.eq_of_holdsPass place' place before hholds) hi
      | leaves result before => exact absurd (h.eq_of_holdsPass place' place before hholds) hi

/-! ### The phases of a pass -/

/-- With a step of its own a pass is on record, and drives the phase to what was to come. -/
theorem Locked.own_step (h : Locked sys) {who : Nat} {op : Operation} {stage stage' : Stage}
    {s' : Shared} {r₀ : PassRecord} (place : sys.activities[who]? = some ⟨op, stage⟩)
    (hholds : stage.holdsPass = true) (hrecord : sys.history.passes.head? = some r₀)
    (move : stage.Moves config who op sys.shared stage' s') :
    ∃ r₁, (sys.moved config who op stage stage' s').history.passes.head? = some r₁ ∧
      ∀ r : PassRecord, (stage'.beforeSnapshot = false → r.snapshot = r₁.snapshot) →
        (stage.beforeSnapshot = false → r.snapshot = r₀.snapshot) ∧
        stage.ahead r.snapshot =
          if sys.shared.phase = s'.phase then stage'.ahead r.snapshot
          else sys.shared.phase :: stage'.ahead r.snapshot := by
  refine ⟨r₀.after config stage sys.shared stage', ?_, ?_⟩
  · rw [passes_moved_of_holdsPass hholds, List.head?_modifyHead, hrecord]
    rfl
  · intro r hr
    constructor
    · intro hread
      have hstage : stage ≠ .atState .snapshot ∧ stage ≠ .inState .snapshot := by
        constructor
        · rintro rfl
          cases hread
        · rintro rfl
          cases hread
      rw [hr (move.not_beforeSnapshot hholds hstage.1), PassRecord.after_snapshot hstage.2]
    · apply move.ahead hholds (h.phase who _ place hholds)
      rintro rfl
      rw [hr (move.not_beforeSnapshot hholds (by simp))]
      rfl

/-- A pass that ends in the step after these turns goes through the phases that were still to
come in its stage, for the snapshot that it ends with on record. -/
theorem phases_of_pass {who : Nat} {op op' : Operation} {stage last : Stage} {turns : List Turn}
    {r₀ : PassRecord} {result : Except SyncError Answer} {mid after : System}
    (hlocked : Locked sys) (place : sys.activities[who]? = some ⟨op, stage⟩)
    (hholds : stage.holdsPass = true) (hrecord : sys.history.passes.head? = some r₀)
    (hplay : sys.play config turns = some mid)
    (hmid : mid.activities[who]? = some ⟨op', last⟩) (hlast : last.holdsPass = true)
    (hact : mid.act config (.advance who) = some after)
    (hafter : after.activities[who]? = some ⟨op', .ended result⟩) :
    ∃ r, after.history.passes.head? = some r ∧
      (stage.beforeSnapshot = false → r.snapshot = r₀.snapshot) ∧
      (sys.phases config (turns ++ [.advance who])).destutter (· ≠ ·) =
        stage.ahead r.snapshot := by
  -- by induction on the turns: what is still to come shrinks with the steps of the pass
  induction turns generalizing sys stage r₀ with
  | nil =>
    obtain rfl : sys = mid := Option.some.inj hplay
    rcases hlocked.acts_cases place hholds (acts_of_act hact) with
      ⟨hplace, -, -⟩ | ⟨stage', s', move, rfl⟩
    · rw [hafter] at hplace
      cases hplace
      cases hholds
    · obtain ⟨r₁, hr₁, hown⟩ := hlocked.own_step place hholds hrecord move
      obtain ⟨hsnapshot, hahead⟩ := hown r₁ fun _ => rfl
      refine ⟨r₁, hr₁, hsnapshot, ?_⟩
      rw [getElem?_moved place, if_pos rfl] at hafter
      cases hafter
      have hidle : s'.phase = .idle := by
        rcases move.course.keeps_or_ends hholds with hstays | ⟨-, -, hidle⟩
        · cases hstays
        · exact hidle
      rw [List.nil_append, destutter_phases_cons hact, hahead]
      show (if sys.shared.phase = s'.phase then [s'.phase].destutter (· ≠ ·)
        else sys.shared.phase :: [s'.phase].destutter (· ≠ ·)) = _
      rw [hidle]
      rfl
  | cons t turns ih =>
    obtain ⟨next, hturn, hrest⟩ := Option.bind_eq_some_iff.1 hplay
    have hacts := acts_of_act hturn
    have hnext := hlocked.step hacts
    rw [List.cons_append, destutter_phases_cons hturn]
    rcases hlocked.acts_cases place hholds hacts with
      ⟨hplace, hphase, hpasses⟩ | ⟨stage', s', move, rfl⟩
    · obtain ⟨r, hr, hsnapshot, hphases⟩ := ih hnext hplace hholds (hpasses ▸ hrecord) hrest
      exact ⟨r, hr, hsnapshot, by rw [if_pos hphase.symm, hphases]⟩
    · have hplace : (sys.moved config who op stage stage' s').activities[who]? =
          some ⟨op, stage'⟩ := by rw [getElem?_moved place, if_pos rfl]
      have hstays : stage'.holdsPass = true := by
        rcases move.course.keeps_or_ends hholds with hstays | ⟨result', rfl, -⟩
        · exact hstays
        · -- it would have ended too early
          rw [ended_play hplace hrest] at hmid
          cases hmid
          cases hlast
      obtain ⟨r₁, hr₁, hown⟩ := hlocked.own_step place hholds hrecord move
      obtain ⟨r, hr, hsnapshot, hphases⟩ := ih hnext hplace hstays hr₁ hrest
      obtain ⟨hkept, hahead⟩ := hown r hsnapshot
      refine ⟨r, hr, hkept, ?_⟩
      rw [hphases, hahead]
      rfl

/-- Who has the lock of passes has a record. -/
def Recorded (sys : System) : Prop :=
  ∀ a ∈ sys.activities, a.stage.holdsPass = true → ∃ r, sys.history.passes.head? = some r

theorem Recorded.step (h : Recorded sys) (hacts : Acts config sys sys') : Recorded sys' := by
  cases hacts with
  | begun op =>
    intro a ha hholds
    rcases List.mem_append.1 ha with ha | ha
    · exact h a ha hholds
    · rw [List.mem_singleton.1 ha, Stage.holdsPass_start] at hholds
      cases hholds
  | surrounded w => exact h
  | @advanced who op stage stage' s' place move =>
    intro a ha hholds
    by_cases hat : stage = .atPass
    · subst hat
      exact ⟨{}, rfl⟩
    · cases hbefore : stage.holdsPass with
      | true =>
        obtain ⟨r, hr⟩ := h _ (List.mem_of_getElem? place) hbefore
        rw [passes_moved_of_holdsPass hbefore, List.head?_modifyHead, hr]
        exact ⟨_, rfl⟩
      | false =>
        rw [passes_moved_of_not_holdsPass hbefore hat]
        rcases List.mem_or_eq_of_mem_set ha with ha | rfl
        · exact h a ha hholds
        · rw [move.course.keeps_out hbefore hat] at hholds
          cases hholds

theorem recorded_play {rules : RuleStore} {states : StateStore} {turns : List Turn}
    (h : (start rules states).play config turns = some sys) : Recorded sys := by
  refine play_invariant Recorded.step ?_ h
  intro a ha
  cases ha

/-! ### The calls of passes -/

/-- Every call is noted with the phase that it belongs to. -/
theorem inPhase_play {rules : RuleStore} {states : StateStore} {turns : List Turn}
    (h : (start rules states).play config turns = some sys) :
    ∀ e ∈ sys.shared.events, e.call.InPhase := by
  have hboth : Locked sys ∧ ∀ e ∈ sys.shared.events, e.call.InPhase := by
    refine play_invariant (P := fun sys => Locked sys ∧ ∀ e ∈ sys.shared.events, e.call.InPhase)
      ?_ ⟨locked_start rules states, by simp [start]⟩ h
    rintro sys sys' ⟨hlocked, hnoted⟩ hacts
    refine ⟨hlocked.step hacts, ?_⟩
    cases hacts with
    | begun op => exact hnoted
    | surrounded w => exact hnoted
    | @advanced who op stage stage' s' place move =>
      obtain ⟨calls, hevents, hmakes⟩ := move.makes
      intro e he
      have hmem : e ∈ calls ++ sys.shared.events := hevents ▸ he
      rcases List.mem_append.1 hmem with he | he
      · have hmade := hmakes e he
        cases hholds : stage.holdsPass with
        | true =>
          rw [hlocked.phase who _ place hholds] at hmade
          exact hmade.inPhase
        | false =>
          rcases hmade.of_not_holdsPass hholds with hload | hsave
          · rw [hload]
            trivial
          · rw [hsave]
            trivial
      · exact hnoted e he
  exact hboth.2

/-- The calls of a turn with who made them, the last one first. -/
def made (sys sys' : System) : Turn → List (Nat × Call)
  | .advance who =>
    (sys'.shared.events.take (sys'.shared.events.length - sys.shared.events.length)).map
      fun e => (who, e.call)
  | _ => []

/-- The calls of a run with who made them, the last one first. -/
def calls (config : Config) (sys : System) : List Turn → List (Nat × Call)
  | [] => []
  | t :: turns =>
    match sys.act config t with
    | none => []
    | some sys' => sys'.calls config turns ++ sys.made sys' t

/-- Who made the calls of passes. -/
def passCallers (calls : List (Nat × Call)) : List Nat :=
  (calls.filter fun (_, call) => match call with
    | .load | .save => false
    | _ => true).map (·.1)

theorem passCallers_append (calls calls' : List (Nat × Call)) :
    passCallers (calls ++ calls') = passCallers calls ++ passCallers calls' := by
  unfold passCallers
  rw [List.filter_append, List.map_append]

/-- Nobody calls again after somebody else has called; the last one comes first. -/
def Unmixed : List Nat → Prop
  | [] => True
  | who :: earlier => (who ∈ earlier → earlier.head? = some who) ∧ Unmixed earlier

theorem Unmixed.append {who : Nat} {more earlier : List Nat} (h : Unmixed earlier)
    (hmore : ∀ i ∈ more, i = who) (hlast : who ∈ earlier → earlier.head? = some who) :
    Unmixed (more ++ earlier) ∧ (who ∈ more ++ earlier → (more ++ earlier).head? = some who) := by
  induction more with
  | nil => exact ⟨h, hlast⟩
  | cons i more ih =>
    obtain rfl : i = who := hmore i List.mem_cons_self
    obtain ⟨hunmixed, hhead⟩ := ih fun j hj => hmore j (List.mem_cons_of_mem _ hj)
    exact ⟨⟨hhead, hunmixed⟩, fun _ => rfl⟩

/-- Who has called in a pass has ended, or was the last one to do so and is in its pass. -/
structure CallsInTurn (sys : System) (earlier : List Nat) : Prop where
  locked : Locked sys
  unmixed : Unmixed earlier
  callers : ∀ i ∈ earlier, ∃ a, sys.activities[i]? = some a ∧
    (a.stage.isEnded = true ∨ a.stage.holdsPass = true ∧ earlier.head? = some i)

theorem CallsInTurn.advanced {who : Nat} {op : Operation} {stage stage' : Stage} {s' : Shared}
    {earlier more : List Nat} (h : CallsInTurn sys earlier)
    (place : sys.activities[who]? = some ⟨op, stage⟩)
    (move : stage.Moves config who op sys.shared stage' s') (hmore : ∀ i ∈ more, i = who)
    (hnone : stage.holdsPass = false → more = []) :
    CallsInTurn (sys.moved config who op stage stage' s') (more ++ earlier) := by
  have hlast : who ∈ earlier → stage.holdsPass = true ∧ earlier.head? = some who := by
    intro hwho
    obtain ⟨a, ha, hended | hhead⟩ := h.callers who hwho
    · rw [place] at ha
      cases ha
      rw [move.not_isEnded] at hended
      cases hended
    · rw [place] at ha
      cases ha
      exact hhead
  obtain ⟨hunmixed, hhead⟩ := h.unmixed.append hmore fun hwho => (hlast hwho).2
  refine ⟨h.locked.step_moved place move, hunmixed, ?_⟩
  intro i hi
  rw [getElem?_moved place]
  by_cases hwho : who = i
  · subst hwho
    rw [if_pos rfl]
    have hholds : stage.holdsPass = true := by
      rcases List.mem_append.1 hi with hi | hi
      · by_contra hnot
        rw [hnone (Bool.not_eq_true _ ▸ hnot)] at hi
        cases hi
      · exact (hlast hi).1
    refine ⟨_, rfl, ?_⟩
    rcases move.course.keeps_or_ends hholds with hstays | ⟨result, rfl, -⟩
    · exact Or.inr ⟨hstays, hhead hi⟩
    · exact Or.inl rfl
  · rw [if_neg hwho]
    have hold : i ∈ earlier := by
      rcases List.mem_append.1 hi with hi | hi
      · exact absurd (hmore i hi).symm hwho
      · exact hi
    obtain ⟨a, ha, hended | ⟨hholds, hfirst⟩⟩ := h.callers i hold
    · exact ⟨a, ha, Or.inl hended⟩
    · -- as `i` is in its pass, nobody else calls
      have hnot : stage.holdsPass = false := by
        by_contra hpass
        exact hwho (h.locked.eq_of_holdsPass place ha (by simpa using hpass) hholds)
      rw [hnone hnot]
      exact ⟨a, ha, Or.inr ⟨hholds, hfirst⟩⟩

/-- What a turn adds to the calls of passes comes in turn. -/
theorem CallsInTurn.step {t : Turn} {earlier : List Nat} (h : CallsInTurn sys earlier)
    (hact : sys.act config t = some sys') :
    CallsInTurn sys' (passCallers (sys.made sys' t) ++ earlier) := by
  cases t with
  | begin op =>
    have hlocked := h.locked.step (acts_of_act hact)
    cases hact
    refine ⟨hlocked, h.unmixed, ?_⟩
    intro i hi
    obtain ⟨a, ha, hcalls⟩ := h.callers i hi
    exact ⟨a, getElem?_of_begun ha _, hcalls⟩
  | surround w =>
    have hlocked := h.locked.step (acts_of_act hact)
    cases hact
    exact ⟨hlocked, h.unmixed, h.callers⟩
  | advance who =>
    obtain ⟨⟨op, stage⟩, place, hact⟩ := Option.bind_eq_some_iff.1 hact
    obtain ⟨⟨stage', s'⟩, hnext, hact⟩ := Option.bind_eq_some_iff.1 hact
    cases hact
    have move := Stage.moves_of_next hnext
    obtain ⟨noted, hevents, hmakes⟩ := move.makes
    have hmade : sys.made (sys.moved config who op stage stage' s') (.advance who) =
        noted.map fun e => (who, e.call) := by
      show (s'.events.take (s'.events.length - sys.shared.events.length)).map _ = _
      rw [hevents, List.length_append, Nat.add_sub_cancel, List.take_left]
    rw [hmade]
    apply h.advanced place move
    · intro i hi
      obtain ⟨⟨j, call⟩, hcall, rfl⟩ := List.mem_map.1 hi
      obtain ⟨e, -, he⟩ := List.mem_map.1 (List.mem_of_mem_filter hcall)
      cases he
      rfl
    · intro hholds
      unfold passCallers
      rw [List.map_eq_nil_iff, List.filter_eq_nil_iff]
      intro entry hentry
      obtain ⟨e, he, rfl⟩ := List.mem_map.1 hentry
      rcases (hmakes e he).of_not_holdsPass hholds with hload | hsave
      · simp [hload]
      · simp [hsave]

theorem CallsInTurn.play {turns : List Turn} {earlier : List (Nat × Call)}
    (h : CallsInTurn sys (passCallers earlier)) (hplay : sys.play config turns = some sys') :
    CallsInTurn sys' (passCallers (sys.calls config turns ++ earlier)) := by
  induction turns generalizing sys earlier with
  | nil =>
    cases hplay
    exact h
  | cons t turns ih =>
    obtain ⟨next, hact, hrest⟩ := Option.bind_eq_some_iff.1 hplay
    have hstep := h.step hact
    rw [← passCallers_append] at hstep
    have hcalls : sys.calls config (t :: turns) ++ earlier =
        next.calls config turns ++ (sys.made next t ++ earlier) := by
      rw [calls, hact, List.append_assoc]
    rw [hcalls]
    exact ih hstep hrest

/-! ### Waiting -/

theorem act_of_exists_next {i : Nat} {op : Operation} {stage : Stage}
    (place : sys.activities[i]? = some ⟨op, stage⟩)
    (hnext : ∃ stage' s', stage.next config i op sys.shared = some (stage', s')) :
    (sys.act config (.advance i)).isSome = true := by
  obtain ⟨stage', s', hnext⟩ := hnext
  simp [act, place, hnext]

/-- Who has not ended can make a step, or a lock is held by somebody who can. -/
theorem Locked.goes_on (h : Locked sys) {i : Nat} {a : Activity}
    (place : sys.activities[i]? = some a) (going : a.stage.isEnded = false) :
    ∃ j, (sys.act config (.advance j)).isSome = true ∧
      (j = i ∨ sys.shared.stateHolder = some j ∨ sys.shared.passHolder = some j) := by
  cases hstate : sys.shared.stateHolder with
  | some j =>
    -- who holds the lock of the state waits for nothing
    obtain ⟨⟨op, stage⟩, hj, hholds⟩ := (Option.any_eq_true _ _).1 ((h.state j).1 hstate)
    refine ⟨j, act_of_exists_next hj ?_, Or.inr (Or.inl rfl)⟩
    cases stage with
    | inState v => exact ⟨_, _, rfl⟩
    | atState | atPass | taking | downloading | listing | replacing | ended => cases hholds
  | none =>
    by_cases hat : a.stage = .atPass
    · cases hpass : sys.shared.passHolder with
      | none =>
        refine ⟨i, act_of_exists_next place ?_, Or.inl rfl⟩
        exact Stage.exists_next (fun _ _ => hstate) (fun _ => hpass) going
      | some j =>
        -- who holds the lock of passes waits for the lock of the state at most
        obtain ⟨⟨op, stage⟩, hj, hholds⟩ := (Option.any_eq_true _ _).1 ((h.pass j).1 hpass)
        refine ⟨j, act_of_exists_next hj ?_, Or.inr (Or.inr rfl)⟩
        apply Stage.exists_next (fun _ _ => hstate)
        · rintro rfl
          cases hholds
        · cases stage with
          | ended => cases hholds
          | atState | inState | atPass | taking | downloading | listing | replacing => rfl
    · refine ⟨i, act_of_exists_next place ?_, Or.inl rfl⟩
      exact Stage.exists_next (fun _ _ => hstate) (fun hpass => absurd hpass hat) going

/-! ### All of it -/

/-- What the locks make of a run: passes come one after the other, each in its phases, and the
run can go on. -/
structure Serialized (config : Config) (first : System) (turns : List Turn) (sys : System) :
    Prop where
  /-- One operation at most is between the snapshot and the end of its pass. -/
  single : ∀ (i j : Nat) (a b : Activity), sys.activities[i]? = some a →
    sys.activities[j]? = some b → a.stage.holdsPass = true → b.stage.holdsPass = true → i = j
  /-- The calls of passes come pass by pass. -/
  unmixed : Unmixed (passCallers (first.calls config turns))
  idle : (∀ a ∈ sys.activities, a.stage.works = false) → sys.shared.phase = .idle
  /-- While a pass is under way, the phase is that of its stage. -/
  phase : ∀ (i : Nat) (a : Activity), sys.activities[i]? = some a → a.stage.holdsPass = true →
    sys.shared.phase = a.stage.phase
  inPhase : ∀ e ∈ sys.shared.events, e.call.InPhase
  /-- From taking the lock of passes to the end of the pass, well or not, whoever looks sees the
  phases of its snapshot. -/
  course : ∀ (who : Nat) (op op' : Operation) (last : Stage) (result : Except SyncError Answer)
    (meanwhile : List Turn) (mid after : System),
    sys.activities[who]? = some ⟨op, .atState .snapshot⟩ →
    sys.play config meanwhile = some mid → mid.activities[who]? = some ⟨op', last⟩ →
    last.holdsPass = true → mid.act config (.advance who) = some after →
    after.activities[who]? = some ⟨op', .ended result⟩ →
    ∃ r, after.history.passes.head? = some r ∧
      (sys.phases config (meanwhile ++ [.advance who])).destutter (· ≠ ·) =
        Phase.course r.snapshot
  /-- Who has not ended can make a step, or a lock is held by somebody who can. -/
  goesOn : ∀ (i : Nat) (a : Activity), sys.activities[i]? = some a → a.stage.isEnded = false →
    ∃ j, (sys.act config (.advance j)).isSome = true ∧
      (j = i ∨ sys.shared.stateHolder = some j ∨ sys.shared.passHolder = some j)

/-- Whatever operations there are, in whatever order they have turns and whichever calls fail,
passes are serialized. -/
theorem serialized_play {rules : RuleStore} {states : StateStore} {turns : List Turn}
    (h : (start rules states).play config turns = some sys) :
    Serialized config (start rules states) turns sys := by
  have hlocked := locked_play h
  constructor
  · intro i j a b hi hj ha hb
    exact hlocked.eq_of_holdsPass hi hj ha hb
  · have hstart : CallsInTurn (start rules states) (passCallers []) :=
      ⟨locked_start rules states, trivial, by simp [passCallers]⟩
    have hcalls := (hstart.play h).unmixed
    rwa [List.append_nil] at hcalls
  · intro hnobody
    cases hholder : sys.shared.passHolder with
    | none => exact hlocked.idle hholder
    | some i =>
      obtain ⟨a, ha, hholds⟩ := (Option.any_eq_true _ _).1 ((hlocked.pass i).1 hholder)
      rw [hlocked.phase i a ha hholds]
      exact Stage.phase_of_not_works (hnobody a (List.mem_of_getElem? ha))
  · exact hlocked.phase
  · exact inPhase_play h
  · intro who op op' last result meanwhile mid after place hplay hmid hlast hact hafter
    obtain ⟨r₀, hr₀⟩ := recorded_play h _ (List.mem_of_getElem? place) rfl
    obtain ⟨r, hr, -, hphases⟩ :=
      phases_of_pass hlocked place rfl hr₀ hplay hmid hlast hact hafter
    exact ⟨r, hr, hphases⟩
  · intro i a place going
    exact hlocked.goes_on place going

/-- A refresh has just begun its pass, while protection is about to be taken away. -/
def overlapping : List Turn :=
  [.surround (serving (· = .replace) "||ads.example^"), .begin .refresh,
    .begin (.setProtectionEnabled false), .advance 0]

/-- Protection is taken away while the refresh downloads; then it has listed the live rules. -/
def listedMeanwhile : List Turn :=
  [.advance 0, .advance 0, .advance 0, .advance 1, .advance 1] ++ List.replicate 3 (.advance 0)

theorem serialized_play_overlapping : ∃ sys mid after r,
    (start (.new .memory) (.memory none)).play oneList overlapping = some sys ∧
    sys.play oneList listedMeanwhile = some mid ∧
    mid.act oneList (.advance 0) = some after ∧
    after.history.passes.head? = some r ∧
    (sys.phases oneList (listedMeanwhile ++ [.advance 0])).destutter (· ≠ ·) =
      Phase.course r.snapshot ∧
    Phase.course r.snapshot = [.idle, .fetching, .committing, .idle] := by
  have hseen : ((start (.new .memory) (.memory none)).play oneList overlapping).any (fun sys =>
      (sys.activities[0]?.any fun a => a.op = .refresh && a.stage.awaitsSnapshot) &&
      (sys.play oneList listedMeanwhile).any fun mid =>
        (mid.activities[0]?.any fun a => a.op = .refresh && a.stage.holdsPass) &&
        (mid.act oneList (.advance 0)).any fun after =>
          (after.activities[0]?.any fun a => a.op = .refresh && a.stage.isEnded) &&
          after.history.passes.head?.any fun r =>
            Phase.course r.snapshot = [.idle, .fetching, .committing, .idle]) = true := by
    decide +kernel
  simp only [Option.any_eq_true, Bool.and_eq_true, decide_eq_true_eq, Stage.isEnded_iff,
    Stage.awaitsSnapshot_iff] at hseen
  obtain ⟨sys, hplay, ⟨⟨op, stage⟩, hplace, rfl, rfl⟩, mid, hmid,
    ⟨⟨op', last⟩, hlast, rfl, hholds⟩, after, hact, ⟨⟨op'', final⟩, hfinal, rfl, result, rfl⟩,
    r, hr, hcourse⟩ := hseen
  obtain ⟨r', hr', hcourse'⟩ :=
    (serialized_play hplay).course 0 _ _ _ _ _ _ _ hplace hmid hlast hholds hact hfinal
  rw [hr] at hr'
  cases hr'
  exact ⟨sys, mid, after, r, hplay, hmid, hact, hr, hcourse', hcourse⟩

end System

end FilterSync
