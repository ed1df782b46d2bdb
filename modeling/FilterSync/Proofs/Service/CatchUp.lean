import FilterSync.Proofs.Service.Serialized
import FilterSync.Proofs.Service.Timetable
import Mathlib.Algebra.GroupWithZero.Nat

/-!
# Catching up

Operations that are under way come to an end if nothing new begins, since somebody can always make
a step and what they have to do gets less with every step. So a loop that has not ended comes to
the end of its refresh, then starts one for each due time up to now, and one for the token if there
is one. All of this can happen while nobody asks and no time passes.

Main statements: `System.Locked.exists_ended` and `TimedUpdater.exists_settled`.
-/

namespace FilterSync

/-! ## Operations come to an end -/

namespace System

variable {config : Config} {sys sys' : System}

/-- What all operations together still have to do. -/
def rank (sys : System) : Nat × Nat :=
  ((sys.activities.map (·.stage.rank.1)).sum, (sys.activities.map (·.stage.rank.2)).sum)

theorem rankLt_of_advance {who : Nat} (hact : sys.act config (.advance who) = some sys') :
    Stage.RankLt sys'.rank sys.rank := by
  obtain ⟨⟨op, stage⟩, place, hact⟩ := Option.bind_eq_some_iff.1 hact
  obtain ⟨⟨stage', s'⟩, hnext, hact⟩ := Option.bind_eq_some_iff.1 hact
  cases hact
  obtain ⟨hwho, hget⟩ := List.getElem?_eq_some_iff.1 place
  obtain ⟨before, after, hsplit, -, hset⟩ : ∃ before after : List Activity, _ ∧ _ ∧
      sys.activities.set who ⟨op, stage'⟩ = before ++ ⟨op, stage'⟩ :: after :=
    List.exists_of_set hwho
  rw [hget] at hsplit
  simp only [rank, moved]
  rw [hset, hsplit]
  simp only [List.map_append, List.map_cons, List.sum_append, List.sum_cons]
  -- the others still have to do what they had to do before
  have hrank : Stage.RankLt stage'.rank stage.rank := Stage.rank_next_lt hnext
  rcases Prod.lex_def.1 hrank with hless | ⟨hsame, hless⟩
  · exact Stage.rankLt_of_fst (by omega)
  · rw [hsame]
    exact Stage.rankLt_of_snd (by omega)

/-- Every operation can be brought to its end by steps of those that are under way. -/
theorem Locked.exists_ended (config : Config) {sys : System} (h : Locked sys) {who : Nat} {op : Operation} {stage : Stage}
    (place : sys.activities[who]? = some ⟨op, stage⟩) :
    ∃ (steps : List Nat) (sys' : System) (last : Stage),
      sys.play config (steps.map .advance) = some sys' ∧
      sys'.activities[who]? = some ⟨op, last⟩ ∧ last.isEnded = true := by
  cases hended : stage.isEnded with
  | true => exact ⟨[], sys, stage, rfl, place, hended⟩
  | false =>
    obtain ⟨j, hgoes, -⟩ : ∃ j, (sys.act config (.advance j)).isSome = true ∧ _ :=
      h.goes_on place hended
    obtain ⟨next, hact⟩ := Option.isSome_iff_exists.1 hgoes
    obtain ⟨stage', hplace⟩ := op_of_act place hact
    have hless := rankLt_of_advance hact
    obtain ⟨steps, sys', last, hplay, hlast⟩ :=
      (h.step (acts_of_act hact)).exists_ended config hplace
    refine ⟨j :: steps, sys', last, ?_, hlast⟩
    rw [List.map_cons, play, hact]
    exact hplay
termination_by sys.rank
decreasing_by exact hless

end System

/-! ## The loop comes to rest -/

/-- What the loop needs to go on: the locks are in order, and a running refresh is one of the
operations of the service. -/
structure Updater.Able (u : Updater) : Prop where
  locked : System.Locked u.service
  waits : u.loop.stage = .running → ∃ who op stage,
    u.waitsFor = some who ∧ u.service.activities[who]? = some ⟨op, stage⟩

theorem Updater.Able.step {config : Config} {u u' : Updater} (h : Able u)
    (hacts : Acts config u u') : Able u' := by
  cases hacts with
  | served hact | read hact =>
    refine ⟨h.locked.step (System.acts_of_act hact), ?_⟩
    intro hrunning
    obtain ⟨who, op, stage, hwho, place⟩ := h.waits hrunning
    obtain ⟨stage', place'⟩ := System.op_of_act place hact
    exact ⟨who, op, stage', hwho, place'⟩
  | granted | merged | elapsed | left => exact ⟨h.locked, h.waits⟩
  | received | ticked | finished | closed => exact ⟨h.locked, nofun⟩
  | begun due =>
    refine ⟨h.locked.step (.begun .refresh : System.Acts config _ _), fun _ => ?_⟩
    exact ⟨_, .refresh, .atPass, rfl, List.getElem?_concat_length⟩

theorem Updater.able_start (rules : RuleStore) (states : StateStore) (period now : Nat) :
    Able (start (.start rules states) period now) := by
  refine ⟨System.locked_start rules states, ?_⟩
  intro hrunning
  cases hrunning

/-- Whether a turn is a step of an operation that is under way, or one that the loop makes by
itself. -/
def Updater.Turn.isOwn : Updater.Turn → Bool
  | serve (.advance _) | receive | tick | begin | finish => true
  | serve (.begin _) | serve (.surround _) | ask | elapse _ | leave | close => false

theorem Stage.exists_endedWell? {stage : Stage} (h : stage.isEnded = true) :
    ∃ well, stage.endedWell? = some well := by
  obtain ⟨result, rfl⟩ := Stage.isEnded_iff.1 h
  exact ⟨result.isOk, rfl⟩

namespace TimedUpdater

open Updater (Turn Able)

variable {config : Config} {c c' c'' : TimedUpdater}

/-- The updater can get there while nobody asks and no time passes. -/
def Reaches (config : Config) (c c' : TimedUpdater) : Prop :=
  ∃ turns : List Turn, (∀ t ∈ turns, t.isOwn = true) ∧ c.play config turns = some c'

theorem Reaches.refl (c : TimedUpdater) : Reaches config c c := ⟨[], nofun, rfl⟩

theorem Reaches.head {t : Turn} (hown : t.isOwn = true) (hact : c.act config t = some c')
    (h : Reaches config c' c'') : Reaches config c c'' := by
  obtain ⟨turns, hturns, hplay⟩ := h
  refine ⟨t :: turns, List.forall_mem_cons.2 ⟨hown, hturns⟩, ?_⟩
  rw [play, hact]
  exact hplay

theorem Reaches.trans (h : Reaches config c c') (h' : Reaches config c' c'') :
    Reaches config c c'' := by
  obtain ⟨turns, hturns, hplay⟩ := h
  induction turns generalizing c with
  | nil =>
    cases hplay
    exact h'
  | cons t turns ih =>
    obtain ⟨next, hact, hrest⟩ := Option.bind_eq_some_iff.1 hplay
    obtain ⟨hown, hturns⟩ := List.forall_mem_cons.1 hturns
    exact (ih hturns hrest).head hown hact

theorem Reaches.able (h : Reaches config c c') (hable : c.updater.Able) : c'.updater.Able := by
  obtain ⟨turns, -, hplay⟩ := h
  exact Updater.play_invariant Able.step hable (updater_play hplay)

/-- A turn that has nothing to wait for. -/
theorem act_of_updater {t : Turn} {u : Updater} (ht : c.yields t = false)
    (h : c.updater.act config t = some u) : c.act config t = some (c.noted u t) := by
  rw [act, ht, h]
  rfl

/-- The service goes on while the loop waits. -/
theorem exists_reaches_of_play {steps : List Nat} {service : System}
    (h : c.updater.service.play config (steps.map .advance) = some service) :
    ∃ c', Reaches config c c' ∧ c'.updater.service = service ∧
      c'.updater.loop = c.updater.loop ∧ c'.updater.waitsFor = c.updater.waitsFor ∧
      c'.received = c.received := by
  induction steps generalizing c with
  | nil =>
    cases h
    exact ⟨c, .refl c, rfl, rfl, rfl, rfl⟩
  | cons j steps ih =>
    obtain ⟨next, hact, hrest⟩ := Option.bind_eq_some_iff.1 h
    have hturn : c.updater.act config (.serve (.advance j)) = some { c.updater with
        service := next, log := c.updater.notes (.advance j) ++ c.updater.log } := by
      rw [Updater.act, hact]
      rfl
    obtain ⟨c', hreaches, hc'⟩ := ih (c := { c with updater := { c.updater with
        service := next, log := c.updater.notes (.advance j) ++ c.updater.log } }) hrest
    exact ⟨c', hreaches.head rfl (act_of_updater rfl hturn), hc'⟩

/-- The loop can come to rest, without taking anything. -/
structure Rests (config : Config) (c c' : TimedUpdater) : Prop where
  reaches : Reaches config c c'
  loop : c'.updater.loop = { c.updater.loop with stage := .idle }
  received : c'.received = c.received

variable (config)

theorem exists_rests_of_running (hable : c.updater.Able)
    (running : c.updater.loop.stage = .running) : ∃ c', Rests config c c' := by
  obtain ⟨who, op, stage, hwaits, place⟩ := hable.waits running
  obtain ⟨steps, service, last, hplay, hplace, hended⟩ :=
    hable.locked.exists_ended config place
  obtain ⟨c', hreaches, hservice, hloop, hwaits', hreceived⟩ := exists_reaches_of_play hplay
  obtain ⟨well, hwell⟩ := Stage.exists_endedWell? hended
  have hfinish : c'.updater.act config .finish = some { c'.updater with
      loop := { c'.updater.loop with stage := .idle }, waitsFor := none
      log := .ended well :: c'.updater.log } := by
    simp [Updater.act, RefreshLoop.finish?, hwaits', hwaits, hservice, hplace, hwell, hloop,
      running]
  refine ⟨_, hreaches.trans (Reaches.head rfl (act_of_updater rfl hfinish) (.refl _)), ?_, ?_⟩
  · show { c'.updater.loop with stage := .idle } = _
    rw [hloop]
  · exact hreceived

theorem exists_rests_of_due (hable : c.updater.Able) (due : c.updater.loop.stage = .due) :
    ∃ c', Rests config c c' := by
  have hbegin : ∃ u, c.updater.act config .begin = some u ∧
      u.loop = { c.updater.loop with stage := .running } := by
    simp [Updater.act, RefreshLoop.begin?, due, System.act]
  obtain ⟨u, hact, hloop⟩ := hbegin
  have hbegun := act_of_updater (c := c) rfl hact
  obtain ⟨c', hrests⟩ := exists_rests_of_running config (c := c.noted u .begin)
    (hable.step (Updater.acts_of_act hact)) (congrArg RefreshLoop.stage hloop)
  refine ⟨c', hrests.reaches.head rfl hbegun, ?_, hrests.received⟩
  rw [hrests.loop]
  show { u.loop with stage := .idle } = _
  rw [hloop]

theorem exists_rests (hable : c.updater.Able) (going : c.updater.loop.stage ≠ .ended) :
    ∃ c', Rests config c c' := by
  cases hstage : c.updater.loop.stage with
  | idle => exact ⟨c, .refl c, by rw [← hstage], rfl⟩
  | due => exact exists_rests_of_due config hable hstage
  | running => exact exists_rests_of_running config hable hstage
  | ended => exact absurd hstage going

/-! ## The loop catches up -/

/-- A loop that rests can catch up with the clock, one due time after the other. -/
theorem exists_caughtUp {c : TimedUpdater} (hperiod : 0 < c.updater.loop.period) (hable : c.updater.Able)
    (idle : c.updater.loop.stage = .idle) :
    ∃ c', Reaches config c c' ∧ c'.CaughtUp ∧ c'.received = c.received ∧
      c'.updater.loop.now = c.updater.loop.now ∧
      c'.updater.loop.period = c.updater.loop.period ∧
      c'.updater.loop.queued = c.updater.loop.queued := by
  by_cases early : c.updater.loop.now < c.updater.loop.deadline
  · exact ⟨c, .refl c, ⟨idle, early⟩, rfl, rfl, rfl, rfl⟩
  · have htick : c.updater.act config .tick = some { c.updater with
        loop := { c.updater.loop with
          stage := .due, deadline := c.updater.loop.deadline + c.updater.loop.period }
        log := .took .dueTime :: c.updater.log } := by
      simp [Updater.act, RefreshLoop.tick?, idle, Nat.le_of_not_lt early]
    have hticked := act_of_updater (c := c) rfl htick
    obtain ⟨rested, hrests⟩ := exists_rests_of_due config
      (hable.step (Updater.acts_of_act htick)) (c := c.noted _ .tick) rfl
    have hless : rested.updater.loop.now + rested.updater.loop.period -
        rested.updater.loop.deadline <
        c.updater.loop.now + c.updater.loop.period - c.updater.loop.deadline := by
      rw [hrests.loop]
      show c.updater.loop.now + c.updater.loop.period -
        (c.updater.loop.deadline + c.updater.loop.period) < _
      omega
    obtain ⟨c', hreaches, hcaughtUp, hreceived, hnow, hkept, hqueued⟩ :=
      exists_caughtUp (c := rested) (by rw [hrests.loop]; exact hperiod)
        (hrests.reaches.able (hable.step (Updater.acts_of_act htick))) (by rw [hrests.loop])
    rw [hrests.loop] at hnow hkept hqueued
    exact ⟨c', (hrests.reaches.trans hreaches).head rfl hticked, hcaughtUp,
      hreceived.trans hrests.received, hnow, hkept, hqueued⟩
termination_by c.updater.loop.now + c.updater.loop.period - c.updater.loop.deadline
decreasing_by exact hless

/-- A loop that has not ended can serve all that is due and receive the token, if there is one,
before time goes on. -/
theorem exists_settled (hperiod : 0 < c.updater.loop.period) (hable : c.updater.Able)
    (going : c.updater.loop.stage ≠ .ended) :
    ∃ c', Reaches config c c' ∧ c'.CaughtUp ∧ c'.updater.loop.queued = false ∧
      c'.updater.loop.now = c.updater.loop.now ∧
      c'.received = c.received ++
        if c.updater.loop.queued then [c.updater.loop.now] else [] := by
  obtain ⟨rested, hrests⟩ := exists_rests config hable going
  obtain ⟨late, hreaches, hcaughtUp, hreceived, hnow, hkept, hqueued⟩ :=
    exists_caughtUp config (c := rested) (by rw [hrests.loop]; exact hperiod)
      (hrests.reaches.able hable) (by rw [hrests.loop])
  rw [hrests.loop] at hnow hkept hqueued
  rw [hrests.received] at hreceived
  have hlate := hrests.reaches.trans hreaches
  cases htoken : c.updater.loop.queued with
  | false => exact ⟨late, hlate, hcaughtUp, hqueued.trans htoken, hnow, by simp [hreceived]⟩
  | true =>
    have hreceive : late.updater.act config .receive = some { late.updater with
        loop := { late.updater.loop with
          queued := false, stage := .due
          deadline := late.updater.loop.now + late.updater.loop.period }
        log := .took .token :: late.updater.log } := by
      simp [Updater.act, RefreshLoop.receive?, hcaughtUp.1, hqueued, htoken]
    have hfirst : late.yields .receive = false := by simp [yields, hcaughtUp.2]
    obtain ⟨c', hrests'⟩ := exists_rests_of_due config
      ((hlate.able hable).step (Updater.acts_of_act hreceive)) (c := late.noted _ .receive) rfl
    refine ⟨c', hlate.trans (hrests'.reaches.head rfl (act_of_updater hfirst hreceive)), ?_⟩
    -- the next due time is a whole period away
    have hdeadline : c'.updater.loop.deadline =
        c'.updater.loop.now + c.updater.loop.period := by
      rw [hrests'.loop, ← hkept]
      rfl
    refine ⟨⟨by rw [hrests'.loop], by omega⟩, ?_, ?_, ?_⟩
    · rw [hrests'.loop]
      rfl
    · rw [hrests'.loop]
      exact hnow
    · rw [hrests'.received]
      show late.received ++ [late.updater.loop.now] = _
      rw [hreceived, hnow, if_pos rfl]

end TimedUpdater

end FilterSync
