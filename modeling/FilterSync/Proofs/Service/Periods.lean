import FilterSync.Proofs.Service.CatchUp

/-!
# Periodic refreshes

Whatever the order in which time passes, refreshes are asked for and operations go on, a loop that
has caught up with the clock has started one refresh for every token that it has received, and one
for every multiple of the period in each of the gaps between tokens, and none besides. So it makes
no difference whether time passes in one go or in parts, or whether a request that is merged with a
waiting one was made at all.

Main statement: `TimedUpdater.accounted_play`.
-/

namespace FilterSync

open Updater (Turn)

/-! ## Requests that are merged -/

/-- The updater with another log. -/
def Updater.withLog (u : Updater) (log : List Note) : Updater := { u with log }

/-- What an updater does is not for its log to say. -/
theorem Updater.exists_act_withLog (config : Config) (u : Updater) (log : List Note) (t : Turn) :
    ∃ log', (u.withLog log).act config t = (u.act config t).map (·.withLog log') := by
  cases t with
  | serve t =>
    refine ⟨u.notes t ++ log, ?_⟩
    show (u.service.act config t).map _ = ((u.service.act config t).map _).map _
    rw [Option.map_map]
    rfl
  | ask =>
    refine ⟨.asked u.loop.request.1 :: log, ?_⟩
    unfold act
    show (if u.attended then _ else none) = _
    split <;> rfl
  | elapse ms => exact ⟨log, rfl⟩
  | receive =>
    refine ⟨.took .token :: log, ?_⟩
    show u.loop.receive?.map _ = (u.loop.receive?.map _).map _
    rw [Option.map_map]
    rfl
  | tick =>
    refine ⟨.took .dueTime :: log, ?_⟩
    show u.loop.tick?.map _ = (u.loop.tick?.map _).map _
    rw [Option.map_map]
    rfl
  | begin =>
    refine ⟨.began (Note.pending? log) u.service.activities.length :: log, ?_⟩
    show u.loop.begin?.bind _ = (u.loop.begin?.bind _).map _
    cases u.loop.begin? <;> rfl
  | finish =>
    unfold act
    show ∃ log', u.waitsFor.bind _ = (u.waitsFor.bind _).map _
    cases u.waitsFor with
    | none => exact ⟨log, rfl⟩
    | some who =>
      show ∃ log', (u.service.activities[who]?).bind _ = ((u.service.activities[who]?).bind _).map _
      cases u.service.activities[who]? with
      | none => exact ⟨log, rfl⟩
      | some a =>
        show ∃ log', a.stage.endedWell?.bind _ = (a.stage.endedWell?.bind _).map _
        cases a.stage.endedWell? with
        | none => exact ⟨log, rfl⟩
        | some well =>
          refine ⟨.ended well :: log, ?_⟩
          show u.loop.finish?.bind _ = (u.loop.finish?.bind _).map _
          cases u.loop.finish? <;> rfl
  | leave => exact ⟨log, rfl⟩
  | close =>
    refine ⟨log, ?_⟩
    unfold act
    show (if u.attended || u.loop.queued || u.loop.stage ≠ .idle then none else _) = _
    split <;> rfl

namespace TimedUpdater

variable {config : Config} {c c' : TimedUpdater}

/-- The updater with another log. -/
def withLog (c : TimedUpdater) (log : List Note) : TimedUpdater :=
  { c with updater := c.updater.withLog log }

theorem exists_act_withLog (config : Config) (c : TimedUpdater) (log : List Note) (t : Turn) :
    ∃ log', (c.withLog log).act config t = (c.act config t).map (·.withLog log') := by
  obtain ⟨log', hact⟩ := c.updater.exists_act_withLog config log t
  refine ⟨log', ?_⟩
  have hyields : (c.withLog log).yields t = c.yields t := by cases t <;> rfl
  unfold act
  rw [hyields]
  split
  · rfl
  · show ((c.updater.withLog log).act config t).map _ = _
    rw [hact, Option.map_map, Option.map_map]
    congr 1
    funext u
    cases t <;> rfl

theorem exists_play_withLog (config : Config) (c : TimedUpdater) (log : List Note)
    (turns : List Turn) :
    ∃ log', (c.withLog log).play config turns = (c.play config turns).map (·.withLog log') := by
  induction turns generalizing c log with
  | nil => exact ⟨log, rfl⟩
  | cons t turns ih =>
    obtain ⟨log', hact⟩ := c.exists_act_withLog config log t
    simp only [play, hact]
    cases c.act config t with
    | none => exact ⟨log, rfl⟩
    | some next => exact ih next log'

/-- What the loop is up to and what it has done. -/
def course (c : TimedUpdater) : RefreshLoop × List Start × List Nat :=
  (c.updater.loop, c.started, c.received)

/-- A request that is merged with a waiting one changes nothing but the log. -/
theorem course_play_of_merged (hqueued : c.updater.loop.queued = true)
    (hact : c.act config .ask = some c') (turns : List Turn) :
    (c'.play config turns).map course = (c.play config turns).map course := by
  have hmerged : c' = c.withLog (.asked false :: c.updater.log) := by
    obtain ⟨u, hasked, rfl⟩ := Option.map_eq_some_iff.1 hact
    simp only [Updater.act, RefreshLoop.request, hqueued, Bool.true_or, if_true] at hasked
    split at hasked
    · cases hasked
      rfl
    · cases hasked
  obtain ⟨log', hplay⟩ := c.exists_play_withLog config (.asked false :: c.updater.log) turns
  rw [hmerged, hplay, Option.map_map]
  rfl

/-! ## Time in parts -/

/-- Where no token waits, none is received before somebody asks. -/
theorem kept_of_own {t : Turn} (hown : t.isOwn = true) (hact : c.act config t = some c')
    (hnone : c.updater.loop.queued = false) :
    c'.updater.loop.now = c.updater.loop.now ∧ c'.updater.loop.queued = false ∧
      c'.received = c.received := by
  cases acts_of_act hact with
  | aside haside =>
    have hask : t ≠ .ask := by
      rintro rfl
      cases hown
    exact ⟨haside.now, (haside.queued hask).trans hnone, rfl⟩
  | elapsed ms => cases hown
  | received idle queued early =>
    rw [hnone] at queued
    cases queued
  | ticked idle late => exact ⟨rfl, hnone, rfl⟩
  | begun due hlog hloop =>
    rw [hloop]
    exact ⟨rfl, hnone, rfl⟩

theorem Reaches.kept (h : Reaches config c c') (hnone : c.updater.loop.queued = false) :
    c'.updater.loop.now = c.updater.loop.now ∧ c'.updater.loop.queued = false ∧
      c'.received = c.received := by
  obtain ⟨turns, hturns, hplay⟩ := h
  induction turns generalizing c with
  | nil =>
    cases hplay
    exact ⟨rfl, hnone, rfl⟩
  | cons t turns ih =>
    obtain ⟨next, hact, hrest⟩ := Option.bind_eq_some_iff.1 hplay
    obtain ⟨hown, hturns⟩ := List.forall_mem_cons.1 hturns
    obtain ⟨hnow, hqueued, hreceived⟩ := kept_of_own hown hact hnone
    obtain ⟨hnow', hqueued', hreceived'⟩ := ih hqueued hturns hrest
    exact ⟨hnow'.trans hnow, hqueued', hreceived'.trans hreceived⟩

variable {period base : Nat}

theorem act_elapse (config : Config) (c : TimedUpdater) (ms : Nat) :
    c.act config (.elapse ms) = some (c.elapse ms) := rfl

theorem Scheduled.reaches (hperiod : 0 < period) (h : Scheduled period base c)
    (hreaches : Reaches config c c') : Scheduled period base c' := by
  obtain ⟨turns, -, hplay⟩ := hreaches
  exact play_invariant (fun h => h.step hperiod) h hplay

/-- What was started and when the next refresh is due follows from the tokens and the clock. -/
theorem Scheduled.unique (h : Scheduled period base c) (h' : Scheduled period base c')
    (hcaughtUp : c.CaughtUp) (hcaughtUp' : c'.CaughtUp) (hreceived : c'.received = c.received)
    (hnow : c'.updater.loop.now = c.updater.loop.now) :
    c'.started.map (·.toOccasion) = c.started.map (·.toOccasion) ∧
      c'.updater.loop.deadline = c.updater.loop.deadline := by
  rw [h.started_eq hcaughtUp, h'.started_eq hcaughtUp', h.deadline_eq hcaughtUp,
    h'.deadline_eq hcaughtUp', hreceived, hnow]
  exact ⟨rfl, rfl⟩

/-- Where no token waits, time can pass in one go or in two parts. -/
theorem Scheduled.split (hperiod : 0 < period) (h : Scheduled period base c)
    (hnone : c.updater.loop.queued = false) {a b : Nat} {once midway twice : TimedUpdater}
    (honce : Reaches config (c.elapse (a + b)) once)
    (hmidway : Reaches config (c.elapse a) midway)
    (htwice : Reaches config (midway.elapse b) twice) (hcaughtUp : once.CaughtUp)
    (hcaughtUp' : twice.CaughtUp) :
    twice.started.map (·.toOccasion) = once.started.map (·.toOccasion) ∧
      twice.updater.loop.deadline = once.updater.loop.deadline := by
  obtain ⟨hnow, -, hreceived⟩ := honce.kept hnone
  obtain ⟨hnow₁, hnone₁, hreceived₁⟩ := hmidway.kept hnone
  obtain ⟨hnow₂, -, hreceived₂⟩ := htwice.kept hnone₁
  have hscheduled := (h.step hperiod (act_elapse config c (a + b))).reaches hperiod honce
  have hscheduled₁ := (h.step hperiod (act_elapse config c a)).reaches hperiod hmidway
  have hscheduled₂ := (hscheduled₁.step hperiod (act_elapse config midway b)).reaches hperiod htwice
  apply hscheduled.unique hscheduled₂ hcaughtUp hcaughtUp'
  · rw [hreceived₂, hreceived]
    exact hreceived₁
  · rw [hnow₂, hnow]
    show midway.updater.loop.now + b = c.updater.loop.now + (a + b)
    rw [hnow₁, ← Nat.add_assoc]
    rfl

/-! ## Refreshes on time -/

/-- No time passes while the loop is busy, and none beyond a due time that it has not taken. -/
def Prompt (config : Config) (c : TimedUpdater) : List Turn → Prop
  | [] => True
  | t :: turns =>
    (∀ ms, t = .elapse ms → c.updater.loop.stage = .idle ∧
      c.updater.loop.now + ms ≤ c.updater.loop.deadline) ∧
    ∀ c', c.act config t = some c' → c'.Prompt config turns

/-- Refreshes are started at the times that they are started for. -/
structure OnTime (c : TimedUpdater) : Prop where
  noted : Noted c
  early : c.updater.loop.now ≤ c.updater.loop.deadline
  pending : ∀ o ∈ c.pending, o.time = c.updater.loop.now
  started : ∀ s ∈ c.started, s.clock = s.time

theorem OnTime.step {t : Turn} (h : OnTime c) (hact : c.act config t = some c')
    (hprompt : ∀ ms, t = .elapse ms → c.updater.loop.stage = .idle ∧
      c.updater.loop.now + ms ≤ c.updater.loop.deadline) : OnTime c' := by
  have hnoted := h.noted.step hact
  cases acts_of_act hact with
  | aside haside =>
    refine ⟨hnoted, ?_, ?_, h.started⟩
    · rw [haside.now, haside.deadline]
      exact h.early
    · rw [haside.now]
      exact h.pending
  | elapsed ms =>
    obtain ⟨idle, hearly⟩ := hprompt ms rfl
    refine ⟨hnoted, hearly, ?_, h.started⟩
    have hnone : (c.elapse ms).pending = none :=
      h.noted.pending_of_ne (by rw [idle]; decide)
    intro o ho
    rw [hnone] at ho
    cases ho
  | received idle queued early =>
    refine ⟨hnoted, Nat.le_add_right _ _, ?_, h.started⟩
    rintro o ⟨⟩
    rfl
  | ticked idle late =>
    refine ⟨hnoted, Nat.le_add_right_of_le h.early, ?_, h.started⟩
    rintro o ⟨⟩
    exact Nat.le_antisymm late h.early
  | begun due hlog hloop =>
    refine ⟨hnoted, ?_, nofun, ?_⟩
    · rw [hloop]
      exact h.early
    · intro s hs
      rcases List.mem_append.1 hs with hs | hs
      · exact h.started s hs
      · obtain ⟨o, ho, rfl⟩ := List.mem_map.1 hs
        exact (h.pending o (Option.mem_toList.1 ho)).symm

theorem OnTime.play {turns : List Turn} (h : OnTime c) (hprompt : c.Prompt config turns)
    (hplay : c.play config turns = some c') : OnTime c' := by
  induction turns generalizing c with
  | nil =>
    cases hplay
    exact h
  | cons t turns ih =>
    obtain ⟨next, hact, hrest⟩ := Option.bind_eq_some_iff.1 hplay
    exact ih (h.step hact hprompt.1) (hprompt.2 next hact) hrest

theorem onTime_start (service : System) (period now : Nat) :
    OnTime (start service period now) :=
  ⟨(scheduled_start service period now).noted, Nat.le_add_right _ _, nofun, nofun⟩

/-! ## All of it -/

/-- A loop whose period began to be counted at `base` keeps the account of its refreshes. -/
structure Accounted (config : Config) (period base : Nat) (first : TimedUpdater)
    (turns : List Turn) (c : TimedUpdater) : Prop where
  /-- Whenever the loop has caught up with the clock, it has started one refresh for each token
  that it has received, and one for each due time in each gap up to now. -/
  table : c.CaughtUp → c.started.map (·.toOccasion) =
    Occasion.timetable period base c.received c.updater.loop.now
  /-- The next refresh is due at the first multiple of the period that is yet to come. -/
  deadline : c.CaughtUp → c.updater.loop.deadline = Occasion.lastBase base c.received +
    ((c.updater.loop.now - Occasion.lastBase base c.received) / period + 1) * period
  /-- All tokens that were left have been received, but for the one that waits. -/
  tokens : c.updater.log.count (.asked true) = c.received.length + c.updater.loop.queued.toNat
  /-- Each start is that of an operation of the service. -/
  began : (c.updater.log.filterMap Note.began?).reverse = c.started.map fun s => some s.cause
  late : ∀ s ∈ c.started, s.time ≤ s.clock
  onTime : first.Prompt config turns → ∀ s ∈ c.started, s.clock = s.time
  /-- After a refresh for a token none is due for a whole period. -/
  spaced : c.started.Pairwise fun s s' =>
    s.cause = .token → s'.cause = .dueTime → s.time + period ≤ s'.time
  /-- Where no token waits, it makes no difference whether time passes in two parts. -/
  split : c.updater.loop.queued = false → ∀ (a b : Nat) (once midway twice : TimedUpdater),
    Reaches config (c.elapse (a + b)) once → Reaches config (c.elapse a) midway →
    Reaches config (midway.elapse b) twice → once.CaughtUp → twice.CaughtUp →
    twice.started.map (·.toOccasion) = once.started.map (·.toOccasion) ∧
      twice.updater.loop.deadline = once.updater.loop.deadline
  /-- Where a token waits, it makes no difference whether a refresh is asked for once more. -/
  merged : c.updater.loop.queued = true → ∀ c', c.act config .ask = some c' → ∀ turns',
    (c'.play config turns').map course = (c.play config turns').map course
  /-- The loop can catch up and receive the token before time goes on. -/
  settles : c.updater.loop.stage ≠ .ended → ∃ c', Reaches config c c' ∧ c'.CaughtUp ∧
    c'.updater.loop.queued = false ∧ c'.updater.loop.now = c.updater.loop.now ∧
    c'.received = c.received ++
      if c.updater.loop.queued then [c.updater.loop.now] else []

/-- In whatever order time passes, refreshes are asked for and operations go on, the refreshes of
the loop are those of the timetable. -/
theorem accounted_play {period base : Nat} (hperiod : 0 < period) {rules : RuleStore}
    {states : StateStore} {turns : List Turn}
    (hplay : (start (.start rules states) period base).play config turns = some c) :
    Accounted config period base (start (.start rules states) period base) turns c := by
  have hscheduled := scheduled_play hperiod hplay
  have hnoted := hscheduled.noted
  constructor
  · exact hscheduled.started_eq
  · exact hscheduled.deadline_eq
  · rw [← hnoted.received]
    exact hnoted.kept.tokens
  · exact hnoted.started
  · exact hscheduled.late
  · intro hprompt
    exact ((onTime_start _ _ _).play hprompt hplay).started
  · have hspaced := hscheduled.spaced
    unfold taken at hspaced
    rw [List.pairwise_append, List.pairwise_map] at hspaced
    exact hspaced.1
  · intro hnone a b once midway twice honce hmidway htwice hcaughtUp hcaughtUp'
    exact hscheduled.split hperiod hnone honce hmidway htwice hcaughtUp hcaughtUp'
  · intro hqueued c' hact turns'
    exact course_play_of_merged hqueued hact turns'
  · intro going
    have hable : c.updater.Able :=
      Updater.play_invariant Updater.Able.step (Updater.able_start rules states period base)
        (updater_play hplay)
    exact exists_settled config (hscheduled.hasPeriod ▸ hperiod) hable going

/-- A refresh of the loop that fails, as the operation with the number `who`. -/
def failing (who : Nat) : List Turn :=
  .begin :: List.replicate 3 (.serve (.advance who)) ++ [.finish]

/-- Time jumps over two due times, and a refresh is asked for twice before the loop gets to any of
them. A due time that falls behind the token is left for later. -/
def jumping : List Turn :=
  [.serve (.surround (System.serving (· = .load) "||ads.example^")), .elapse 25, .ask, .ask] ++
    .tick :: failing 0 ++ .tick :: failing 1 ++ .receive :: failing 2 ++
    .elapse 11 :: .tick :: failing 3

theorem accounted_play_jumping :
    ∃ c, (start (.start (.new .memory) (.memory none)) 10 0).play System.oneList jumping = some c ∧
      c.started.map (·.toOccasion) = Occasion.timetable 10 0 [25] 36 ∧
      Occasion.timetable 10 0 [25] 36 =
        [⟨.dueTime, 10⟩, ⟨.dueTime, 20⟩, ⟨.token, 25⟩, ⟨.dueTime, 35⟩] ∧
      c.started.map (·.clock) = [25, 25, 25, 36] ∧ c.updater.loop.deadline = 45 ∧
      c.updater.log.count (.asked true) = 1 := by
  have hseen : ((start (.start (.new .memory) (.memory none)) 10 0).play System.oneList
      jumping).any (fun c => decide c.CaughtUp && c.received = [25] && c.updater.loop.now = 36 &&
        c.started.map (·.clock) = [25, 25, 25, 36] && !c.updater.loop.queued) = true := by
    decide +kernel
  simp only [Option.any_eq_true, Bool.and_eq_true, decide_eq_true_eq, Bool.not_eq_true'] at hseen
  obtain ⟨c, hplay, ⟨⟨⟨hcaughtUp, hreceived⟩, hnow⟩, hclocks⟩, hnone⟩ := hseen
  have haccounted := accounted_play (by decide) hplay
  have htable := haccounted.table hcaughtUp
  have hdeadline := haccounted.deadline hcaughtUp
  have htokens := haccounted.tokens
  rw [hreceived, hnow] at htable hdeadline
  rw [hreceived, hnone] at htokens
  exact ⟨c, hplay, htable, by decide, hclocks, hdeadline, htokens⟩

end TimedUpdater

end FilterSync
