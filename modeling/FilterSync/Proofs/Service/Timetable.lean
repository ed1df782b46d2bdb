import FilterSync.Proofs.Service.Requests

/-!
# The timetable of refreshes

The times at which tokens are received say when refreshes are due. A token is an occasion for a
refresh when it is received, and a new period begins with it. From one token to the next, from the
start of the loop to the first of them, and from the last of them to the present there is another
occasion at every multiple of the period. That is the timetable.

An updater is timed by noting its occasions and the starts of its refreshes. A refresh for a due
time may be started later than it is due, if the clock has gone on in the meantime, but stays a
refresh for that time. Where a due time and a token can both be taken, the due time comes first.

Main statements: `Occasion.mem_periodic`, `TimedUpdater.acts_of_act` and
`TimedUpdater.scheduled_play`.
-/

namespace FilterSync

/-- What a refresh is started for, and when that was. -/
structure Occasion where
  cause : Cause
  time : Nat
  deriving DecidableEq, Repr

namespace Occasion

/-! ## Timetables -/

/-- The due times after `base`, up to `last`. -/
def periodic (period base last : Nat) : List Occasion :=
  (List.range ((last - base) / period)).map fun k => ⟨.dueTime, base + (k + 1) * period⟩

/-- The occasions from `base` to `last`, if tokens are received at certain times. -/
def timetable (period base : Nat) : List Nat → Nat → List Occasion
  | [], last => periodic period base last
  | r :: received, last =>
    periodic period base r ++ ⟨.token, r⟩ :: timetable period r received last

/-- The time at which the present period began to be counted. -/
def lastBase (base : Nat) (received : List Nat) : Nat := received.getLastD base

@[simp] theorem lastBase_concat (base : Nat) (received : List Nat) (r : Nat) :
    lastBase base (received ++ [r]) = r := by
  simp [lastBase]

variable {period base last n : Nat}

theorem periodic_eq (hfrom : base + n * period ≤ last) (hto : last < base + (n + 1) * period) :
    periodic period base last =
      (List.range n).map fun k => ⟨.dueTime, base + (k + 1) * period⟩ := by
  have hcount : (last - base) / period = n := by
    apply Nat.div_eq_of_lt_le
    · omega
    · omega
  rw [periodic, hcount]

/-- There is one due time at each positive multiple of the period. -/
theorem mem_periodic (hperiod : 0 < period) {o : Occasion} :
    o ∈ periodic period base last ↔
      o.cause = .dueTime ∧ ∃ k, 0 < k ∧ o.time = base + k * period ∧ o.time ≤ last := by
  unfold periodic
  rw [List.mem_map]
  constructor
  · rintro ⟨k, hk, rfl⟩
    rw [List.mem_range, Nat.lt_iff_add_one_le, Nat.le_div_iff_mul_le hperiod] at hk
    have hpos : 0 < (k + 1) * period := Nat.mul_pos k.succ_pos hperiod
    refine ⟨rfl, k + 1, k.succ_pos, rfl, ?_⟩
    show base + (k + 1) * period ≤ last
    omega
  · rintro ⟨hcause, k, hk, htime, hlast⟩
    obtain ⟨k, rfl⟩ := Nat.exists_eq_add_one_of_ne_zero (Nat.ne_of_gt hk)
    refine ⟨k, ?_, ?_⟩
    · rw [List.mem_range, Nat.lt_iff_add_one_le, Nat.le_div_iff_mul_le hperiod]
      omega
    · obtain ⟨cause, time⟩ := o
      cases hcause
      cases htime
      rfl

theorem pairwise_periodic (hperiod : 0 < period) :
    (periodic period base last).Pairwise (·.time < ·.time) := by
  unfold periodic
  rw [List.pairwise_map]
  refine List.pairwise_lt_range.imp ?_
  intro j k hjk
  have hmul : (j + 1) * period < (k + 1) * period :=
    Nat.mul_lt_mul_of_pos_right (Nat.succ_lt_succ hjk) hperiod
  show base + (j + 1) * period < base + (k + 1) * period
  omega

/-- What comes in front of the present period does not depend on the present. -/
theorem exists_timetable_eq (period base : Nat) (received : List Nat) :
    ∃ earlier, ∀ last, timetable period base received last =
      earlier ++ periodic period (lastBase base received) last := by
  induction received generalizing base with
  | nil => exact ⟨[], fun last => rfl⟩
  | cons r received ih =>
    obtain ⟨earlier, hearlier⟩ := ih r
    refine ⟨periodic period base r ++ ⟨.token, r⟩ :: earlier, ?_⟩
    intro last
    have hbase : lastBase base (r :: received) = lastBase r received := List.getLastD_cons
    rw [timetable, hearlier, hbase, List.append_assoc, List.cons_append]

/-- The next token ends the present period. -/
theorem timetable_concat (period base : Nat) (received : List Nat) (r last : Nat) :
    timetable period base (received ++ [r]) last =
      timetable period base received r ++ ⟨.token, r⟩ :: periodic period r last := by
  induction received generalizing base with
  | nil => rfl
  | cons r' received ih =>
    rw [List.cons_append, timetable, timetable, ih, List.append_assoc, List.cons_append]

/-- Nothing comes between a due time and the next one. -/
theorem timetable_eq {received : List Nat}
    (hfrom : lastBase base received + n * period ≤ last)
    (hto : last < lastBase base received + (n + 1) * period) :
    timetable period base received last =
      timetable period base received (lastBase base received + n * period) := by
  obtain ⟨earlier, hearlier⟩ := exists_timetable_eq period base received
  rw [hearlier, hearlier, periodic_eq hfrom hto, periodic_eq (Nat.le_refl _) (by omega)]

/-- The next due time is the next occasion. -/
theorem timetable_succ (hperiod : 0 < period) (received : List Nat) :
    timetable period base received (lastBase base received + (n + 1) * period) =
      timetable period base received (lastBase base received + n * period) ++
        [⟨.dueTime, lastBase base received + (n + 1) * period⟩] := by
  obtain ⟨earlier, hearlier⟩ := exists_timetable_eq period base received
  have hstep : ∀ m, m * period < (m + 1) * period := fun m =>
    Nat.mul_lt_mul_of_pos_right m.lt_succ_self hperiod
  rw [hearlier, hearlier, periodic_eq (Nat.le_refl _) (Nat.add_lt_add_left (hstep (n + 1)) _),
    periodic_eq (Nat.le_refl _) (Nat.add_lt_add_left (hstep n) _), List.range_succ,
    List.map_append, List.append_assoc, List.map_singleton]

end Occasion

/-! ## Timed updaters -/

/-- A refresh that was started. -/
structure Start extends Occasion where
  /-- What the clock showed. -/
  clock : Nat
  deriving DecidableEq, Repr

/-- An updater with the times of what its loop has done, in the order in which it was done. -/
structure TimedUpdater where
  updater : Updater
  /-- What the loop has taken and not yet started a refresh for. -/
  pending : Option Occasion := none
  started : List Start := []
  /-- When tokens were received. -/
  received : List Nat := []

/-- What a refresh was started for, if one was. -/
def Note.began? : Note → Option (Option Cause)
  | began cause _ => some cause
  | asked _ | took _ | read _ | ended _ => none

namespace TimedUpdater

open Updater (Turn Kept)

def start (service : System) (period now : Nat) : TimedUpdater where
  updater := .start service period now

/-- What a turn that leads to an updater puts on record. -/
def noted (c : TimedUpdater) (u : Updater) : Turn → TimedUpdater
  | .receive =>
    { c with
      updater := u
      pending := some ⟨.token, c.updater.loop.now⟩
      received := c.received ++ [c.updater.loop.now] }
  | .tick => { c with updater := u, pending := some ⟨.dueTime, c.updater.loop.deadline⟩ }
  | .begin =>
    { c with
      updater := u
      pending := none
      started := c.started ++ c.pending.toList.map (⟨·, c.updater.loop.now⟩) }
  | .serve _ | .ask | .elapse _ | .finish | .leave | .close => { c with updater := u }

/-- Whether something is to come first: a token waits for the due times up to now. -/
def yields (c : TimedUpdater) : Turn → Bool
  | .receive => c.updater.loop.deadline ≤ c.updater.loop.now
  | _ => false

/-- The updater after some time. -/
def elapse (c : TimedUpdater) (ms : Nat) : TimedUpdater :=
  { c with updater := { c.updater with loop := c.updater.loop.elapse ms } }

variable (config : Config)

/-- The updater after a turn, if it can have it. -/
def act (c : TimedUpdater) (t : Turn) : Option TimedUpdater :=
  if c.yields t then none else (c.updater.act config t).map fun u => c.noted u t

/-- The updater after a run, if it can have these turns. -/
def play (c : TimedUpdater) : List Turn → Option TimedUpdater
  | [] => some c
  | t :: turns => (c.act config t).bind (·.play turns)

/-- The occasions that the loop has taken, the last of which it may still have to serve. -/
def taken (c : TimedUpdater) : List Occasion :=
  c.started.map (·.toOccasion) ++ c.pending.toList

/-- The loop is idle and has taken every due time up to now. -/
def CaughtUp (c : TimedUpdater) : Prop :=
  c.updater.loop.stage = .idle ∧ c.updater.loop.now < c.updater.loop.deadline

instance (c : TimedUpdater) : Decidable c.CaughtUp := inferInstanceAs (Decidable (_ ∧ _))

variable {config} {c c' : TimedUpdater}

theorem updater_act {t : Turn} (h : c.act config t = some c') :
    c.updater.act config t = some c'.updater := by
  unfold act at h
  split at h
  · cases h
  · obtain ⟨u, hu, rfl⟩ := Option.map_eq_some_iff.1 h
    rw [hu]
    cases t <;> rfl

theorem updater_play {turns : List Turn} (h : c.play config turns = some c') :
    c.updater.play config turns = some c'.updater := by
  induction turns generalizing c with
  | nil =>
    cases h
    rfl
  | cons t turns ih =>
    obtain ⟨next, hact, hrest⟩ := Option.bind_eq_some_iff.1 h
    rw [Updater.play, updater_act hact]
    exact ih hrest

/-- Whether a turn neither takes nor starts anything, and lets no time pass. -/
def isAside : Turn → Bool
  | .serve _ | .ask | .finish | .leave | .close => true
  | .elapse _ | .receive | .tick | .begin => false

/-- What an updater keeps in such a turn. -/
structure Aside (t : Turn) (u u' : Updater) : Prop where
  period : u'.loop.period = u.loop.period
  now : u'.loop.now = u.loop.now
  deadline : u'.loop.deadline = u.loop.deadline
  queued : t ≠ .ask → u'.loop.queued = u.loop.queued
  pending : Kept u → Note.pending? u'.log = Note.pending? u.log
  began : u'.log.filterMap Note.began? = u.log.filterMap Note.began?
  tokens : u'.log.count (.took .token) = u.log.count (.took .token)

/-- The turns of a timed updater with their outcome. -/
inductive Acts (c : TimedUpdater) : Turn → TimedUpdater → Prop
  | aside {t : Turn} {u : Updater} (h : Aside t c.updater u) : Acts c t { c with updater := u }
  | elapsed (ms : Nat) : Acts c (.elapse ms) (c.elapse ms)
  | received (idle : c.updater.loop.stage = .idle) (queued : c.updater.loop.queued = true)
      (early : c.updater.loop.now < c.updater.loop.deadline) :
      Acts c .receive
        { c with
          updater := { c.updater with
            loop := { c.updater.loop with
              queued := false, stage := .due,
              deadline := c.updater.loop.now + c.updater.loop.period }
            log := .took .token :: c.updater.log }
          pending := some ⟨.token, c.updater.loop.now⟩
          received := c.received ++ [c.updater.loop.now] }
  | ticked (idle : c.updater.loop.stage = .idle)
      (late : c.updater.loop.deadline ≤ c.updater.loop.now) :
      Acts c .tick
        { c with
          updater := { c.updater with
            loop := { c.updater.loop with
              stage := .due, deadline := c.updater.loop.deadline + c.updater.loop.period }
            log := .took .dueTime :: c.updater.log }
          pending := some ⟨.dueTime, c.updater.loop.deadline⟩ }
  | begun (due : c.updater.loop.stage = .due) {u : Updater}
      (hlog : u.log = .began (Note.pending? c.updater.log)
        c.updater.service.activities.length :: c.updater.log)
      (hloop : u.loop = { c.updater.loop with stage := .running }) :
      Acts c .begin
        { c with
          updater := u
          pending := none
          started := c.started ++ c.pending.toList.map (⟨·, c.updater.loop.now⟩) }

theorem aside_of_act {u u' : Updater} {t : Turn} (h : u.act config t = some u')
    (ht : isAside t = true) : Aside t u u' := by
  cases t with
  | serve t =>
    obtain ⟨service, -, rfl⟩ := Option.map_eq_some_iff.1 h
    cases t with
    | begin op => exact ⟨rfl, rfl, rfl, fun _ => rfl, fun _ => rfl, rfl, rfl⟩
    | surround w => exact ⟨rfl, rfl, rfl, fun _ => rfl, fun _ => rfl, rfl, rfl⟩
    | advance who =>
      simp only [Updater.notes]
      split
      · refine ⟨rfl, rfl, rfl, fun _ => rfl, fun _ => rfl, rfl, ?_⟩
        exact List.count_cons_of_ne (by simp)
      · exact ⟨rfl, rfl, rfl, fun _ => rfl, fun _ => rfl, rfl, rfl⟩
  | ask =>
    simp only [Updater.act, RefreshLoop.request] at h
    split at h
    · split at h
      all_goals
        cases h
        refine ⟨rfl, rfl, rfl, fun hother => absurd rfl hother, fun _ => rfl, rfl, ?_⟩
        exact List.count_cons_of_ne (by simp)
    · cases h
  | finish =>
    obtain ⟨who, -, h⟩ := Option.bind_eq_some_iff.1 h
    obtain ⟨a, -, h⟩ := Option.bind_eq_some_iff.1 h
    obtain ⟨well, -, h⟩ := Option.bind_eq_some_iff.1 h
    obtain ⟨loop, hloop, h⟩ := Option.bind_eq_some_iff.1 h
    unfold RefreshLoop.finish? at hloop
    split at hloop
    · next hrunning =>
      cases hloop
      cases h
      refine ⟨rfl, rfl, rfl, fun _ => rfl, ?_, rfl, ?_⟩
      · intro hkept
        exact (hkept.pending_of_ne (by rw [hrunning]; decide)).symm
      · exact List.count_cons_of_ne (by simp)
    · cases hloop
  | leave =>
    cases h
    exact ⟨rfl, rfl, rfl, fun _ => rfl, fun _ => rfl, rfl, rfl⟩
  | close =>
    simp only [Updater.act] at h
    split at h
    · cases h
    · cases h
      exact ⟨rfl, rfl, rfl, fun _ => rfl, fun _ => rfl, rfl, rfl⟩
  | elapse | receive | tick | begin => cases ht

/-- Every turn is one of the listed ones. -/
theorem acts_of_act {t : Turn} (h : c.act config t = some c') : Acts c t c' := by
  unfold act at h
  split at h
  · cases h
  · next hfirst =>
    obtain ⟨u, hact, rfl⟩ := Option.map_eq_some_iff.1 h
    cases t with
    | elapse ms =>
      cases hact
      exact .elapsed ms
    | receive =>
      simp only [Updater.act, RefreshLoop.receive?] at hact
      split at hact
      · next hready =>
        cases hact
        rw [Bool.and_eq_true, decide_eq_true_eq] at hready
        refine .received hready.1 hready.2 ?_
        simpa [yields] using hfirst
      · cases hact
    | tick =>
      simp only [Updater.act, RefreshLoop.tick?] at hact
      split at hact
      · next hready =>
        cases hact
        rw [Bool.and_eq_true, decide_eq_true_eq, decide_eq_true_eq] at hready
        exact .ticked hready.1 hready.2
      · cases hact
    | begin =>
      obtain ⟨loop, hloop, hact⟩ := Option.bind_eq_some_iff.1 hact
      unfold RefreshLoop.begin? at hloop
      split at hloop
      · next hdue =>
        cases hloop
        cases hact
        exact .begun hdue rfl rfl
      · cases hloop
    | serve | ask | finish | leave | close =>
      exact .aside (aside_of_act hact rfl)

/-! ## What is on record -/

/-- What is noted of occasions and starts is what is on record of the updater. -/
structure Noted (c : TimedUpdater) : Prop where
  kept : Kept c.updater
  pending : c.pending.map (·.cause) = Note.pending? c.updater.log
  started : (c.updater.log.filterMap Note.began?).reverse = c.started.map fun s => some s.cause
  received : c.updater.log.count (.took .token) = c.received.length

theorem Noted.pending_of_ne (h : Noted c) (hstage : c.updater.loop.stage ≠ .due) :
    c.pending = none := by
  have hnone := h.pending
  rw [h.kept.pending_of_ne hstage] at hnone
  exact Option.map_eq_none_iff.1 hnone

theorem Noted.pending_of_due (h : Noted c) (due : c.updater.loop.stage = .due) :
    ∃ o, c.pending = some o ∧ Note.pending? c.updater.log = some o.cause := by
  obtain ⟨cause, hcause⟩ := Option.isSome_iff_exists.1 (h.kept.due.1 due)
  have hpending := h.pending
  rw [hcause] at hpending
  obtain ⟨o, ho, rfl⟩ := Option.map_eq_some_iff.1 hpending
  exact ⟨o, ho, hcause⟩

theorem Noted.step {t : Turn} (h : Noted c) (hact : c.act config t = some c') : Noted c' := by
  have hkept := h.kept.step (Updater.acts_of_act (updater_act hact))
  cases acts_of_act hact with
  | aside haside =>
    refine ⟨hkept, ?_, ?_, ?_⟩
    · rw [haside.pending h.kept]
      exact h.pending
    · rw [haside.began]
      exact h.started
    · rw [haside.tokens]
      exact h.received
  | elapsed ms => exact ⟨hkept, h.pending, h.started, h.received⟩
  | received idle queued early =>
    refine ⟨hkept, rfl, h.started, ?_⟩
    rw [List.count_cons_self, List.length_append, h.received, List.length_singleton]
  | ticked idle late =>
    refine ⟨hkept, rfl, h.started, ?_⟩
    rw [List.count_cons_of_ne (by decide)]
    exact h.received
  | begun due hlog hloop =>
    obtain ⟨o, ho, hcause⟩ := h.pending_of_due due
    refine ⟨hkept, ?_, ?_, ?_⟩
    · rw [hlog]
      rfl
    · rw [hlog, List.filterMap_cons_some (by rfl), List.reverse_cons, h.started, hcause, ho]
      simp
    · rw [hlog, List.count_cons_of_ne (by simp)]
      exact h.received

/-! ## The timetable is kept -/

/-- What the loop has taken is the timetable up to the last due time that it has taken or the last
token since, and it waits for the next due time. -/
structure Scheduled (period base : Nat) (c : TimedUpdater) : Prop where
  noted : Noted c
  hasPeriod : c.updater.loop.period = period
  gap : ∃ n, c.updater.loop.deadline = Occasion.lastBase base c.received + (n + 1) * period ∧
    Occasion.lastBase base c.received + n * period ≤ c.updater.loop.now ∧
    c.taken = Occasion.timetable period base c.received
      (Occasion.lastBase base c.received + n * period)
  past : ∀ o ∈ c.taken, o.time ≤ c.updater.loop.now
  apart : ∀ o ∈ c.taken, o.cause = .token → o.time + period ≤ c.updater.loop.deadline
  /-- After a token there is no due time for a whole period. -/
  spaced : c.taken.Pairwise fun o o' =>
    o.cause = .token → o'.cause = .dueTime → o.time + period ≤ o'.time
  late : ∀ s ∈ c.started, s.time ≤ s.clock

variable {period base : Nat}

/-- The loop takes an occasion. -/
theorem taken_of_took (hnone : c.pending = none) (u : Updater) (received : List Nat)
    (o : Occasion) :
    taken { c with updater := u, pending := some o, received } = c.taken ++ [o] := by
  simp [taken, hnone]

/-- The loop starts a refresh for what it has taken. -/
theorem taken_of_began (u : Updater) :
    taken { c with
      updater := u
      pending := none
      started := c.started ++ c.pending.toList.map (⟨·, c.updater.loop.now⟩) } = c.taken := by
  simp [taken, Function.comp_def]

/-- Taking an occasion that is later than the others. -/
theorem pairwise_took {P : Occasion → Occasion → Prop} {o : Occasion}
    (h : c.taken.Pairwise P) (ho : ∀ o' ∈ c.taken, P o' o) :
    (c.taken ++ [o]).Pairwise P := by
  rw [List.pairwise_append]
  refine ⟨h, List.pairwise_singleton _ _, ?_⟩
  intro o' ho' x hx
  rw [List.mem_singleton.1 hx]
  exact ho o' ho'

theorem Scheduled.step (hperiod : 0 < period) {t : Turn} (h : Scheduled period base c)
    (hact : c.act config t = some c') : Scheduled period base c' := by
  have hnoted := h.noted.step hact
  obtain ⟨n, hdeadline, hfrom, htaken⟩ := h.gap
  cases acts_of_act hact with
  | aside haside =>
    refine ⟨hnoted, haside.period.trans h.hasPeriod, ⟨n, ?_, ?_, htaken⟩, ?_, ?_, h.spaced, h.late⟩
    · exact haside.deadline.trans hdeadline
    · rwa [haside.now]
    · rw [haside.now]
      exact h.past
    · rw [haside.deadline]
      exact h.apart
  | elapsed ms =>
    refine ⟨hnoted, h.hasPeriod, ⟨n, hdeadline, ?_, htaken⟩, ?_, h.apart, h.spaced, h.late⟩
    · exact Nat.le_add_right_of_le hfrom
    · exact fun o ho => Nat.le_add_right_of_le (h.past o ho)
  | received idle queued early =>
    have htook := taken_of_took (h.noted.pending_of_ne (by rw [idle]; decide))
    -- nothing was due between the last due time and the token, with which a new period begins
    rw [hdeadline] at early
    refine ⟨hnoted, h.hasPeriod, ⟨0, ?_, ?_, ?_⟩, ?_, ?_, ?_, h.late⟩
    · simp [h.hasPeriod]
    · simp
    · rw [htook, htaken, Occasion.lastBase_concat, Occasion.timetable_concat,
        Occasion.timetable_eq hfrom early, Occasion.periodic_eq (n := 0) (by simp) (by simpa)]
      rfl
    · rw [htook]
      intro o ho
      rcases List.mem_append.1 ho with ho | ho
      · exact h.past o ho
      · rw [List.mem_singleton.1 ho]
    · rw [htook]
      intro o ho htoken
      show o.time + period ≤ c.updater.loop.now + c.updater.loop.period
      rw [h.hasPeriod]
      rcases List.mem_append.1 ho with ho | ho
      · exact Nat.add_le_add_right (h.past o ho) _
      · rw [List.mem_singleton.1 ho]
    · rw [htook]
      exact pairwise_took h.spaced fun o ho htoken hdue => nomatch hdue
  | ticked idle late =>
    have htook := taken_of_took (h.noted.pending_of_ne (by rw [idle]; decide))
    refine ⟨hnoted, h.hasPeriod, ⟨n + 1, ?_, ?_, ?_⟩, ?_, ?_, ?_, h.late⟩
    · show c.updater.loop.deadline + c.updater.loop.period = _
      rw [hdeadline, h.hasPeriod, Nat.add_assoc, ← Nat.succ_mul]
    · rwa [← hdeadline]
    · rw [htook, htaken, Occasion.timetable_succ hperiod, hdeadline]
    · rw [htook]
      intro o ho
      rcases List.mem_append.1 ho with ho | ho
      · exact h.past o ho
      · rw [List.mem_singleton.1 ho]
        exact late
    · rw [htook]
      intro o ho htoken
      rcases List.mem_append.1 ho with ho | ho
      · exact Nat.le_add_right_of_le (h.apart o ho htoken)
      · rw [List.mem_singleton.1 ho] at htoken
        cases htoken
    · rw [htook]
      exact pairwise_took h.spaced fun o ho htoken _ => h.apart o ho htoken
  | begun due hlog hloop =>
    have hbegan := taken_of_began (c := c)
    refine ⟨hnoted, ?_, ⟨n, ?_, ?_, ?_⟩, ?_, ?_, ?_, ?_⟩
    · rw [hloop]
      exact h.hasPeriod
    · rw [hloop]
      exact hdeadline
    · rwa [hloop]
    · rw [hbegan]
      exact htaken
    · rw [hbegan, hloop]
      exact h.past
    · rw [hbegan, hloop]
      exact h.apart
    · rw [hbegan]
      exact h.spaced
    · intro s hs
      rcases List.mem_append.1 hs with hs | hs
      · exact h.late s hs
      · obtain ⟨o, ho, rfl⟩ := List.mem_map.1 hs
        exact h.past o (List.mem_append_right _ ho)

theorem scheduled_start (service : System) (period now : Nat) :
    Scheduled period now (start service period now) := by
  have hnoted : Noted (start service period now) :=
    ⟨⟨nofun, by simp [start, Updater.start, RefreshLoop.start, Note.pending?], rfl, rfl, nofun⟩,
      rfl, rfl, rfl⟩
  refine ⟨hnoted, rfl, ⟨0, ?_, ?_, ?_⟩, ?_, ?_, List.Pairwise.nil, ?_⟩
  · simp [start, Updater.start, RefreshLoop.start, Occasion.lastBase]
  · simp [start, Updater.start, RefreshLoop.start, Occasion.lastBase]
  · simp [start, taken, Occasion.lastBase, Occasion.timetable, Occasion.periodic]
  · simp [start, taken]
  · simp [start, taken]
  · simp [start]

/-- What every turn keeps holds after every run. -/
theorem play_invariant {P : TimedUpdater → Prop}
    (hstep : ∀ {c c' : TimedUpdater} {t : Turn}, P c → c.act config t = some c' → P c') (h₀ : P c)
    {turns : List Turn} (hplay : c.play config turns = some c') : P c' := by
  induction turns generalizing c with
  | nil =>
    cases hplay
    exact h₀
  | cons t turns ih =>
    obtain ⟨next, hact, hrest⟩ := Option.bind_eq_some_iff.1 hplay
    exact ih (hstep h₀ hact) hrest

/-- However turns come, the loop keeps to the timetable. -/
theorem scheduled_play (hperiod : 0 < period) {service : System} {turns : List Turn}
    (hplay : (start service period base).play config turns = some c) : Scheduled period base c :=
  play_invariant (P := Scheduled period base) (fun h => h.step hperiod)
    (scheduled_start service period base) hplay

/-- Where the loop has caught up with the clock, it has started what the timetable says. -/
theorem Scheduled.started_eq (h : Scheduled period base c) (hcaughtUp : c.CaughtUp) :
    c.started.map (·.toOccasion) =
      Occasion.timetable period base c.received c.updater.loop.now := by
  obtain ⟨n, hdeadline, hfrom, htaken⟩ := h.gap
  obtain ⟨idle, early⟩ := hcaughtUp
  rw [hdeadline] at early
  rw [Occasion.timetable_eq hfrom early, ← htaken, taken,
    h.noted.pending_of_ne (by rw [idle]; decide), Option.toList_none, List.append_nil]

/-- Where the loop has caught up with the clock, the next due time is the first one that is yet to
come. -/
theorem Scheduled.deadline_eq (h : Scheduled period base c) (hcaughtUp : c.CaughtUp) :
    c.updater.loop.deadline = Occasion.lastBase base c.received +
      ((c.updater.loop.now - Occasion.lastBase base c.received) / period + 1) * period := by
  obtain ⟨n, hdeadline, hfrom, htaken⟩ := h.gap
  have early := hcaughtUp.2
  rw [hdeadline] at early
  have hcount : (c.updater.loop.now - Occasion.lastBase base c.received) / period = n := by
    apply Nat.div_eq_of_lt_le
    · omega
    · omega
  rw [hcount, hdeadline]

end TimedUpdater

end FilterSync
