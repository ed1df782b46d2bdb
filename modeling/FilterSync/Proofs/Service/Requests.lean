import FilterSync.Proofs.Service.System
import FilterSync.Sync.Schedule

/-!
# Requests of refreshes

Whoever asks for a refresh leaves a token, unless one is waiting already. The loop takes tokens and
due times one at a time, and runs a refresh for each: an operation of the service like any other,
which may have to wait and may fail. Requests that come before the loop takes the token are answered
by one refresh.

An updater is a service with its loop. Its turns come in any order, and a log says what the loop and
those who ask it have done. A refresh that is to answer a request has to begin after it, so that it
works for a state that was read after it.

Main statements: `Updater.kept_play` and `Updater.no_request_lost`.
-/

namespace FilterSync

/-! ## A service with its loop -/

/-- What makes the loop start a refresh. -/
inductive Cause
  | token
  | dueTime
  deriving DecidableEq, Repr

/-- What is on record of the loop and of those who ask it for refreshes. -/
inductive Note
  /-- A refresh was asked for; whether a token was left. -/
  | asked (granted : Bool)
  | took (cause : Cause)
  /-- The loop started a refresh for what it had taken, as the operation with the number `who`. -/
  | began (cause : Option Cause) (who : Nat)
  /-- An operation read the state that its pass works for. -/
  | read (who : Nat)
  | ended (well : Bool)
  deriving DecidableEq, Repr

namespace Note

/-- What the loop has taken and not yet started a refresh for; the last note comes first. -/
def pending? : List Note → Option Cause
  | [] => none
  | took cause :: _ => some cause
  | began _ _ :: _ | ended _ :: _ => none
  | asked _ :: log | read _ :: log => pending? log

/-- Whether a refresh was asked for and none has begun since. -/
def unanswered : List Note → Bool
  | [] => false
  | asked _ :: _ => true
  | began _ _ :: _ => false
  | took _ :: log | read _ :: log | ended _ :: log => unanswered log

/-- Every request is behind a refresh that has begun, unless it is unanswered. -/
theorem began_or_unanswered {log later earlier : List Note} {granted : Bool}
    (h : log = later ++ asked granted :: earlier) :
    (∃ cause who, began cause who ∈ later) ∨ unanswered log = true := by
  induction later generalizing log with
  | nil =>
    rw [h]
    exact Or.inr rfl
  | cons n later ih =>
    subst h
    have hrest : (∃ cause who, began cause who ∈ n :: later) ∨
        unanswered (later ++ asked granted :: earlier) = true := by
      refine (ih rfl).imp_left ?_
      rintro ⟨cause, who, hmem⟩
      exact ⟨cause, who, List.mem_cons_of_mem _ hmem⟩
    cases n with
    | asked => exact Or.inr rfl
    | began cause who => exact Or.inl ⟨cause, who, List.mem_cons_self⟩
    | took | read | ended => exact hrest

/-- Whether it is on record what an operation does. -/
def isOfOperation : Note → Bool
  | began _ _ | read _ => true
  | asked _ | took _ | ended _ => false

/-- Whether a refresh was started for a token. -/
def answersToken : Note → Bool
  | began (some .token) _ => true
  | _ => false

end Note

namespace Stage

/-- Whether an operation reads the state for its pass there. -/
def readsSnapshot : Stage → Bool
  | inState .snapshot => true
  | _ => false

end Stage

namespace System

variable {config : Config}

/-- An operation keeps its number, and stays what it is. -/
theorem op_of_act {t : Turn} {sys sys' : System} {i : Nat} {op : Operation} {stage : Stage}
    (hi : sys.activities[i]? = some ⟨op, stage⟩) (h : sys.act config t = some sys') :
    ∃ stage', sys'.activities[i]? = some ⟨op, stage'⟩ := by
  cases acts_of_act h with
  | begun op' => exact ⟨stage, getElem?_of_begun hi _⟩
  | surrounded w => exact ⟨stage, hi⟩
  | @advanced who op' before after s' place move =>
    rw [getElem?_moved place]
    by_cases hwho : who = i
    · subst hwho
      rw [hi] at place
      cases place
      exact ⟨after, if_pos rfl⟩
    · exact ⟨stage, by rw [if_neg hwho, hi]⟩

theorem length_le_of_act {t : Turn} {sys sys' : System}
    (h : sys.act config t = some sys') : sys.activities.length ≤ sys'.activities.length := by
  cases acts_of_act h with
  | begun op => simp
  | surrounded w => exact Nat.le_refl _
  | advanced place move => simp [moved]

end System

/-- A service and its loop, with what was done so far. -/
structure Updater where
  service : System
  loop : RefreshLoop
  /-- The operation that the loop waits for. -/
  waitsFor : Option Nat := none
  /-- Whether there is anybody who can ask. -/
  attended : Bool := true
  /-- The last note comes first. -/
  log : List Note := []

namespace Updater

/-- What may come next. -/
inductive Turn
  /-- An operation begins or makes a step, or its surroundings change. -/
  | serve (t : System.Turn)
  | ask
  | elapse (ms : Nat)
  | receive
  | tick
  | begin
  /-- The refresh of the loop has ended, well or not. -/
  | finish
  /-- Nobody can ask any more. -/
  | leave
  /-- The loop sees that nobody can ask any more. -/
  | close

def start (service : System) (period now : Nat) : Updater where
  service := service
  loop := .start period now

/-- What a turn of the service puts on record. -/
def notes (u : Updater) : System.Turn → List Note
  | .advance who =>
    if (u.service.activities[who]?).any (·.stage.readsSnapshot) then [.read who] else []
  | _ => []

variable (config : Config)

/-- The updater after a turn, if it can have it. -/
def act (u : Updater) : Turn → Option Updater
  | .serve t =>
    (u.service.act config t).map fun service => { u with service, log := u.notes t ++ u.log }
  | .ask =>
    if u.attended then
      some { u with loop := u.loop.request.2, log := .asked u.loop.request.1 :: u.log }
    else none
  | .elapse ms => some { u with loop := u.loop.elapse ms }
  | .receive => u.loop.receive?.map fun loop => { u with loop, log := .took .token :: u.log }
  | .tick => u.loop.tick?.map fun loop => { u with loop, log := .took .dueTime :: u.log }
  | .begin => do
    let loop ← u.loop.begin?
    let service ← u.service.act config (.begin .refresh)
    let who := u.service.activities.length
    let log := .began (Note.pending? u.log) who :: u.log
    some { u with service, loop, waitsFor := some who, log }
  | .finish => do
    let who ← u.waitsFor
    let a ← u.service.activities[who]?
    let well ← a.stage.endedWell?
    let loop ← u.loop.finish?
    some { u with loop, waitsFor := none, log := .ended well :: u.log }
  | .leave => some { u with attended := false }
  | .close =>
    if u.attended || u.loop.queued || u.loop.stage ≠ .idle then none
    else some { u with loop := u.loop.close }

/-- The updater after a run, if it can have these turns. -/
def play (u : Updater) : List Turn → Option Updater
  | [] => some u
  | t :: turns => (u.act config t).bind (·.play turns)

/-- The turns of an updater with their outcome. -/
inductive Acts (u : Updater) : Updater → Prop
  | served {t : System.Turn} {service : System} (h : u.service.act config t = some service) :
      Acts u { u with service }
  | read {who : Nat} {service : System} (h : u.service.act config (.advance who) = some service)
      (place : who < u.service.activities.length) :
      Acts u { u with service, log := .read who :: u.log }
  | granted (attended : u.attended = true) (empty : u.loop.queued = false)
      (running : u.loop.stage ≠ .ended) :
      Acts u { u with loop := { u.loop with queued := true }, log := .asked true :: u.log }
  | merged (attended : u.attended = true) (taken : u.loop.queued = true ∨ u.loop.stage = .ended) :
      Acts u { u with log := .asked false :: u.log }
  | elapsed (ms : Nat) : Acts u { u with loop := u.loop.elapse ms }
  | received (idle : u.loop.stage = .idle) (queued : u.loop.queued = true) :
      Acts u { u with
        loop := { u.loop with
          queued := false, stage := .due, deadline := u.loop.now + u.loop.period }
        log := .took .token :: u.log }
  | ticked (idle : u.loop.stage = .idle) :
      Acts u { u with
        loop := { u.loop with stage := .due, deadline := u.loop.deadline + u.loop.period }
        log := .took .dueTime :: u.log }
  | begun (due : u.loop.stage = .due) :
      Acts u { u with
        service := { u.service with
          activities := u.service.activities ++ [⟨.refresh, .atPass⟩] }
        loop := { u.loop with stage := .running }
        waitsFor := some u.service.activities.length
        log := .began (Note.pending? u.log) u.service.activities.length :: u.log }
  | finished (well : Bool) (running : u.loop.stage = .running) :
      Acts u { u with
        loop := { u.loop with stage := .idle }, waitsFor := none, log := .ended well :: u.log }
  | left : Acts u { u with attended := false }
  | closed (alone : u.attended = false) (idle : u.loop.stage = .idle) :
      Acts u { u with loop := u.loop.close }

variable {config} {u u' : Updater}

theorem acts_of_act {t : Turn} (h : u.act config t = some u') : Acts config u u' := by
  cases t with
  | serve t =>
    obtain ⟨service, hact, rfl⟩ := Option.map_eq_some_iff.1 h
    cases t with
    | begin op => exact .served hact
    | surround w => exact .served hact
    | advance who =>
      simp only [notes]
      split
      · next hreads =>
        obtain ⟨a, ha, -⟩ := (Option.any_eq_true _ _).1 hreads
        obtain ⟨hplace, -⟩ := List.getElem?_eq_some_iff.1 ha
        exact .read hact hplace
      · exact .served hact
  | ask =>
    simp only [act, RefreshLoop.request] at h
    split at h
    · next hattended =>
      split at h
      · next hfull =>
        cases h
        exact .merged hattended (by simpa using hfull)
      · next hroom =>
        cases h
        rw [Bool.or_eq_true, not_or, decide_eq_true_eq] at hroom
        exact .granted hattended (Bool.not_eq_true _ ▸ hroom.1) hroom.2
    · cases h
  | elapse ms =>
    cases h
    exact .elapsed ms
  | receive =>
    simp only [act, RefreshLoop.receive?] at h
    split at h
    · next hready =>
      cases h
      rw [Bool.and_eq_true, decide_eq_true_eq] at hready
      exact .received hready.1 hready.2
    · cases h
  | tick =>
    simp only [act, RefreshLoop.tick?] at h
    split at h
    · next hready =>
      cases h
      rw [Bool.and_eq_true, decide_eq_true_eq] at hready
      exact .ticked hready.1
    · cases h
  | begin =>
    obtain ⟨loop, hloop, h⟩ := Option.bind_eq_some_iff.1 h
    unfold RefreshLoop.begin? at hloop
    split at hloop
    · next hdue =>
      cases hloop
      cases h
      exact .begun hdue
    · cases hloop
  | finish =>
    obtain ⟨who, -, h⟩ := Option.bind_eq_some_iff.1 h
    obtain ⟨a, -, h⟩ := Option.bind_eq_some_iff.1 h
    obtain ⟨well, -, h⟩ := Option.bind_eq_some_iff.1 h
    obtain ⟨loop, hloop, h⟩ := Option.bind_eq_some_iff.1 h
    unfold RefreshLoop.finish? at hloop
    split at hloop
    · next hrunning =>
      cases hloop
      cases h
      exact .finished well hrunning
    · cases hloop
  | leave =>
    cases h
    exact .left
  | close =>
    simp only [act] at h
    split at h
    · cases h
    · next hnone =>
      cases h
      simp only [Bool.or_eq_true, not_or, Bool.not_eq_true, decide_eq_true_eq, not_not] at hnone
      exact .closed hnone.1.1 hnone.2

/-- What every turn keeps holds after every run. -/
theorem play_invariant {P : Updater → Prop}
    (hstep : ∀ {u u' : Updater}, P u → Acts config u u' → P u') (h₀ : P u) {turns : List Turn}
    (hplay : u.play config turns = some u') : P u' := by
  induction turns generalizing u with
  | nil =>
    cases hplay
    exact h₀
  | cons t turns ih =>
    obtain ⟨next, hact, hrest⟩ := Option.bind_eq_some_iff.1 hplay
    exact ih (hstep h₀ (acts_of_act hact)) hrest

/-! ## What is on record of operations -/

/-- Refreshes of the loop are operations of the service, and read the state after they began. -/
structure Recorded (u : Updater) : Prop where
  begun : ∀ cause who, .began cause who ∈ u.log →
    ∃ stage, u.service.activities[who]? = some ⟨.refresh, stage⟩
  read : ∀ who, .read who ∈ u.log → who < u.service.activities.length
  fresh : ∀ later cause who earlier, u.log = later ++ .began cause who :: earlier →
    .read who ∉ earlier

/-- A note that starts no refresh leaves what was read before one as it is. -/
theorem fresh_cons {log : List Note} {n : Note}
    (h : ∀ later cause who earlier, log = later ++ .began cause who :: earlier →
      .read who ∉ earlier) (hn : ∀ cause who, n = .began cause who → .read who ∉ log) :
    ∀ later cause who earlier, n :: log = later ++ .began cause who :: earlier →
      .read who ∉ earlier := by
  intro later cause who earlier heq
  cases later with
  | nil =>
    cases heq
    exact hn cause who rfl
  | cons m later =>
    cases heq
    exact h later cause who earlier rfl

/-- A note of what those who ask do, or of what the loop takes and ends, changes nothing here. -/
theorem Recorded.noted (h : Recorded u) {n : Note} (hservice : u'.service = u.service)
    (hlog : u'.log = n :: u.log) (hplain : n.isOfOperation = false) : Recorded u' := by
  refine ⟨?_, ?_, ?_⟩
  · intro cause who hmem
    rw [hlog] at hmem
    rw [hservice]
    rcases List.mem_cons.1 hmem with heq | hmem
    · rw [← heq] at hplain
      cases hplain
    · exact h.begun cause who hmem
  · intro who hmem
    rw [hlog] at hmem
    rw [hservice]
    rcases List.mem_cons.1 hmem with heq | hmem
    · rw [← heq] at hplain
      cases hplain
    · exact h.read who hmem
  · rw [hlog]
    apply fresh_cons h.fresh
    intro cause who heq
    rw [heq] at hplain
    cases hplain

theorem Recorded.serve {t : System.Turn} {service : System} (h : Recorded u)
    (hact : u.service.act config t = some service) : Recorded { u with service } := by
  refine ⟨?_, ?_, h.fresh⟩
  · intro cause who hmem
    obtain ⟨stage, hstage⟩ := h.begun cause who hmem
    exact System.op_of_act hstage hact
  · intro who hmem
    exact Nat.lt_of_lt_of_le (h.read who hmem) (System.length_le_of_act hact)

theorem Recorded.step (h : Recorded u) (hacts : Acts config u u') : Recorded u' := by
  cases hacts with
  | served hact => exact h.serve hact
  | @read who service hact place =>
    have hserved := h.serve hact
    refine ⟨?_, ?_, fresh_cons h.fresh fun cause who heq => nomatch heq⟩
    · intro cause i hmem
      rcases List.mem_cons.1 hmem with heq | hmem
      · cases heq
      · exact hserved.begun cause i hmem
    · intro i hmem
      rcases List.mem_cons.1 hmem with heq | hmem
      · cases heq
        exact Nat.lt_of_lt_of_le place (System.length_le_of_act hact)
      · exact hserved.read i hmem
  | begun due =>
    have hact : u.service.act config (.begin .refresh) = some { u.service with
        activities := u.service.activities ++ [⟨.refresh, .atPass⟩] } := rfl
    have hserved := h.serve hact
    refine ⟨?_, ?_, ?_⟩
    · intro cause' who hmem
      rcases List.mem_cons.1 hmem with heq | hmem
      · cases heq
        exact ⟨.atPass, List.getElem?_concat_length⟩
      · exact hserved.begun cause' who hmem
    · intro who hmem
      rcases List.mem_cons.1 hmem with heq | hmem
      · cases heq
      · exact hserved.read who hmem
    · -- the number of the new operation is one that nobody had before
      apply fresh_cons h.fresh
      intro cause' who heq hread
      cases heq
      exact Nat.lt_irrefl _ (h.read _ hread)
  | granted | merged | received | ticked | finished => exact h.noted rfl rfl rfl
  | elapsed | left | closed => exact ⟨h.begun, h.read, h.fresh⟩

/-! ## Tokens -/

/-- Where the tokens that were left have gone, and what the loop owes to those who asked. -/
structure Kept (u : Updater) : Prop where
  owed : Note.unanswered u.log = true → u.loop.queued = true ∨ Note.pending? u.log = some .token
  due : u.loop.stage = .due ↔ (Note.pending? u.log).isSome = true
  tokens : u.log.count (.asked true) = u.log.count (.took .token) + u.loop.queued.toNat
  begun : u.log.count (.took .token) =
    u.log.countP (·.answersToken) + if Note.pending? u.log = some .token then 1 else 0
  ended : u.loop.stage = .ended → u.attended = false

theorem Kept.pending_of_ne (h : Kept u) (hstage : u.loop.stage ≠ .due) :
    Note.pending? u.log = none := by
  rw [← Option.not_isSome_iff_eq_none, ← h.due]
  exact hstage

/-- As long as the loop has taken nothing, whoever waits for a refresh is behind a token. -/
theorem Kept.queued_of_owed (h : Kept u) (hnone : Note.pending? u.log = none)
    (howed : Note.unanswered u.log = true) : u.loop.queued = true := by
  rcases h.owed howed with hqueued | hpending
  · exact hqueued
  · rw [hnone] at hpending
    cases hpending

theorem Kept.begun_of_none (h : Kept u) (hnone : Note.pending? u.log = none) :
    u.log.count (.took .token) = u.log.countP (·.answersToken) := by
  have hbegun := h.begun
  rwa [hnone, if_neg nofun] at hbegun

theorem Kept.step (h : Kept u) (hacts : Acts config u u') : Kept u' := by
  cases hacts with
  | served | read | elapsed => exact ⟨h.owed, h.due, h.tokens, h.begun, h.ended⟩
  | granted attended empty =>
    refine ⟨fun _ => Or.inl rfl, h.due, ?_, ?_, h.ended⟩
    · have htokens := h.tokens
      rw [empty] at htokens
      simpa using htokens
    · rw [List.count_cons_of_ne (by decide), List.countP_cons_of_neg (by decide)]
      exact h.begun
  | merged attended taken =>
    -- the loop has not ended while there is somebody to ask
    have hqueued : u.loop.queued = true := by
      rcases taken with hqueued | hended
      · exact hqueued
      · rw [h.ended hended] at attended
        cases attended
    refine ⟨fun _ => Or.inl hqueued, h.due, ?_, ?_, h.ended⟩
    · simpa using h.tokens
    · rw [List.count_cons_of_ne (by decide), List.countP_cons_of_neg (by decide)]
      exact h.begun
  | received idle queued =>
    have hnone := h.pending_of_ne (by rw [idle]; decide)
    have htokens := h.tokens
    rw [queued] at htokens
    refine ⟨fun _ => Or.inr rfl, by simp [Note.pending?], ?_, ?_, nofun⟩
    · simpa using htokens
    · simpa [Note.pending?, Note.answersToken] using h.begun_of_none hnone
  | ticked idle =>
    have hnone := h.pending_of_ne (by rw [idle]; decide)
    refine ⟨?_, by simp [Note.pending?], ?_, ?_, nofun⟩
    · exact fun howed => Or.inl (h.queued_of_owed hnone howed)
    · simpa using h.tokens
    · simpa [Note.pending?, Note.answersToken] using h.begun_of_none hnone
  | begun due =>
    have hbegun := h.begun
    refine ⟨nofun, by simp [Note.pending?], ?_, ?_, nofun⟩
    · simpa using h.tokens
    · -- what was taken and not yet begun is what this refresh is for
      obtain ⟨cause, hcause⟩ := Option.isSome_iff_exists.1 (h.due.1 due)
      rw [hcause] at hbegun ⊢
      cases cause <;> simpa [Note.pending?, Note.answersToken] using hbegun
  | finished well running =>
    have hnone := h.pending_of_ne (by rw [running]; decide)
    refine ⟨?_, by simp [Note.pending?], ?_, ?_, nofun⟩
    · exact fun howed => Or.inl (h.queued_of_owed hnone howed)
    · simpa using h.tokens
    · simpa [Note.pending?, Note.answersToken] using h.begun_of_none hnone
  | left => exact ⟨h.owed, h.due, h.tokens, h.begun, fun _ => rfl⟩
  | closed alone idle =>
    have hnone := h.pending_of_ne (by rw [idle]; decide)
    refine ⟨h.owed, ?_, h.tokens, h.begun, fun _ => alone⟩
    show LoopStage.ended = .due ↔ _
    simp [hnone]

/-- After every run, operations are on record as they are, and no token is lost. -/
theorem kept_play {service : System} {period now : Nat} {turns : List Turn}
    (hplay : (start service period now).play config turns = some u) : Recorded u ∧ Kept u := by
  refine play_invariant (P := fun u => Recorded u ∧ Kept u) ?_ ?_ hplay
  · intro u u' h hacts
    exact ⟨h.1.step hacts, h.2.step hacts⟩
  · have hrecorded : Recorded (start service period now) := by
      refine ⟨nofun, nofun, ?_⟩
      intro later cause who earlier heq
      simp [start] at heq
    have hkept : Kept (start service period now) :=
      ⟨nofun, by simp [start, RefreshLoop.start, Note.pending?], rfl, rfl, nofun⟩
    exact ⟨hrecorded, hkept⟩

/-! ## Requests -/

/-- The loop has taken a token, and the only thing it can do next is to start a refresh. -/
structure AboutToBegin (config : Config) (u : Updater) : Prop where
  token : Note.pending? u.log = some .token
  canBegin : (u.act config .begin).isSome = true
  nothingElse : ∀ t ∈ [Turn.receive, .tick, .finish, .close], u.act config t = none

theorem Kept.aboutToBegin (h : Kept u) (hpending : Note.pending? u.log = some .token) :
    AboutToBegin config u := by
  have hdue : u.loop.stage = .due := h.due.2 (by rw [hpending]; rfl)
  refine ⟨hpending, ?_, ?_⟩
  · simp [act, RefreshLoop.begin?, hdue, hpending, System.act]
  · intro t ht
    simp only [List.mem_cons, List.not_mem_nil, or_false] at ht
    rcases ht with rfl | rfl | rfl | rfl
    · simp [act, RefreshLoop.receive?, hdue]
    · simp [act, RefreshLoop.tick?, hdue]
    · simp [act, RefreshLoop.finish?, hdue]
    · simp [act, hdue]

/-- A refresh that began after something was noted reads the state after that too. -/
theorem Recorded.not_read (h : Recorded u) {later earlier : List Note} {n : Note}
    {cause : Option Cause} {who : Nat} (hlog : u.log = later ++ n :: earlier)
    (hbegan : .began cause who ∈ later) : .read who ∉ earlier := by
  obtain ⟨after, between, rfl⟩ := List.append_of_mem hbegan
  intro hread
  refine h.fresh after cause who (between ++ n :: earlier) ?_ ?_
  · rw [hlog, List.append_assoc, List.cons_append]
  · exact List.mem_append_right _ (List.mem_cons_of_mem _ hread)

/-- No request is lost, whether it left a token or not. After each one a refresh of the loop has
begun, which read nothing before the request, or a token is waiting, or the loop has taken one and
is about to start a refresh. Of the tokens that were left, all but the waiting one were taken, and
no more refreshes were started for tokens than there were tokens left. -/
theorem no_request_lost {service : System} {period now : Nat} {turns : List Turn}
    (hplay : (start service period now).play config turns = some u) :
    (∀ later granted earlier, u.log = later ++ .asked granted :: earlier →
      (∃ cause who stage, .began cause who ∈ later ∧ .read who ∉ earlier ∧
        u.service.activities[who]? = some ⟨.refresh, stage⟩) ∨
      u.loop.queued = true ∨ AboutToBegin config u) ∧
    u.log.count (.asked true) = u.log.count (.took .token) + u.loop.queued.toNat ∧
    u.log.countP (·.answersToken) ≤ u.log.count (.asked true) := by
  obtain ⟨hrecorded, hkept⟩ := kept_play hplay
  refine ⟨?_, hkept.tokens, ?_⟩
  · intro later granted earlier hlog
    rcases Note.began_or_unanswered hlog with ⟨cause, who, hbegan⟩ | howed
    · obtain ⟨stage, hstage⟩ := hrecorded.begun cause who
        (hlog ▸ List.mem_append_left _ hbegan)
      exact Or.inl ⟨cause, who, stage, hbegan, hrecorded.not_read hlog hbegan, hstage⟩
    · rcases hkept.owed howed with hqueued | hpending
      · exact Or.inr (Or.inl hqueued)
      · exact Or.inr (Or.inr (hkept.aboutToBegin hpending))
  · have htokens := hkept.tokens
    have hbegun := hkept.begun
    omega

/-- Two requests come while a refresh that is going to fail runs, and the second of them leaves no
token. The loop takes the token of the first after the end of the refresh. -/
def askedMeanwhile : List Turn :=
  [.ask, .receive, .begin, .serve (.surround (System.serving (· = .ids) "||ads.example^"))] ++
  List.replicate 3 (.serve (.advance 0)) ++ [.ask, .ask] ++
  List.replicate 4 (.serve (.advance 0)) ++ [.finish, .receive]

theorem no_request_lost_askedMeanwhile :
    ∃ u, (start (.start (.new .memory) (.memory none)) 1000 0).play System.oneList
        askedMeanwhile = some u ∧
      u.log = [.took .token, .ended false, .asked false, .asked true, .read 0, .began (some .token) 0,
        .took .token, .asked true] ∧
      AboutToBegin System.oneList u ∧
      u.log.countP (·.answersToken) ≤ u.log.count (.asked true) := by
  have hseen : ((start (.start (.new .memory) (.memory none)) 1000 0).play System.oneList
      askedMeanwhile).map (fun u => (u.log, u.loop.queued)) =
      some ([.took .token, .ended false, .asked false, .asked true, .read 0, .began (some .token) 0,
        .took .token, .asked true], false) := by
    decide +kernel
  obtain ⟨u, hplay, hseen⟩ := Option.map_eq_some_iff.1 hseen
  rw [Prod.mk.injEq] at hseen
  obtain ⟨hlog, hnotQueued⟩ := hseen
  obtain ⟨hrequests, -, hanswers⟩ := no_request_lost hplay
  refine ⟨u, hplay, hlog, ?_, hanswers⟩
  rcases hrequests [.took .token, .ended false] false _ hlog with
    ⟨cause, who, stage, hbegan, -⟩ | hqueued | hnext
  · simp at hbegan
  · rw [hnotQueued] at hqueued
    cases hqueued
  · exact hnext

end Updater

end FilterSync
