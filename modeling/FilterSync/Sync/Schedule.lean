/-!
# Scheduled refreshes

A loop starts refreshes one at a time. One is due every period, counted from the start of
the loop or from the last refresh that was asked for. Asking leaves a token that the
loop takes when it is idle; there is room for one token, so that requests which come
before the loop takes it are one request.

Refreshes that are due while the loop is busy, or while time jumps ahead, are all made
up for: starting one only moves the next due time on by a period.
-/

namespace FilterSync

/-- What the refresh loop is doing. -/
inductive LoopStage
  /-- Waits for the next due time or a token. -/
  | idle
  /-- Is about to start a refresh. -/
  | due
  /-- A refresh is running. -/
  | running
  /-- Has ended: nobody can ask for a refresh any more. -/
  | ended
  deriving DecidableEq, Repr

/-- The refresh loop. Times are milliseconds of a clock that only goes forward. -/
structure RefreshLoop where
  period : Nat
  now : Nat
  /-- When the next scheduled refresh is due. -/
  deadline : Nat
  /-- Whether a token is waiting. -/
  queued : Bool := false
  stage : LoopStage := .idle
  deriving DecidableEq, Repr

namespace RefreshLoop

/-- A loop that starts now; its first scheduled refresh is due a period later. -/
def start (period now : Nat) : RefreshLoop where
  period := period
  now := now
  deadline := now + period

/-- Asks for a refresh: whether a token was left, and the loop with it. -/
def request (l : RefreshLoop) : Bool × RefreshLoop :=
  if l.queued || l.stage = .ended then (false, l) else (true, { l with queued := true })

/-- Takes the token, which begins a new period. -/
def receive? (l : RefreshLoop) : Option RefreshLoop :=
  if l.stage = .idle && l.queued then
    some { l with queued := false, stage := .due, deadline := l.now + l.period }
  else none

/-- Takes a due time. -/
def tick? (l : RefreshLoop) : Option RefreshLoop :=
  if l.stage = .idle && l.deadline ≤ l.now then
    some { l with stage := .due, deadline := l.deadline + l.period }
  else none

/-- Starts the refresh that the loop is about to start. -/
def begin? (l : RefreshLoop) : Option RefreshLoop :=
  if l.stage = .due then some { l with stage := .running } else none

/-- Ends the running refresh, whether it failed or not. -/
def finish? (l : RefreshLoop) : Option RefreshLoop :=
  if l.stage = .running then some { l with stage := .idle } else none

/-- Lets time pass. -/
def elapse (l : RefreshLoop) (ms : Nat) : RefreshLoop := { l with now := l.now + ms }

/-- Ends an idle loop. -/
def close (l : RefreshLoop) : RefreshLoop := { l with stage := .ended }

/-- How many scheduled refreshes are due. -/
def overdue (l : RefreshLoop) : Nat :=
  if l.deadline ≤ l.now then (l.now - l.deadline) / l.period + 1 else 0

end RefreshLoop

end FilterSync
