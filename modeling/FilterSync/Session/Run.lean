import FilterSync.Session.Basic

/-!
# Running a session

Operations that are under way at once run one after the other, each until it has to wait
for a lock. The running pass is finished first. A message that arrives during a download
runs until it waits for that pass; the operations that wait for passes then get them in
the order in which they came to wait. The refresh loop comes to wait again when its
refresh has ended and another one is due.
-/

namespace FilterSync

/-! ## One operation -/

/-- Runs an operation until it has ended or has to wait. -/
def Stage.run (config : Config) (who : Nat) (op : Operation) (stage : Stage) (s : Shared) :
    Stage × Shared :=
  match _h : Stage.next config who op stage s with
  | none => (stage, s)
  | some (stage', s') => Stage.run config who op stage' s'
termination_by stage.rank
decreasing_by exact Stage.rank_next_lt _h

/-! ## Operations in order -/

/-- Whose operation a job is. -/
inductive Owner
  /-- The step's own operation. -/
  | caller
  /-- The message that was the `n`-th to arrive during the step. -/
  | arrival (n : Nat)
  /-- The refresh loop. -/
  | loop
  deriving DecidableEq, Repr

/-- An operation that is under way. -/
structure Job where
  owner : Owner
  who : Nat
  op : Operation
  stage : Stage

/-- A session in the middle of a step. -/
structure SessionRun where
  session : Session
  /-- The operations that wait, in order. -/
  queue : List Job := []
  /-- How many operations the step has begun. -/
  begun : Nat := 0
  /-- How the step's own operation ended. -/
  result : Option (Except SyncError Answer) := none
  /-- The responses to the messages that arrived during the step. -/
  responses : List (Option Response) := []

namespace SessionRun

/-- Lets an operation queue up. -/
def enqueue (r : SessionRun) (owner : Owner) (op : Operation) : SessionRun :=
  { r with
    queue := r.queue ++ [⟨owner, r.begun, op, op.start⟩]
    begun := r.begun + 1 }

/-- Runs an arriving message until it has ended or has to wait. -/
def arrive (r : SessionRun) (m : Message) : SessionRun :=
  let op := Operation.ofMessage m
  let owner := Owner.arrival r.responses.length
  let (stage, shared) := Stage.run r.session.current r.begun op op.start r.session.shared
  let r := { r with session := { r.session with shared }, begun := r.begun + 1 }
  match stage with
  | .ended result => { r with responses := r.responses ++ [some (Operation.response result)] }
  | stage =>
    { r with
      responses := r.responses ++ [none]
      queue := r.queue ++ [⟨owner, r.begun - 1, op, stage⟩] }

/-- Lets the messages arrive that come during the download of a stage, if it is one. -/
def welcome (r : SessionRun) (stage : Stage) : SessionRun :=
  match stage with
  | .downloading _ list _ _ =>
    let messages := (r.session.arrivals.get? list.url).getD []
    let arrivals := r.session.arrivals.erase list.url
    messages.foldl arrive { r with session := { r.session with arrivals } }
  | _ => r

/-- Runs an operation until it has ended or has to wait, with the messages that arrive
during its downloads. -/
def drive (r : SessionRun) (who : Nat) (op : Operation) (stage : Stage) : SessionRun × Stage :=
  let r := r.welcome stage
  match _h : Stage.next r.session.current who op stage r.session.shared with
  | none => (r, stage)
  | some (stage', shared) => drive { r with session := { r.session with shared } } who op stage'
termination_by stage.rank
decreasing_by exact Stage.rank_next_lt _h

/-- Starts the refresh that the loop has decided on. -/
def beginRefresh (r : SessionRun) (loop : Option RefreshLoop) : SessionRun :=
  match loop.bind RefreshLoop.begin? with
  | none => r
  | some loop => { r with session := { r.session with loop } }.enqueue .loop .refresh

/-- Ends a job, or lets it wait again. -/
def conclude (r : SessionRun) (job : Job) (stage : Stage) : SessionRun :=
  match stage with
  | .ended result =>
    match job.owner with
    | .caller => { r with result := some result }
    | .arrival n => { r with responses := r.responses.set n (some (Operation.response result)) }
    | .loop =>
      let loop := r.session.loop.finish?.getD r.session.loop
      { r with session := { r.session with loop } }.beginRefresh loop.tick?
  | stage => { r with queue := r.queue ++ [{ job with stage }] }

/-- Runs the operations that wait. The fuel bounds how many have their turn. -/
def drainFuel : Nat → SessionRun → SessionRun
  | 0, r => r
  | fuel + 1, r =>
    match r.queue with
    | [] => r
    | job :: queue =>
      let (r, stage) := { r with queue }.drive job.who job.op job.stage
      drainFuel fuel (r.conclude job stage)

/-- Runs all operations that wait, those that arrive meanwhile, and the refreshes that are
due. -/
def drain (r : SessionRun) : SessionRun :=
  let arrivals := r.session.arrivals.values.flatten.length
  drainFuel (r.queue.length + arrivals + r.session.loop.overdue + 1) r

/-- Runs an operation of the step itself. -/
def operate (r : SessionRun) (op : Operation) : SessionRun :=
  (r.enqueue .caller op).drain

/-- How the step's own operation ended; every operation ends. -/
def ended (r : SessionRun) : Except SyncError Answer := r.result.getD (.ok .done)

/-- The response to the step's own message. -/
def response (r : SessionRun) : Response := Operation.response r.ended

/-- Serves a request. -/
def serveHttp (r : SessionRun) (request : Http.Request) : StepResult × SessionRun :=
  match Http.route request with
  | .refused status => (.http status none, r)
  | .message m =>
    let r := r.operate (Operation.ofMessage m)
    (.http (Http.statusOf r.response) (some r.response.toJson), r)
  | .state shown =>
    let r := r.operate .getState
    let body := if shown then some r.response.toJson else none
    (.http (Http.statusOf r.response) body, r)
  | .refresh =>
    let (queued, loop) := r.session.loop.request
    (.http 200 (some (.object [("ok", .bool true), ("queued", .bool queued)])),
      { r with session := { r.session with loop } })

/-- Does what a step says. -/
def perform (r : SessionRun) (step : SessionStep) : StepResult × SessionRun :=
  let s := r.session
  match step with
  | .serve url page arrivals => (.nothing, { r with session := s.serve url page arrivals })
  | .message none => (.undecodable, r)
  | .message (some m) =>
    let r := r.operate (Operation.ofMessage m)
    (.response r.response, r)
  | .call op =>
    let r := r.operate op
    (.answered r.ended, r)
  | .http request => r.serveHttp request
  | .fail t f => (.nothing, { r with session := s.setFault t f })
  | .heal => (.nothing, { r with session := s.heal })
  | .clock ms => (.nothing, { r with session := s.setClock ms })
  | .saveDocument text =>
    let (result, session) := s.saveDocument text
    (result, { r with session })
  | .putRules remove add =>
    let (result, session) := s.putRules remove add
    (result, { r with session })
  | .putRow n rule => (.nothing, { r with session := s.putRow n rule })
  | .tables => (.tables s.databases, r)
  | .restart config => (.nothing, { r with session := s.restart config })
  | .trigger =>
    let (queued, loop) := s.loop.request
    (.queued queued, { r with session := { s with loop } })
  | .wait => (.nothing, r)
  | .advance ms =>
    let loop := s.loop.elapse ms
    (.nothing, ({ r with session := { s with loop } }.beginRefresh loop.tick?).drain)
  | .dropTrigger => (.finished true, { r with session := { s with loop := s.loop.close } })

/-- Whether a token that the loop has not taken stays where it is during a step. -/
def keepsToken : SessionStep → Bool
  | .trigger => true
  | .http request => request.path = Http.refreshPath
  | _ => false

/-- Lets the loop take its token, and run the refresh, before a step. -/
def settle (r : SessionRun) (step : SessionStep) : SessionRun :=
  if keepsToken step then r else (r.beginRefresh r.session.loop.receive?).drain

end SessionRun

/-- What is seen of a step. -/
structure StepReport where
  result : StepResult
  /-- The calls made during the step in order. -/
  events : List Event
  /-- The responses to the messages that arrived during the step, in order of arrival. -/
  during : List Response

namespace Session

/-- Makes a step. -/
def step (s : Session) (step : SessionStep) : StepReport × Session :=
  let r : SessionRun := { session := { s with shared := { s.shared with events := [] } } }
  let (result, r) := (r.settle step).perform step
  (⟨result, r.session.shared.events.reverse, r.responses.map (·.getD .done)⟩, r.session)

end Session

end FilterSync
