import FilterSync.Http.Route
import FilterSync.Sync.Schedule
import FilterSync.Sync.Service

/-!
# Sessions

A session is a service with its stores, its refresh loop and its HTTP interface, used
step by step. A step calls the service, changes what surrounds it (the pages that lists
are downloaded from, the clocks, the faults of the stores), or looks into the stores.

Two clocks are kept apart: the wall clock, which stands still unless it is set, and the
clock of the refresh loop, which only moves when a step says so.
-/

namespace FilterSync

/-- A step of a session. -/
inductive SessionStep
  /-- Sets the page of a URL, and the messages that arrive during its next download. -/
  | serve (url : String) (page : Page) (arrivals : List Message)
  /-- A message in text form, decoded if it is one. -/
  | message (m : Option Message)
  | call (op : Operation)
  | http (r : Http.Request)
  | fail (t : Target) (f : Fault)
  /-- Removes all faults. -/
  | heal
  /-- Sets the wall clock. -/
  | clock (ms : Int)
  /-- Writes a text as the state's document. -/
  | saveDocument (text : String)
  /-- Replaces rules in the store itself. -/
  | putRules (remove : List UInt32) (add : List Rule)
  /-- Writes a row in the database. -/
  | putRow (n : Int) (rule : String)
  /-- Shows what is in the database. -/
  | tables
  /-- Ends the service and starts another over the same storage. -/
  | restart (config : Option Config)
  /-- Asks for a refresh. -/
  | trigger
  | wait
  /-- Moves the clock of the refresh loop. -/
  | advance (ms : Nat)
  /-- Gives up all means of asking for a refresh. -/
  | dropTrigger

/-- What a step gives back. -/
inductive StepResult
  | nothing
  /-- A text was not what it should be. -/
  | undecodable
  | response (r : Response)
  | answered (r : Except SyncError Answer)
  | http (status : Nat) (body : Option Json)
  | storeFailed (e : StoreError)
  | queued (b : Bool)
  | finished (b : Bool)
  /-- What is in the databases, if there are any. -/
  | tables (databases : Option (RuleStore × StateStore))

/-- A session between two steps. -/
structure Session where
  /-- The configuration of a service that is given no other. -/
  config : Config
  /-- The configuration of the running service. -/
  current : Config
  shared : Shared
  /-- The databases that a service has left, while another one keeps to memory. -/
  left : Option (RuleStore × StateStore) := none
  /-- The messages that arrive during the next download of a URL. -/
  arrivals : Table String (List Message) := .empty
  loop : RefreshLoop

namespace Session

/-- A session with a new service at a time of the wall clock. -/
def start (config : Config) (clock : Int) (period : Nat) : Session where
  config := config
  current := config
  shared :=
    { rules := .new config.storage.backend
      states := .new config.storage.backend
      clock := clock }
  loop := .start period 0

/-- The databases as they are now; there are none before a service has used some. -/
def databases (s : Session) : Option (RuleStore × StateStore) :=
  match s.current.storage.backend with
  | .sqlite => some (s.shared.rules, s.shared.states)
  | .memory => s.left

/-- The session with a new service. Databases, pages, faults and clocks stay. -/
def restart (s : Session) (config : Option Config) : Session :=
  let current := config.getD s.config
  let left := s.databases.map fun (rules, states) => (rules.reopen, states.reopen)
  let backend := current.storage.backend
  let fresh := (.new backend, .new backend)
  let (rules, states) := if backend = .sqlite then left.getD fresh else fresh
  { s with
    current, left
    shared :=
      { s.shared with
        rules, states, phase := .idle, passHolder := none, stateHolder := none }
    loop := .start s.loop.period s.loop.now }

/-- Writes a text as the state's document; memory takes only the document of a state. -/
def saveDocument (s : Session) (text : String) : StepResult × Session :=
  match s.shared.states with
  | .database _ =>
    let states := s.shared.states.putDocument StateStore.stateKey text
    (.nothing, { s with shared := { s.shared with states } })
  | .memory _ =>
    match SyncState.decode? text with
    | none => (.undecodable, s)
    | some state =>
      (.nothing, { s with shared := { s.shared with states := s.shared.states.save state } })

/-- Replaces rules in the store itself. -/
def putRules (s : Session) (remove : List UInt32) (add : List Rule) : StepResult × Session :=
  match s.shared.rules.replace remove add with
  | .error e => (.storeFailed e, s)
  | .ok rules => (.nothing, { s with shared := { s.shared with rules } })

/-- Writes a row in the database, with an empty document as its declarative form. -/
def putRow (s : Session) (n : Int) (rule : String) : Session :=
  let put (rules : RuleStore) := rules.putRow n ⟨rule, (Json.object []).render⟩
  match s.current.storage.backend with
  | .sqlite => { s with shared := { s.shared with rules := put s.shared.rules } }
  | .memory => { s with left := s.left.map fun (rules, states) => (put rules, states) }

/-- Sets the page of a URL and the messages of its next download. -/
def serve (s : Session) (url : String) (page : Page) (arrivals : List Message) : Session :=
  { s with
    shared := { s.shared with pages := s.shared.pages.put url page }
    arrivals := s.arrivals.put url arrivals }

/-- Sets the wall clock. -/
def setClock (s : Session) (ms : Int) : Session :=
  { s with shared := { s.shared with clock := ms } }

/-- Removes all faults. -/
def heal (s : Session) : Session :=
  { s with shared := { s.shared with faults := fun _ => none } }

/-- Sets the fault of a call. -/
def setFault (s : Session) (t : Target) (f : Fault) : Session :=
  let faults := fun u => if u = t then some f else s.shared.faults u
  { s with shared := { s.shared with faults } }

end Session

end FilterSync
