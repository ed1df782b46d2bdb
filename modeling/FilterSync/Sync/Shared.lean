import FilterSync.Store.Rules
import FilterSync.Store.States
import FilterSync.Sync.Download

/-!
# What operations share

Operations work on two stores, download lists, and read a clock. All of this, the two
locks and the phase of the running pass are one value here, and each call of a store is
a function on it. A call can be made to fail, and then changes nothing in the stores.

The calls are noted in order, so that a run can be looked at afterwards.
-/

namespace FilterSync

/-- How far the running pass is. -/
inductive Phase
  | idle
  | fetching
  | committing
  deriving DecidableEq, Repr

namespace Phase

/-- The name of a phase. -/
def name : Phase → String
  | idle => "Idle"
  | fetching => "FetchingAndCompiling"
  | committing => "Committing"

end Phase

/-! ## Faults -/

/-- The store calls that can be made to fail. -/
inductive Target
  | load
  | save
  | ids
  | replace
  deriving DecidableEq, Repr

namespace Target

/-- The name of a call. -/
def name : Target → String
  | load => "load"
  | save => "save"
  | ids => "ids"
  | replace => "replace"

/-- The call of a given name. -/
def ofName? (s : String) : Option Target :=
  [load, save, ids, replace].find? (·.name = s)

end Target

/-- Makes calls fail: some pass first, then some fail, then all pass again. -/
structure Fault where
  skip : Nat
  /-- How many calls fail; all of them if there is no number. -/
  times : Option Nat
  error : StoreError
  deriving DecidableEq, Repr

namespace Fault

/-- What the next call meets, and the fault behind it. -/
def next (f : Fault) : Option StoreError × Fault :=
  match f.skip, f.times with
  | n + 1, _ => (none, { f with skip := n })
  | 0, none => (some f.error, f)
  | 0, some 0 => (none, f)
  | 0, some (n + 1) => (some f.error, { f with times := some n })

end Fault

/-! ## Calls -/

/-- A call of a store or a download. -/
inductive Call
  | load
  | save
  | fetch (url : String) (phase : Phase)
  | ids (phase : Phase)
  | replace (removed added : Nat) (phase : Phase)
  deriving DecidableEq, Repr

namespace Call

/-- A call in words. -/
def text : Call → String
  | load => "load"
  | save => "save"
  | fetch url phase => "fetch " ++ url ++ " " ++ phase.name
  | ids phase => "ids " ++ phase.name
  | replace removed added phase =>
    "replace -" ++ toString removed ++ " +" ++ toString added ++ " " ++ phase.name

end Call

/-- A call that was made, and whether a fault made it fail. -/
structure Event where
  call : Call
  failed : Bool
  deriving DecidableEq, Repr

namespace Event

/-- An event in words. -/
def text (e : Event) : String :=
  if e.failed then e.call.text ++ " failed" else e.call.text

end Event

/-! ## Downloads -/

/-- What a server has at a URL. -/
inductive PageContent
  | text (body : String)
  | broken (detail : String)
  | status (code : Nat)
  /-- No reply at all. -/
  | unreachable (detail : String)
  deriving DecidableEq, Repr

/-- What a download of a URL meets. -/
structure Page where
  content : PageContent
  /-- The time in milliseconds at which the download happens, if it is to be set. -/
  time : Option Int := none
  deriving DecidableEq, Repr

namespace Page

/-- The page of a URL that has none. -/
def missing : Page where
  content := .status 404

/-- What a download of the page gives. -/
def download (p : Page) (url : String) : Download :=
  match p.content with
  | .text body => .ok body
  | .broken detail => .error (.body url detail)
  | .status code => .error (.status url code)
  | .unreachable detail => .error (.transport url detail)

end Page

/-! ## The shared value -/

/-- What operations share. -/
structure Shared where
  rules : RuleStore
  states : StateStore
  faults : Target → Option Fault := fun _ => none
  pages : Table String Page := .empty
  /-- Milliseconds since the beginning of 1970, possibly before it. -/
  clock : Int
  phase : Phase := .idle
  /-- Who holds the lock of passes. -/
  passHolder : Option Nat := none
  /-- Who holds the lock of the state. -/
  stateHolder : Option Nat := none
  /-- The calls made so far, the last one first. -/
  events : List Event := []

namespace Shared

/-- The time; a clock before 1970 reads as its beginning. -/
def now (s : Shared) : Timestamp := UInt64.ofNat s.clock.toNat

/-- Notes a call. -/
def note (s : Shared) (call : Call) (failed : Bool) : Shared :=
  { s with events := ⟨call, failed⟩ :: s.events }

/-- Makes a call of a store up to the point where the store would be reached: notes it and
says whether a fault makes it fail. -/
def attempt (s : Shared) (t : Target) (call : Call) : Option StoreError × Shared :=
  match s.faults t with
  | none => (none, s.note call false)
  | some f =>
    let (error, f) := f.next
    let faults := fun u => if u = t then some f else s.faults u
    (error, { s with faults }.note call error.isSome)

/-- Loads the state. -/
def load (s : Shared) : Except StoreError (Option SyncState) × Shared :=
  match s.attempt .load .load with
  | (some e, s) => (.error e, s)
  | (none, s) => (s.states.load, s)

/-- Saves a state. -/
def save (s : Shared) (state : SyncState) : Except StoreError Unit × Shared :=
  match s.attempt .save .save with
  | (some e, s) => (.error e, s)
  | (none, s) => (.ok (), { s with states := s.states.save state })

/-- Lists the identifiers of the live rules. -/
def listIds (s : Shared) : Except StoreError (List UInt32) × Shared :=
  match s.attempt .ids (.ids s.phase) with
  | (some e, s) => (.error e, s)
  | (none, s) => (s.rules.ids, s)

/-- Replaces live rules. -/
def replaceRules (s : Shared) (remove : List UInt32) (add : List Rule) :
    Except StoreError Unit × Shared :=
  match s.attempt .replace (.replace remove.length add.length s.phase) with
  | (some e, s) => (.error e, s)
  | (none, s) =>
    match s.rules.replace remove add with
    | .error e => (.error e, s)
    | .ok rules => (.ok (), { s with rules })

/-- Asks for the download of a URL. -/
def request (s : Shared) (url : String) : Shared :=
  s.note (.fetch url s.phase) false

/-- Ends the download of a URL. -/
def receive (s : Shared) (url : String) : Download × Shared :=
  let page := (s.pages.get? url).getD .missing
  (page.download url, { s with clock := page.time.getD s.clock })

end Shared

end FilterSync
