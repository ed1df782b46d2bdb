import FilterSync.Http.Body
import FilterSync.Http.MediaType
import FilterSync.Text.Search

/-!
# Requests of the HTTP interface

Three paths are served: one takes messages, one shows the state, one asks the refresh
loop for a refresh. Everything about a request but the work it asks for is decided here:
an unknown path comes before a wrong method, a wrong method before a wrong content
type, and that before a bad body.
-/

namespace FilterSync.Http

/-- A request. -/
structure Request where
  method : String
  path : String
  contentType : Option String
  body : String
  deriving DecidableEq, Repr

/-- What a request asks for. -/
inductive Route
  | message (m : Message)
  /-- The state, shown or only looked up. -/
  | state (shown : Bool)
  | refresh
  /-- Nothing: the request is answered with this status. -/
  | refused (status : Nat)
  deriving DecidableEq, Repr

/-- The path for messages. -/
def messagePath : String := "/api/message"

/-- The path for the state. -/
def statePath : String := "/api/state"

/-- The path for asking for a refresh. -/
def refreshPath : String := "/api/refresh"

/-- Whether a character may stand in the scheme of a target. -/
def isSchemeChar (c : Char) : Bool := c.isAlphanum || c = '+' || c = '-' || c = '.'

/-- A target from its path on. It begins with its path, or with a scheme and an authority;
another one has no path. -/
def localPart (target : List Char) : List Char :=
  if target.head? = some '/' then target
  else
    match Text.after? "://".toList (target.dropWhile isSchemeChar) with
    | some rest => rest.dropWhile fun c => c ≠ '/' && c ≠ '?' && c ≠ '#'
    | none => []

/-- The path of a target without its query. -/
def pathOf (target : String) : String :=
  String.ofList ((localPart target.toList).takeWhile fun c => c ≠ '?' && c ≠ '#')

/-- The status for a body that is no message. -/
def BodyFault.status : BodyFault → Nat
  | notJson => 400
  | notMessage => 422

/-- What a request with a message asks for. -/
def messageRoute (r : Request) : Route :=
  if (r.contentType.map isJsonType).getD false then
    match messageOfBody r.body with
    | .ok m => .message m
    | .error fault => .refused fault.status
  else .refused 415

/-- What a request asks for. -/
def route (r : Request) : Route :=
  let path := pathOf r.path
  if path = messagePath then
    if r.method = "POST" then messageRoute r else .refused 405
  else if path = statePath then
    if r.method = "GET" then .state true
    else if r.method = "HEAD" then .state false
    else .refused 405
  else if path = refreshPath then
    if r.method = "POST" then .refresh else .refused 405
  else .refused 404

/-- The status of a response to a message. -/
def statusOf (r : Response) : Nat := if r.ok then 200 else 500

end FilterSync.Http
