import FilterSync.Config.Basic
import FilterSync.Sync.Download
import FilterSync.Text.Utf8

/-!
# Fetching a list

A list is fetched by one request. The status of the reply is looked at before the body, and
a body has to be as long as announced. Undecodable bytes of it do no harm but to the lines
that hold them.
-/

namespace FilterSync.Http

/-- What a request for a list says. -/
structure ListRequest where
  /-- The path on the server. -/
  path : String
  userAgent : String
  cacheControl : String
  deriving DecidableEq, Repr

namespace ListRequest

/-- The request for a path under given settings. Lists are not to come from a cache. -/
def ofSettings (u : Config.Updates) (path : String) : ListRequest where
  path
  userAgent := u.userAgent
  cacheControl := "no-store"

/-- The first line of a request. -/
def line (r : ListRequest) : String := "GET " ++ r.path ++ " HTTP/1.1"

end ListRequest

/-- What a server sends back. -/
structure Reply where
  status : Nat
  /-- The announced length of the body; without it, the body ends with the connection. -/
  announced : Option Nat
  /-- The bytes that arrive behind the head. -/
  bytes : List UInt8
  deriving DecidableEq, Repr

namespace Reply

/-- Whether a reply is only an announcement of another one. -/
def isInterim (r : Reply) : Bool := 100 ≤ r.status && r.status < 200 && r.status ≠ 101

/-- Whether a status is one of three digits. -/
def hasStatus (r : Reply) : Bool := 100 ≤ r.status && r.status < 1000

/-- Whether a reply says that the list is there. -/
def isSuccess (r : Reply) : Bool := 200 ≤ r.status && r.status < 300

/-- The body, if all of it arrived. A reply of status 204 has none. -/
def body? (r : Reply) : Option (List UInt8) :=
  if r.status = 204 then some []
  else
    match r.announced with
    | none => some r.bytes
    | some n => if r.bytes.length < n then none else some (r.bytes.take n)

end Reply

/-- What becomes of the request for a URL, given the reply if the server could be reached. -/
def download (url : String) (reply : Option Reply) : Download :=
  match reply with
  | none => .error (.transport url "no connection")
  | some r =>
    if !r.hasStatus || r.isInterim then .error (.transport url "no reply")
    else if !r.isSuccess then .error (.status url r.status)
    else
      match r.body? with
      | none => .error (.body url "end of file before the announced length")
      | some bytes => .ok (String.ofList (Text.decodeLossy bytes))

end FilterSync.Http
