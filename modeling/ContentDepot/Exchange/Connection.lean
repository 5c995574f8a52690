import ContentDepot.Exchange.Address
import ContentDepot.Exchange.Basic
import ContentDepot.Settings
import ContentDepot.Text.Base64

/-!
# Connections to the backends

A connection is opened by the first operation that needs it, and again after it
has been closed. Within an open connection an operation is an attempt, which
may break off; what that means to the caller is for the operation to say.

* `Endpoint`: where a backend is and how requests to it are made.
* `connected`: the endpoint of a backend, opened if need be.
* `Attempt`, `Trouble`: a talk and how it breaks off.
* `Attempt.guarded`: an attempt as an action.
-/

namespace ContentDepot

/-- How an attempt breaks off. -/
inductive Trouble where
  /-- The search engine answered with a status outside success. -/
  | status (code : Int) (detail : String)
  /-- What was looked for is not there. -/
  | absent
  | cause (c : Cause)
  deriving Repr, DecidableEq

/-- A talk within an open connection, which may break off. -/
abbrev Attempt (α : Type) := ExceptT Trouble Exchange α

namespace Attempt

variable {α : Type}

/-- Breaks off for a fault. -/
def fault (f : Fault) : Attempt α := throw (.cause (.fault f))

/-- The result of reading a value. -/
def ofRead : Except Cause α → Attempt α
  | .ok a => pure a
  | .error c => throw (.cause c)

/-- An attempt as an action, with what its failure means. -/
def guarded (attempt : Attempt α) (onTrouble : Trouble → Action α) : Action α :=
  ExceptT.mk do
    match ← attempt.run with
    | .ok a => pure (.ok a)
    | .error t => (onTrouble t).run

end Attempt

/-- Where a backend is, and what every request to it carries. -/
structure Endpoint where
  backend : Backend
  address : Address
  credentials : Option String
  deriving Repr, DecidableEq

namespace Endpoint

/-- A request to the backend, unless the address or the payload does not admit it. The
parameters of the address count where the request has none of its own. -/
def request (e : Endpoint) (url : Url) (verb : Verb) (query : List (String × String))
    (payload : Payload) : Except Fault Request := do
  if Url.maxLength < Address.queryLength query then throw .invalidAddress
  match payload with
  | .json v => if !v.sendable then throw .badValue
  | _ => pure ()
  let path := if url.path.isEmpty then "/" else String.ofList url.path
  let query := if query.isEmpty then grouped (parseQuery (url.query.getD [])) else query
  return ⟨e.backend, verb, path, query, e.credentials, payload⟩

/-- The reply to a request as an attempt; the response to a URL that names no scheme is of no
use. -/
def received (url : Url) : Reply → Attempt Response
  | .response r => if url.namesScheme then return r else Attempt.fault .badValue
  | .disrupted message => throw (.cause (.transport message))
  | .fault f => Attempt.fault f

/-- Sends a request and waits for the response. -/
def call (e : Endpoint) (verb : Verb) (path : String) (query : List (String × String))
    (payload : Payload) : Attempt Response := do
  let found := do
    let url ← e.address.target path
    return (url, ← e.request url verb query payload)
  match found with
  | .error f => Attempt.fault f
  | .ok (url, r) => received url (← (Exchange.ask r : Exchange Reply))

end Endpoint

/-- The URL of a backend. -/
def Settings.hostOf (s : Settings) : Backend → String
  | .content => s.contentHost
  | .engine => s.engineHost

/-- The user and the password that settings name for a backend, where a user is set. -/
def Settings.userOf (s : Settings) : Backend → Option (String × String)
  | .content => none
  | .engine => if s.engineUser.isEmpty then none else some (s.engineUser, s.enginePassword)

/-- What authorises the requests of a user. -/
def credentials (user : String × String) : String :=
  "Basic " ++ Text.Base64.encode (Text.Utf8.encode (user.1 ++ ":" ++ user.2))

/-- The endpoint that settings give for a backend, unless its URL is not valid. The user that
settings name goes before the one of the URL. -/
def Settings.endpoint? (s : Settings) (b : Backend) : Option Endpoint :=
  (Address.ofUrl? (s.hostOf b)).map fun a => ⟨b, a, ((s.userOf b).or a.base.user?).map credentials⟩

/-- The event of opening a connection. -/
def connectingEvent : Backend → String
  | .content => "connecting_to_ipfs"
  | .engine => "connecting_to_elasticsearch"

/-- Opens the connection to a backend unless it is open. -/
def connect (s : Settings) (b : Backend) : Action Unit := do
  let c ← (Exchange.context : Exchange Context)
  if c.isOpen b then return ()
  Exchange.emit .info (connectingEvent b)
  match s.endpoint? b with
  | none => throw (.fault .invalidAddress)
  | some _ => Exchange.modify (·.openTo b)

/-- The endpoint of a backend, its connection opened if need be. -/
def connected (s : Settings) (b : Backend) : Action Endpoint := do
  connect s b
  match s.endpoint? b with
  | none => throw (.fault .invalidAddress)
  | some e => return e

/-- Opens both connections, that of the content store first. -/
def connectAll (s : Settings) : Action Unit := do
  connect s .content
  connect s .engine

/-- Closes both connections. -/
def closeAll : Exchange Unit := do
  Exchange.modify fun c => { c with contentOpen := false, engineOpen := false }
  Exchange.emit .info "resources_closed"

/-! ## Reading what a backend answers -/

/-- The member of an answer; an answer without members has none to ask for. -/
def Json.memberOrFault (v : Json) (key : String) : Except Cause (Option Json) :=
  match v with
  | .obj ms => .ok (Entries.get? ms key)
  | _ => .error (.fault .noSuchMember)

/-- The member that an answer has to have. -/
def Json.itemAt (v : Json) (key : String) : Except Cause Json :=
  match v with
  | .obj ms => match Entries.get? ms key with
    | some w => .ok w
    | none => .error (.missingMember key)
  | _ => .error (.fault .wrongType)

/-- The body of a response as a value. -/
def Response.json (r : Response) : Except Cause Json :=
  match r.body.json? with
  | .ok v => .ok v
  | .error f => .error (.fault f)

end ContentDepot
