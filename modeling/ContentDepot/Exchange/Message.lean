import ContentDepot.Failure
import ContentDepot.Json.Printer
import ContentDepot.Json.Reader
import ContentDepot.Text.Unicode

/-!
# Messages between the depot and its backends

A request goes to one of two backends. What comes back is a response, or the
connection breaks, or a fault ends the talk.

* `Request`, `Response`, `Reply`.
* `Body.json?`: a body as a JSON value.
* `Body.text`: a body as text.
* `Response.isSuccess`: the statuses from 200 to 299.
-/

namespace ContentDepot

/-- The two backends. -/
inductive Backend where
  /-- The store of contents under their hashes. -/
  | content
  /-- The search engine that holds the index. -/
  | engine
  deriving DecidableEq, Repr, Inhabited

/-- The methods of requests to a backend. -/
inductive Verb where
  | get
  | head
  | post
  | put
  deriving DecidableEq, Repr, Inhabited

/-- The name of a method. -/
def Verb.label : Verb → String
  | .get => "GET"
  | .head => "HEAD"
  | .post => "POST"
  | .put => "PUT"

/-- What a request carries. -/
inductive Payload where
  | empty
  | json (value : Json)
  | file (content : Bytes)
  deriving Repr, Inhabited, DecidableEq

/-- A request to a backend. The path is percent-encoded, the query is not. -/
structure Request where
  backend : Backend
  verb : Verb
  path : String
  query : List (String × String)
  credentials : Option String
  payload : Payload
  deriving Repr, Inhabited, DecidableEq

/-- What a response carries: a JSON value in its compact form, or any bytes. -/
inductive Body where
  | json (value : Json)
  | bytes (content : Bytes)
  deriving Repr, Inhabited, DecidableEq

namespace Body

/-- The empty body. -/
def empty : Body := .bytes []

/-- A body as bytes. -/
def toBytes : Body → Bytes
  | json v => Text.Utf8.encode v.print
  | bytes content => content

/-- A body as text, defects replaced. -/
def text : Body → String
  | json v => v.print
  | bytes content => Text.Utf8.decodeLossy content

/-- The fault of reading a text with a defect. -/
def faultOf : Json.Defect → Fault
  | .malformed => .malformedJson
  | .oversized => .badValue
  | .tooDeep => .tooDeep

/-- A body as a JSON value. -/
def json? : Body → Except Fault Json
  | json v => .ok v
  | bytes content => match Text.Unicode.decodeDetected? content with
    | none => .error .malformedText
    | some cs => match Json.read .forBodies cs with
      | .ok v => .ok v
      | .error defect => .error (faultOf defect)

end Body

/-- A response of a backend. -/
structure Response where
  status : Int
  body : Body
  deriving Repr, Inhabited, DecidableEq

/-- Whether the status says success. -/
def Response.isSuccess (r : Response) : Bool := 200 ≤ r.status && r.status ≤ 299

/-- How a request ends. -/
inductive Reply where
  | response (r : Response)
  | disrupted (message : String)
  | fault (f : Fault)
  deriving Repr, Inhabited, DecidableEq

end ContentDepot
