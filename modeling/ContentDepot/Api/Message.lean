import ContentDepot.Api.Form
import ContentDepot.Exchange.Host
import ContentDepot.Json.Finite
import ContentDepot.Json.Reader
import ContentDepot.Schema
import ContentDepot.Text.Percent
import ContentDepot.Text.Unicode

/-!
# Requests to the service and its responses

A request has a method, a target, headers and a body, which is a sequence of
bytes or a form. Header names are compared without regard to case.

* `Request.path`, `Request.queryText`, `Request.query`: the two parts of a target.
* `Request.jsonBody`: what a body is that is read as JSON.
* `Request.form`: the parts of a body that is read as a form.
* `Response.json`, `Response.plain`, `Response.rejected`: the kinds of responses.
-/

namespace ContentDepot.Api

/-! ## Requests -/

/-- The body of a request. -/
inductive Body where
  | bytes (content : Bytes)
  | form (parts : List SentPart)
  deriving Repr, DecidableEq

/-- A request to the service. The target is percent-encoded. -/
structure Request where
  /-- How the service is reached. -/
  scheme : String
  method : String
  target : String
  headers : List (String × String)
  body : Body
  deriving Repr, DecidableEq

/-- What a body is that is read as JSON. -/
inductive JsonBody where
  | absent
  | value (v : Json)
  /-- The body is said to be of another type. -/
  | otherType
  | malformed
  /-- The bytes are no text, or the text goes beyond what is read. -/
  | unreadable
  deriving Repr, DecidableEq

/-- Whether a content type says that the body is JSON. -/
def isJsonType (contentType : String) : Bool :=
  let essence := headerName (String.ofList (Text.trim Text.isBlank
    (contentType.toList.takeWhile (· != ';'))))
  match essence.toList.splitOn '/' with
  | [main, sub] => String.ofList main == "application" &&
    (String.ofList sub == "json" || "+json".toList.isSuffixOf sub)
  | _ => false

/-- The ways in which a body is a form. -/
inductive FormType where
  /-- Parts between delimiter lines, where a boundary is named; and whether texts are in UTF-8. -/
  | delimited (boundary : Option String) (inUtf8 : Bool)
  | list
  | none
  deriving Repr, DecidableEq

namespace FormType

/-- The names of UTF-8. -/
def utf8Names : List String := ["utf-8", "utf8", "utf_8", "utf", "u8"]

/-- The way in which a body is a form, as its content type says. -/
def ofContentType (contentType : String) : FormType :=
  let value := HeaderValue.read contentType
  if value.word = "multipart/form-data" then
    .delimited (value.parameter? "boundary")
      (utf8Names.contains (headerName ((value.parameter? "charset").getD "utf-8")))
  else if value.word = "application/x-www-form-urlencoded" then .list
  else .none

end FormType

namespace Request

/-- The target without a fragment. -/
def resource (r : Request) : List Char := r.target.toList.takeWhile (· != '#')

/-- The path of a request, read from its escapes. -/
def path (r : Request) : String :=
  Text.Percent.decode (String.ofList (r.resource.takeWhile (· != '?')))

/-- The part of the target after the question mark, as it is sent. -/
def queryText (r : Request) : String :=
  String.ofList ((r.resource.dropWhile (· != '?')).drop 1)

/-- The names and values of the query of a request. -/
def query (r : Request) : List (String × String) := parseQuery r.queryText.toList

/-- The first value of a header. -/
def header? (r : Request) (name : String) : Option String :=
  (r.headers.find? fun h => headerName h.1 == name).map Prod.snd

/-- Whether the host that a request names can be read: brackets in it hold an address. -/
def namesHost (r : Request) : Bool :=
  let host := (Url.splitAtAny ['/', '?', '#'] ((r.header? "host").getD "").toList).1
  let address := ((host.dropWhile (· != '[')).drop 1).takeWhile (· != ']')
  if host.contains '[' then host.contains ']' && Host.isGrouped address else !host.contains ']'

/-- The content type that a request names. -/
def contentType (r : Request) : String := (r.header? "content-type").getD ""

/-- The parts of the form that a request carries. -/
def form (r : Request) : Except FormDefect (List Part) :=
  match FormType.ofContentType r.contentType, r.body with
  | .none, _ => .ok []
  | .list, .bytes content => .ok (Form.ofList content)
  | .list, .form _ => .ok []
  | .delimited none _, _ => .error .noDelimiter
  | .delimited (some _) inUtf8, .form sent => Form.receive inUtf8 sent
  | .delimited (some boundary) inUtf8, .bytes content => do
    Form.receive inUtf8 (← Form.ofDelimited boundary content)

/-- The body of a request that is read as JSON. -/
def jsonBody (r : Request) : JsonBody :=
  match r.body with
  | .form _ => if isJsonType r.contentType then .malformed else .otherType
  | .bytes [] => .absent
  | .bytes content =>
    if !isJsonType r.contentType then .otherType
    else match Text.Unicode.decodeDetected? content with
      | none => .unreadable
      | some cs => match Json.read .forBodies cs with
        | .ok v => .value v
        | .error .malformed => .malformed
        | .error _ => .unreadable

end Request

/-! ## Responses -/

/-- What a response carries. -/
inductive Content where
  | empty
  | json (v : Json)
  | text (s : String)
  | bytes (content : Bytes)
  deriving Repr, DecidableEq

/-- A response of the service. -/
structure Response where
  status : Nat
  headers : List (String × String)
  content : Content
  deriving Repr, DecidableEq

/-- The header that carries the identifier of a request, in the form for comparison. -/
def requestIdHeader : String := "x-request-id"

namespace Response

/-- A response with one more header. -/
def withHeader (r : Response) (name value : String) : Response :=
  { r with headers := r.headers ++ [(name, value)] }

/-- The value of a header. -/
def header? (r : Response) (name : String) : Option String :=
  (r.headers.find? fun h => h.1 == name).map Prod.snd

/-- A response with a value. -/
def json (status : Nat) (v : Json) : Response :=
  ⟨status, [("content-type", "application/json")], .json v⟩

/-- A response with a text. -/
def plain (status : Nat) (s : String) : Response :=
  ⟨status, [("content-type", "text/plain; charset=utf-8")], .text s⟩

/-- A response with bytes. -/
def octets (content : Bytes) : Response :=
  ⟨200, [("content-type", "application/octet-stream")],
    if content.isEmpty then .empty else .bytes content⟩

/-- A response that says in one sentence what is wrong with the request. -/
def detail (status : Nat) (sentence : String) : Response :=
  json status (.obj [("detail", .str sentence)])

/-- A step to the place of an issue. -/
def stepToJson : Step → Json
  | .key name => .str name
  | .item position => .int position

/-- An issue: its kind and its place. -/
def issueToJson (i : Issue) : Json := .arr [.str i.kind.label, .arr (i.path.map stepToJson)]

/-- The response to a request whose parameters have issues. -/
def rejected (issues : List Issue) : Response :=
  json 422 (.obj [("detail", .arr (issues.map issueToJson))])

/-- The response when the service itself has failed. -/
def unhandled : Response := plain 500 "Internal Server Error"

end Response

end ContentDepot.Api
