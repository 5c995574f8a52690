import ContentDepot.Api.Metrics
import ContentDepot.Api.Origin
import ContentDepot.Api.Route
import ContentDepot.Api.SearchParameters
import ContentDepot.Installation
import ContentDepot.Query.Wire

/-!
# The service

The operations of a depot over HTTP. A request is handled within a context of
its own that carries its identifier; whatever happens, the context is empty
afterwards. An error of the depot is answered with the status of its kind; any
other failure is answered as one of the service itself.

* `Service`: what the service needs.
* `Service.start`: opening the connections.
* `Service.perform`: what is done for a target.
* `Service.handle`: the response to a request.
-/

namespace ContentDepot.Api

/-- What the service needs. -/
structure Service where
  settings : Settings
  /-- The installation, once there is one. -/
  installation : Option Installation
  /-- The failure with which every operation on the depot ends, if it is out of use. -/
  outage : Option Failure

/-- How the service reaches the depot. -/
inductive Access where
  | depot (d : Depot)
  | out (f : Failure)

namespace Access

/-- An operation on the depot, or the failure that stands in its place. -/
def use {α : Type} (a : Access) (operation : Depot → Action α) : Action α :=
  match a with
  | depot d => operation d
  | out f => throw f

end Access

namespace Service

/-! ## Starting -/

/-- Opens the connections to both backends. -/
def start (s : Service) : Action Unit :=
  ExceptT.mk do
    Exchange.emit .info "Starting Filestore API..."
    match ← (connectAll s.settings).run with
    | .ok _ => do
      Exchange.emit .info "Resources initialized successfully."
      pure (.ok ())
    | .error f => do
      Exchange.emit .error "resources_init_failed"
      pure (.error f)

/-! ## Targets -/

/-- How the depot is reached; without an installation it is not. -/
def access (s : Service) : Action Access :=
  match s.outage, s.installation with
  | some f, _ => return .out f
  | none, some i => return .depot i.depot
  | none, none => throw (.fault .noSuchMember)

/-- Goes on with what a check has found, or rejects the request. -/
def checked {α : Type} (found : Checked α) (next : α → Action Response) : Action Response :=
  match found with
  | .ok a => next a
  | .error issues => return .rejected issues

/-- What a check has found after other issues. -/
def after {α : Type} (issues : List Issue) (found : Checked α) : Checked α :=
  match issues, found with
  | [], found => found
  | issues, .ok _ => .error issues
  | issues, .error more => .error (issues ++ more)

/-- The body of a request as JSON; the response if it is not read as that. -/
def readJson (r : Request) : Except Response JsonBody :=
  match r.jsonBody with
  | .malformed => .error (.rejected [⟨.jsonInvalid, [.key "body"]⟩])
  | .unreadable => .error (.detail 400 unreadableBody)
  | body => .ok body

/-- The form of a request; the response if its body is none. -/
def readForm (r : Request) : Except Response (List Part) :=
  r.form.mapError fun defect => Response.detail 400 defect.sentence

/-- An index request, which has to be there. -/
def indexRequest : JsonBody → Checked IndexRequest
  | .absent => (Checked.fail .missing).inside (.key "body")
  | .value v => (IndexRequest.check .modelAttributesType v).inside (.key "body")
  | _ => (Checked.fail .modelAttributesType).inside (.key "body")

/-- A query, which may be absent or null. -/
def queryBody : JsonBody → Checked (Option Query)
  | .absent | .value .null => .ok none
  | .value v =>
    Checked.inside (.key "body") ((ContentDepot.Query.check .modelAttributesType v).map some)
  | _ => (Checked.fail .modelAttributesType).inside (.key "body")

/-- The last part of a form with a name, which has to be there; an empty field counts as
none. -/
def formPart {α : Type} (form : List Part) (name : String) (check : Part → Checked α) :
    Checked α :=
  let found := match (form.filter fun p => p.name == name).getLast? with
    | none | some (.field _ "") => Checked.fail .missing
    | some p => check p
  (found.inside (.key name)).inside (.key "body")

/-- The content of the file of a form. -/
def formFile (form : List Part) : Checked Bytes :=
  formPart form "file" fun
    | .file _ content => .ok content
    | .field .. => .fail .valueError

/-- The text of the request field of a form. -/
def formRequest (form : List Part) : Checked String :=
  formPart form "request" fun
    | .file .. => .fail .stringType
    | .field _ text => .ok text

/-- The greatest number of levels in a value that a response shows. -/
def shownLevels : Nat := 255

/-- Metadata in a response, unless the value of a field has too many levels. -/
def metadataJson (m : Metadata) : Except Fault Json :=
  if m.fields.all fun e => e.2.levels ≤ shownLevels then .ok m.toJson.finitePart
  else .error .badValue

/-- Whether both backends are in a usable state. -/
def health (s : Service) : Action Response :=
  let report := fun state content engine => Response.json 200 (.obj [("status", .str state),
    ("ipfs", .bool content), ("elasticsearch", .bool engine)])
  match s.installation with
  | none => return report "starting" false false
  | some i => do
    let content ← i.contents.healthy
    let engine ← i.index.healthy
    return report (if content && engine then "healthy" else "degraded") content engine

/-- Stores the file of a form. -/
def storeFile (s : Service) (r : Request) : Action Response :=
  match readForm r with
  | .error response => return response
  | .ok form => do
    let access ← s.access
    checked (formFile form) fun content => do
      match ← access.use (·.storeFile (some content)) with
      | .str hash => return .json 200 (.obj [("hash", .str hash)])
      | _ => throw (.fault .invalidRecord)

/-- Indexes a content that is already stored. -/
def indexFile (s : Service) (r : Request) : Action Response :=
  match readJson r with
  | .error response => return response
  | .ok body => do
    let access ← s.access
    checked (indexRequest body) fun request => do
      let receipt ← access.use (·.indexFile (some request))
      return .json 200 receipt.toJson

/-- Stores the file of a form and indexes it. -/
def storeAndIndexFile (s : Service) (r : Request) : Action Response :=
  match readForm r with
  | .error response => return response
  | .ok form => do
    let access ← s.access
    let found := Checked.apply (Checked.apply (.ok Prod.mk) (formFile form)) (formRequest form)
    checked found fun (content, text) => do
      match IndexRequest.checkText text with
      | .error _ => Action.refuse .invalidRequestForm
      | .ok request => do
        let receipt ← access.use (·.storeAndIndexFile (some content) (some request))
        return .json 200 receipt.toJson

/-- The response with a value. -/
def valueResponse : Except Fault Json → Action Response
  | .ok v => return .json 200 v
  | .error f => throw (.fault f)

/-- One page of metadata in a response. -/
def pageJson (p : Page Metadata) : Except Fault Json := do
  let records ← p.content.mapM metadataJson
  { p with content := records : Page Json }.toJson

/-- Searches for one page of metadata. -/
def searchFiles (s : Service) (r : Request) (missing : List Issue) (index : String) :
    Action Response :=
  match readJson r with
  | .error response => return response
  | .ok body => do
    let access ← s.access
    let found := Checked.apply (.ok Prod.mk) (after missing (SearchParameters.check r.query))
    checked (found.apply (queryBody body)) fun (parameters, query) => do
      let pageable ← Action.ofExcept
        (parameters.pageable s.settings.defaultPageSize s.settings.maxPageSize)
      valueResponse <| pageJson (← access.use (·.searchFiles (.str index) query (some pageable)))

/-- Does what is asked for, unless there are issues. -/
def perform (s : Service) (r : Request) (missing : List Issue) : Target → Action Response
  | .health => s.health
  | .storeFile => s.storeFile r
  | .indexFile => s.indexFile r
  | .storeAndIndexFile => s.storeAndIndexFile r
  | .fetchFile hash => do
    let access ← s.access
    checked (after missing (.ok ())) fun _ => do
      return .octets (← access.use (·.fileByHash (.str hash)))
  | .metadataByHash index hash => do
    let access ← s.access
    checked (after missing (.ok ())) fun _ => do
      valueResponse (metadataJson (← access.use (·.metadataByHash (.str index) (.str hash))))
  | .metadataById index id => do
    let access ← s.access
    checked (after missing (.ok ())) fun _ => do
      valueResponse (metadataJson (← access.use (·.metadataById (.str index) (.str id))))
  | .searchFiles index => s.searchFiles r missing index
  | .createIndex index => do
    let access ← s.access
    checked (after missing (.ok ())) fun _ => do
      access.use (·.createIndex (.str index))
      return .json 201 (.obj [("index", .str index)])

/-! ## Handling a request -/

/-- The keys that an event about a failed request has of its own. -/
def ownKeys : List String := ["path", "kind", "error", "event", "method_name"]

/-- The response to an error of the depot, with an event; an error whose context would
replace a key of the event has none. -/
def answerError (e : StoreError) : Exchange (Option Response) := do
  let response := Response.json e.kind.status
    (.obj [("error", .str e.kind.label), ("detail", .str e.message)])
  if e.kind.status < 500 then
    Exchange.emit .info "request_rejected"
    return some response
  else if (Entries.keys e.context).any ownKeys.contains then return none
  else
    Exchange.emitWith .error "request_failed" e.context
    return some response

/-- The response without its body, which a request for the head alone does not get. -/
def forMethod (method : String) (r : Response) : Response :=
  if method = "HEAD" then { r with content := .empty } else r

/-- The response to a request for what routes lead to; none if the service has failed. -/
def respondBy (s : Service) (routes : Routes) (r : Request) : Exchange (Option Response) :=
  match routes.resolve r.method r.path r.query with
  | .metrics => return (Metrics.report r).toOption
  | .missing => return some (.detail 404 "Not Found")
  | .wrongMethod allowed =>
    return some ((Response.detail 405 "Method Not Allowed").withHeader "allow" allowed)
  | .redirected path => return some ⟨307, [("location", Routes.location r path)], .empty⟩
  | .found a => do
    match ← (s.perform r a.issues a.target).run with
    | .ok response => return some response
    | .error (.error e) => answerError e
    | .error _ => return none

/-- The response to a request that asks for something; none if the service has failed. -/
def respond (s : Service) (r : Request) : Exchange (Option Response) :=
  match Routes.ofSettings s.settings with
  | .ok routes => s.respondBy routes r
  | .error _ => return none

/-- The response within the rules for other origins. -/
def respondShared (s : Service) (r : Request) : Exchange (Option Response) :=
  match Origin.preflight? s.settings.corsOrigins r with
  | some response => return some response
  | none => do
    return (← s.respond r).map (Origin.shared s.settings.corsOrigins r)

/-- The identifier of a request: the one that it names, or a fresh one. -/
def identify (r : Request) : Exchange String :=
  match r.header? requestIdHeader with
  | none | some "" => Exchange.freshId
  | some id => return id

/-- What every event carries while a request is handled. -/
def contextOf (r : Request) (id : String) : Entries Json :=
  [(Context.requestIdKey, .str id), ("method", .str r.method), ("path", .str r.path)]

/-- The response to a request. To one whose host cannot be read there is none but that of a
failure. -/
def handle (s : Service) (r : Request) : Exchange Response := do
  let id ← identify r
  if !r.namesHost then return forMethod r.method .unhandled
  Exchange.modify fun c => { c with bound := contextOf r id }
  let response ← s.respondShared r
  Exchange.modify fun c => { c with bound := [] }
  match response with
  | some response => return forMethod r.method (response.withHeader requestIdHeader id)
  | none => return forMethod r.method .unhandled

end Service

end ContentDepot.Api
