import ContentDepot.Exchange.Connection
import ContentDepot.Text.Lowering

/-!
# The content store

Contents are kept by a remote store under the hash that it computes.

* `ContentStore`: what a content store can do.
* `ContentStore.remote`: the store behind the RPC interface.
* `ContentStore.failing`: a store every operation of which fails.
-/

namespace ContentDepot

/-- What a content store can do. -/
structure ContentStore where
  /-- Stores a content and gives its hash. -/
  store : Option Bytes → Action Json
  /-- Gives the content with a hash. -/
  fetch : Json → Action Bytes
  /-- Whether the store can be reached. -/
  healthy : Action Bool

namespace ContentStore

/-- A value as the parameter of a request. -/
def parameterText : Json → String
  | .null => ""
  | .bool b => if b then "true" else "false"
  | v => v.text

/-- A value as the parameters of a name: one for each item of a list. -/
def parameters (name : String) : Json → List (String × String)
  | .arr items => items.map fun v => (name, parameterText v)
  | v => [(name, parameterText v)]

/-- The talk in which a content is stored. -/
def storing (e : Endpoint) (content : Bytes) : Attempt Json := do
  let r ← e.call .post "/api/v0/add" [("pin", "true"), ("quieter", "true")] (.file content)
  if !r.isSuccess then Attempt.fault .unsuccessfulStatus
  else
    let answer ← Attempt.ofRead r.json
    Attempt.ofRead (answer.itemAt "Hash")

/-- Fails for a trouble in the talk, with an event. -/
def failWith {α : Type} (activity : Activity) (name : String) (t : Trouble) : Action α := do
  Exchange.emit .error name
  match t with
  | .cause c => Action.refuse (.failed activity c)
  | .status code detail => Action.refuse (.engineStatus code detail)
  | .absent => Action.refuse (.failed activity (.fault .badValue))

/-- Stores a content. -/
def remoteStore (s : Settings) (content : Option Bytes) : Action Json := do
  match content with
  | none => Action.refuse .missingContent
  | some bytes =>
    let e ← connected s .content
    (storing e bytes).guarded (failWith .storingContent "store_content_failed")

/-- What the store says of a hash that it does not know. -/
def absenceMarkers : List String := ["not found", "invalid path", "invalid cid", "no link named"]

/-- Whether a text occurs in another. -/
def occursIn (part : List Char) : List Char → Bool
  | [] => part.isEmpty
  | c :: cs => part.isPrefixOf (c :: cs) || occursIn part cs

/-- Whether an answer says that the content is not there; an answer that is no JSON does not. -/
def saysAbsent (r : Response) : Except Fault Bool :=
  match r.body.json? with
  | .error f => if f.isValueFault then .ok false else .error f
  | .ok (.obj ms) =>
    let message := (Text.lower ((Entries.get? ms "Message").getD (.str "")).text).toList
    .ok (absenceMarkers.any fun m => occursIn m.toList message)
  | .ok _ => .error .noSuchMember

/-- Fetches a content. -/
def remoteFetch (s : Settings) (hash : Json) : Action Bytes := do
  Action.require hash "hash"
  let e ← connected s .content
  let r ← (e.call .post "/api/v0/cat" (parameters "arg" hash) .empty).guarded
    (failWith .fetchingContent "fetch_content_failed")
  let absent ←
    if r.status = 404 then pure true
    else if r.status = 500 then
      match saysAbsent r with
      | .ok b => pure b
      | .error f => throw (.fault f)
    else pure false
  if absent then
    Exchange.emit .warning "content_not_found"
    Action.refuse (.noContent hash)
  else if r.status ≠ 200 then
    Exchange.emit .error "fetch_content_failed"
    Action.refuse (.contentStatus r.status hash)
  else return r.body.toBytes

/-- Asks for the version of the store. -/
def remoteHealthy (s : Settings) : Action Bool := do
  let e ← connected s .content
  let healthy : Attempt Bool := do
    let r ← e.call .post "/api/v0/version" [] .empty
    return r.status == 200
  healthy.guarded fun _ => do
    Exchange.emit .error "ipfs_health_check_failed"
    return false

/-- The store behind the RPC interface. -/
def remote (s : Settings) : ContentStore := ⟨remoteStore s, remoteFetch s, remoteHealthy s⟩

/-- A store that fails in one way, except that storing may give a fixed hash. -/
def failing (f : Failure) (hash : Option Json) : ContentStore where
  store _ := match hash with
    | some h => pure h
    | none => throw f
  fetch _ := throw f
  healthy := throw f

end ContentStore

end ContentDepot
