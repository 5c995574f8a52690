import ContentDepot.Depot
import ContentDepot.Json.Order
import ContentDepot.Repository.Entity

/-!
# Repositories

A repository keeps entities of one model in a depot: the content is the entity
itself, and the index holds some of its attributes together with external
fields that the caller gives. An entity that has no identifier gets one before
anything else happens.

* `Repository`: a model, an index and what is indexed.
* `save`, `find?`, `has`, `search`: the operations.
* `UnsupportedOperation`, `refuse`: the operations that no repository has.
-/

namespace ContentDepot

/-- A place for entities of one model. -/
structure Repository where
  model : EntityModel
  index : String
  /-- The attributes that are indexed, under their names. -/
  fields : List String
  /-- The external fields that are admitted; none means all. -/
  external : List String
  defaultPageSize : Int
  deriving Repr, DecidableEq

/-- The operations that no repository has. -/
inductive UnsupportedOperation where
  | saveAll
  | delete
  | deleteById
  | deleteAll
  | count
  | findAllByIds
  deriving DecidableEq, Repr, Inhabited

/-- The name of an operation. -/
def UnsupportedOperation.label : UnsupportedOperation → String
  | saveAll => "save_all"
  | delete => "delete"
  | deleteById => "delete_by_id"
  | deleteAll => "delete_all"
  | count => "count"
  | findAllByIds => "find_all_by_ids"

namespace Repository

/-- The type of the stored contents. -/
def contentType : String := "application/json"

/-- A field, which needs a name. -/
def makeField (name : String) (value : Json) : Except Failure IndexField :=
  if name.isEmpty then .error (.invalid [⟨.stringTooShort, [.key "name"]⟩])
  else .ok { name, value }

/-- The indexed attributes of an entity. -/
def indexFields (r : Repository) (e : Entity) : Except Failure (List IndexField) :=
  (Entries.keys (Entries.ofList (r.fields.map fun name => (name, ())))).mapM fun name =>
    match e.attribute? name with
    | some (.value v) => makeField name v
    | some .operation => .ok { name, value := .null, writable := false }
    | none => .error (.fault .noSuchMember)

/-- The names that a value holds: the keys of an object, the characters of a text, or the items
of a list, which are neither lists nor objects. -/
def namesIn : Json → Except Fault (List Json)
  | .obj members => .ok ((Entries.keys members).map Json.str)
  | .str s => .ok (s.toList.map fun c => .str (String.singleton c))
  | .arr items =>
    if items.all fun v => v.levels = 1 && v ≠ .arr [] && v ≠ .obj [] then .ok items
    else .error .wrongType
  | _ => .error .wrongType

/-- The names that a value holds and the repository does not admit, each once. -/
def unknownNames (r : Repository) (external : Json) : Except Fault (List Json) := do
  if r.external.isEmpty then return []
  let unknown := (← namesIn external).filter fun name => !(r.external.map Json.str).contains name
  let distinct := unknown.foldl
    (fun kept name => if kept.any (Json.same name) then kept else kept ++ [name]) []
  match Json.sorted? distinct with
  | some names => return names
  | none => throw .wrongType

/-- The external fields, unless one is not admitted; a value that counts as false has none, and
others than objects give no fields. -/
def externalFields (r : Repository) (external : Json) :
    Except Failure (Option (List IndexField)) := do
  if !external.truthy then return none
  match r.unknownNames external with
  | .error f => throw (.fault f)
  | .ok [] => match external with
    | .obj members => return some (← members.mapM fun e => makeField e.1 e.2)
    | _ => throw (.fault .noSuchMember)
  | .ok names => throw (.error (.unknownExternalFields names))

/-- The index request for an entity. -/
def indexRequest (r : Repository) (e : Entity) (external : Json) :
    Except Failure IndexRequest := do
  let fields ← r.indexFields e
  let externalFields ← r.externalFields external
  return {
    id := (r.model.idOf e).str?
    index := r.index
    contentType := some contentType
    hash := none
    fields := fields
    externalFields := externalFields }

/-- The entity with an identifier: its own, or a fresh one if it has none. -/
def identified (r : Repository) (e : Entity) : Exchange Entity :=
  match r.model.idOf e with
  | .null => do
    let id ← Exchange.freshId
    return r.model.withId e id
  | _ => return e

/-- Stores an entity and indexes its fields: the entity as it is then, and the failure if
there is one. -/
def save (r : Repository) (d : Depot) (e : Entity) (external : Json) :
    Exchange (Entity × Option Failure) := do
  let e ← r.identified e
  match r.indexRequest e external with
  | .error f => return (e, some f)
  | .ok request =>
    match ← (d.storeAndIndexFile (some (EntityModel.serialize e)) (some request)).run with
    | .ok receipt => return (r.model.withHash e (some receipt.hash), none)
    | .error f => return (e, some f)

/-- The entity that a record of metadata refers to. -/
def load (r : Repository) (d : Depot) (m : Metadata) : Action Entity := do
  let content ← d.fileByHash (.ofOption m.hash)
  let e ← Action.ofChecked (r.model.deserialize content)
  return r.model.withHash e m.hash

/-- The metadata under an identifier, or none if there is no document. -/
def metadata? (r : Repository) (d : Depot) (id : Json) : Action (Option Metadata) :=
  ExceptT.mk do
    match ← (d.metadataById (.str r.index) (.str id.text)).run with
    | .ok m => pure (.ok (some m))
    | .error (.error e) =>
      if e.kind = .notFound then pure (.ok none) else pure (.error (.error e))
    | .error f => pure (.error f)

/-- The entity under an identifier, or none if there is no document. -/
def find? (r : Repository) (d : Depot) (id : Json) : Action (Option Entity) := do
  match ← r.metadata? d id with
  | none => return none
  | some m => return some (← r.load d m)

/-- Whether there is a document under an identifier. -/
def has (r : Repository) (d : Depot) (id : Json) : Action Bool := do
  return (← r.metadata? d id).isSome

/-- The entities that records of metadata refer to, one after the other. -/
def loadAll (r : Repository) (d : Depot) : List Metadata → Action (List Entity)
  | [] => return []
  | m :: ms => do
    let e ← r.load d m
    let es ← r.loadAll d ms
    return e :: es

/-- One page of the entities that match a query. -/
def search (r : Repository) (d : Depot) (query : Option Query) (pageable : Option Pageable) :
    Action (Page Entity) := do
  let pageable ← match pageable with
    | some p => pure p
    | none => Action.ofExcept (Pageable.make 0 r.defaultPageSize [])
  let page ← d.searchFiles (.str r.index) query (some pageable)
  let entities ← r.loadAll d page.content
  return ⟨entities, page.pageable, page.totalElements⟩

/-- The refusal of an operation that no repository has. -/
def refuse (operation : UnsupportedOperation) : Failure :=
  .error (.unsupported (.str operation.label))

end Repository

end ContentDepot
