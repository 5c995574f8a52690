import ContentDepot.Index.Hit
import ContentDepot.Search.Placement
import ContentDepot.Text.Percent

/-!
# The metadata index

The metadata of contents are documents of a remote search engine. A write
creates the index with its mapping where it is not known to carry one, asks
whether the document is there, and then creates or updates it and makes the
change visible. Index names are lowered.

* `MetadataIndex`: what a metadata index can do.
* `MetadataIndex.remote`: the index behind the search engine.
* `MetadataIndex.failing`: an index every operation of which fails.
-/

namespace ContentDepot

/-- What a metadata index can do. -/
structure MetadataIndex where
  /-- Writes the metadata of a content and gives the identifier of the document. -/
  write : (index id hash contentType : Json) → Option (List IndexField) → Action Json
  /-- The metadata under an identifier. -/
  lookUp : (index id : Json) → Action Metadata
  /-- The metadata that match a query, for one page. -/
  search : Option Pageable → (index : Json) → Option Query → Action (List Metadata)
  /-- How many metadata match a query. -/
  count : (index : Json) → Option Query → Action Int
  /-- Creates an index unless it is there. -/
  createIndex : (index : Json) → Action Unit
  /-- Whether the engine is in a usable state. -/
  healthy : Action Bool

namespace MetadataIndex

open Search

/-- The kind of search that is asked for. -/
def searchQuery : List (String × String) := [("search_type", "dfs_query_then_fetch")]

/-- The mapping of a new index: the reserved keys are matched as a whole. -/
def reservedKeysMapping : Json :=
  let keyword := Json.obj [("type", .str "keyword")]
  .obj [("mappings", .obj [("properties", .obj [(hashKey, keyword), (contentTypeKey, keyword)])])]

/-- An identifier as a single path segment. -/
def segment (id : Json) : String := Text.Percent.segment id.text

/-- The path of an index. -/
def indexPath (index : String) : String := "/" ++ index

/-- The path of a document. -/
def documentPath (index : String) (id : Json) : String := "/" ++ index ++ "/_doc/" ++ segment id

/-- The path under which a document that is there is updated. -/
def updatePath (index : String) (id : Json) : String := "/" ++ index ++ "/_update/" ++ segment id

/-- An index name in lower case; only a text has one. -/
def lowered : Json → Action String
  | .str s => pure (Text.lower s)
  | _ => throw (.fault .noSuchMember)

/-- The document of a write: the reserved keys, then the fields over them. -/
def document (fill : Bool) (hash contentType : Json) (fields : Option (List IndexField)) :
    Entries Json :=
  Entries.putAll [(hashKey, hash), (contentTypeKey, contentType)]
    (((fields.getD []).map fun f => (f.name, fillAbsent fill f.value)))

/-- Whether the engine refused to create an index because it is there. -/
def alreadyExists (r : Response) : Except Cause Bool :=
  if r.status = 400 then
    (errorType r).map fun t => t == .str "resource_already_exists_exception"
  else .ok false

/-- Creates an index with its mapping unless it is there; an index that is known to
carry the mapping is not asked for if `trust` holds. -/
def createIfMissing (e : Endpoint) (index : String) (trust : Bool) : Attempt Unit := do
  let c ← (Exchange.context : Exchange Context)
  if trust && c.mapped.contains index then return ()
  let r ← e.call .head (indexPath index) [] .empty
  if r.status = 200 then
    Exchange.modify (·.markMapped index)
  else
    let r ← e.call .put (indexPath index) [] (.json reservedKeysMapping)
    if ← Attempt.ofRead (alreadyExists r) then pure ()
    else
      check r
      Exchange.emit .info "created_elasticsearch_index"
    Exchange.modify (·.markMapped index)

/-- Whether a document is there; without an identifier there is none. -/
def documentExists (e : Endpoint) (index : String) (id : Json) : Attempt Bool := do
  if !id.truthy then return false
  let r ← e.call .get (documentPath index id)
    [("realtime", "true"), ("refresh", "true"), ("_source", "false")] .empty
  if r.status = 404 then return false
  check r
  let answer ← Attempt.ofRead r.json
  let found ← Attempt.ofRead (answer.memberOrFault "found")
  return (found.getD .null).truthy

/-- The one request that writes a document: an update of a document that is there, and a
creation otherwise. -/
def writeDocument (e : Endpoint) (index : String) (id : Json) (isThere : Bool)
    (source : Entries Json) : Attempt Response :=
  if isThere then
    e.call .post (updatePath index id) [] (.json (.obj [("doc", .obj source)]))
  else if id.truthy then e.call .put (documentPath index id) [] (.json (.obj source))
  else e.call .post ("/" ++ index ++ "/_doc") [] (.json (.obj source))

/-- The talk in which a document is written, unless one of its values has no written form. -/
def writing (e : Endpoint) (index : String) (id : Json) (source : Entries Json)
    (writable : Bool) : Attempt Json := do
  createIfMissing e index true
  let isThere ← documentExists e index id
  if !writable then Attempt.fault .wrongType
  let r ← writeDocument e index id isThere source
  check r
  let answer ← Attempt.ofRead r.json
  let written ← Attempt.ofRead (answer.itemAt "_id")
  check (← e.call .post ("/" ++ index ++ "/_refresh") [] .empty)
  return written

/-- Fails for a trouble in the talk, with an event. -/
def fail {α : Type} (activity : Activity) (name : String) (t : Trouble) : Action α := do
  Exchange.emit .error name
  match t with
  | .status code detail => Action.refuse (.engineStatus code detail)
  | .cause c => Action.refuse (.failed activity c)
  | .absent => Action.refuse (.failed activity (.fault .badValue))

/-- Writes the metadata of a content. -/
def remoteWrite (s : Settings) (index id hash contentType : Json)
    (fields : Option (List IndexField)) : Action Json := do
  Action.require index "index_name"
  Action.require hash "hash"
  let name ← lowered index
  let source := document s.fillAbsent hash contentType fields
  let writable := (fields.getD []).all (·.writable)
  let e ← connected s .engine
  (writing e name id source writable).guarded (fail .indexingDocument "index_document_failed")

/-- The talk in which a document is looked up. -/
def lookingUp (e : Endpoint) (index : String) (id : Json) : Attempt Metadata := do
  let r ← e.call .get (documentPath index id) [] .empty
  if r.status = 404 then throw .absent
  check r
  let answer ← Attempt.ofRead r.json
  let found ← Attempt.ofRead (answer.memberOrFault "found")
  if !(found.getD .null).truthy then throw .absent
  Attempt.ofRead (readHit answer)

/-- Looks metadata up by their identifier. -/
def remoteLookUp (s : Settings) (index id : Json) : Action Metadata := do
  Action.require index "index_name"
  Action.require id "id"
  let name ← lowered index
  let e ← connected s .engine
  (lookingUp e name id).guarded fun
    | .absent => do
      Exchange.emit .warning "document_not_found"
      Action.refuse (.noDocument name id)
    | t => fail .lookingUp "search_by_id_failed" t

/-- The talk in which one page of hits is asked for. -/
def searching (e : Endpoint) (fill : Bool) (index : String) (query : Option Query)
    (pageable : Pageable) : Attempt (List Metadata) := do
  Exchange.emitAll (reportsOf fill query)
  let r ← e.call .post ("/" ++ index ++ "/_search") searchQuery
    (.json (searchBody fill query pageable))
  check r
  let answer ← Attempt.ofRead r.json
  Attempt.ofRead (hitsOf answer)

/-- Searches for one page of metadata. -/
def remoteSearch (s : Settings) (pageable : Option Pageable) (index : Json)
    (query : Option Query) : Action (List Metadata) := do
  match pageable with
  | none => Action.refuse (.emptyParameter "pageable")
  | some pageable =>
    Action.require index "index_name"
    let name ← lowered index
    let e ← connected s .engine
    (searching e s.fillAbsent name query pageable).guarded
      (fail .searching "search_documents_failed")

/-- The talk in which the number of matches is asked for. -/
def counting (e : Endpoint) (fill : Bool) (index : String) (query : Option Query) :
    Attempt Int := do
  Exchange.emitAll (reportsOf fill query)
  let r ← e.call .post ("/" ++ index ++ "/_search") searchQuery (.json (countBody fill query))
  check r
  let answer ← Attempt.ofRead r.json
  Attempt.ofRead (totalOf answer)

/-- Counts the metadata that match a query. -/
def remoteCount (s : Settings) (index : Json) (query : Option Query) : Action Int := do
  Action.require index "index_name"
  let name ← lowered index
  let e ← connected s .engine
  (counting e s.fillAbsent name query).guarded (fail .counting "count_documents_failed")

/-- Creates an index unless it is there. -/
def remoteCreateIndex (s : Settings) (index : Json) : Action Unit := do
  Action.require index "index_name"
  let name ← lowered index
  let e ← connected s .engine
  (createIfMissing e name false).guarded (fail .creatingIndex "create_index_failed")

/-- Asks for the state of the engine; green and yellow are usable. -/
def remoteHealthy (s : Settings) : Action Bool := do
  let e ← connected s .engine
  let healthy : Attempt Bool := do
    let r ← e.call .get "/_cluster/health" [] .empty
    if r.status ≠ 200 then return false
    let answer ← Attempt.ofRead r.json
    let state ← Attempt.ofRead (answer.memberOrFault "status")
    return state == some (.str "green") || state == some (.str "yellow")
  healthy.guarded fun _ => do
    Exchange.emit .error "elasticsearch_health_check_failed"
    return false

/-- The index behind the search engine. -/
def remote (s : Settings) : MetadataIndex where
  write := remoteWrite s
  lookUp := remoteLookUp s
  search := remoteSearch s
  count := remoteCount s
  createIndex := remoteCreateIndex s
  healthy := remoteHealthy s

/-- An index that fails in one way. -/
def failing (f : Failure) : MetadataIndex where
  write _ _ _ _ _ := throw f
  lookUp _ _ := throw f
  search _ _ _ := throw f
  count _ _ := throw f
  createIndex _ := throw f
  healthy := throw f

end MetadataIndex

end ContentDepot
