import ContentDepot.Exchange.Message
import ContentDepot.InMemory.Sorting
import ContentDepot.Text.Percent

/-!
# A search engine in memory

A search engine that keeps its documents in memory and answers the requests of
a metadata index. It can be switched to answer every request with one status.

* `Engine`: its state.
* `Engine.answer`: the reply to a request and the state after it.
-/

namespace ContentDepot.InMemory

/-- The state of a search engine. -/
structure Engine where
  /-- The documents of each index under their identifiers. -/
  indices : Entries (Entries Document)
  mappings : Entries Json
  /-- The indices that were refreshed, in order. -/
  refreshes : List String
  /-- The status of every answer, if there is one. -/
  failing : Option Int
  /-- How many identifiers the engine has made. -/
  issued : Nat
  deriving Repr

namespace Engine

/-- An engine without an index. -/
def initial : Engine := ⟨[], [], [], none, 0⟩

/-- A response with a value as its body. -/
def respond (status : Int) (body : Json) : Reply := .response ⟨status, .json body⟩

/-- A response that names an error. -/
def respondError (status : Int) (type : String) : Reply :=
  respond status (.obj [("error", .obj [("type", .str type)]), ("status", .int status)])

/-- The segments of a path, read from their escapes. -/
def segments (path : String) : List String :=
  ((path.toList.splitOn '/').filter (!·.isEmpty)).map fun cs =>
    Text.Percent.decode (String.ofList cs)

/-- The value that a request carries. -/
def payloadOf (r : Request) : Json :=
  match r.payload with
  | .json v => v
  | _ => .null

/-- The documents of an index; an unknown index has none. -/
def documents (e : Engine) (index : String) : Entries Document :=
  (Entries.get? e.indices index).getD []

/-- The engine with a document in an index. -/
def putDocument (e : Engine) (index id : String) (d : Document) : Engine :=
  { e with indices := Entries.put e.indices index (Entries.put (e.documents index) id d) }

/-- The fields that the mapping of an index knows as keywords. -/
def keywordFields (e : Engine) (index : String) : List String :=
  match ((Entries.get? e.mappings index).bind (·.member? "properties")) with
  | some (.obj properties) =>
    (properties.filter fun p => p.2.member? "type" == some (.str "keyword")).map Prod.fst
  | _ => []

/-- What is done with an index as a whole. -/
def answerIndex (e : Engine) (r : Request) (index : String) : Reply × Engine :=
  match r.verb with
  | .head => (.response ⟨if Entries.has e.indices index then 200 else 404, .empty⟩, e)
  | .put =>
    if Entries.has e.indices index then
      (respondError 400 "resource_already_exists_exception", e)
    else
      let mapping := ((payloadOf r).member? "mappings").getD (.obj [])
      (respond 200 (.obj [("acknowledged", .bool true), ("index", .str index)]),
        { e with indices := Entries.put e.indices index []
                 mappings := Entries.put e.mappings index mapping })
  | _ => (.fault .noSuchItem, e)

/-- The answer to a request for a document. -/
def getDocument (e : Engine) (index id : String) : Reply :=
  match Entries.get? e.indices index with
  | none => respondError 404 "index_not_found_exception"
  | some ds =>
    let place := [("_index", Json.str index), ("_id", .str id)]
    match Entries.get? ds id with
    | none => respond 404 (.obj (place ++ [("found", .bool false)]))
    | some d => respond 200 (.obj (place ++ [("found", .bool true), ("_source", .obj d)]))

/-- Writes a whole document, under an identifier of the engine's if none is given. -/
def writeDocument (e : Engine) (r : Request) (index : String) (id : Option String) :
    Reply × Engine :=
  match payloadOf r with
  | .obj d =>
    let (id, e) := match id with
      | some id => (id, e)
      | none => ("auto" ++ toString (e.issued + 1), { e with issued := e.issued + 1 })
    let known := Entries.has (e.documents index) id
    let result := if known then "updated" else "created"
    (respond (if known then 200 else 201)
      (.obj [("_index", .str index), ("_id", .str id), ("result", .str result)]),
      e.putDocument index id d)
  | _ => (.fault .wrongType, e)

/-- Puts fields over those of a document that is there. -/
def updateDocument (e : Engine) (r : Request) (index id : String) : Reply × Engine :=
  match Entries.get? (e.documents index) id, (payloadOf r).member? "doc" with
  | none, _ => (respondError 404 "document_missing_exception", e)
  | some d, some (.obj update) =>
    (respond 200 (.obj [("_index", .str index), ("_id", .str id), ("result", .str "updated")]),
      e.putDocument index id (Entries.putAll d update))
  | some _, _ => (.fault .wrongType, e)

/-- The sort keys of a search body. -/
def keysOf (body : Json) : List Key :=
  match body.member? "sort" with
  | some (.arr items) => items.filterMap fun item => match item with
    | .obj [(field, options)] =>
      some ⟨field, options.member? "order" == some (.str "desc")⟩
    | _ => none
  | _ => []

/-- A number of a search body. -/
def numberOf (body : Json) (key : String) (default : Nat) : Nat :=
  match body.member? key with
  | some (.int n) => n.toNat
  | _ => default

/-- A document as a hit. -/
def hitOf (index : String) (d : String × Document) : Json :=
  .obj [("_index", .str index), ("_id", .str d.1), ("_score", .float (.ofInt 1)),
    ("_source", .obj d.2)]

/-- The matching documents of a search, in the order that is asked for. -/
def matching (e : Engine) (index : String) (body : Json) :
    Except Fault (List (String × Document)) := do
  match (body.member? "query").bind Search.Predicate.ofJson? with
  | none => throw .badValue
  | some p => sortBy (keysOf body) (← select (e.keywordFields index) p (e.documents index))

/-- The answer to a search. -/
def searchDocuments (e : Engine) (index : String) (body : Json) : Reply :=
  if !Entries.has e.indices index then respondError 404 "index_not_found_exception"
  else match e.matching index body with
    | .error f => .fault f
    | .ok ds =>
      let page := (ds.drop (numberOf body "from" 0)).take (numberOf body "size" 10)
      respond 200 (.obj [("hits", .obj [
        ("total", .obj [("value", .int ds.length), ("relation", .str "eq")]),
        ("hits", .arr (page.map (hitOf index)))])])

/-- The answer to a request that the engine does not know. -/
def unsupported : Reply :=
  respond 400 (.obj [("error", .obj [("type", .str "unsupported_emulated_request")])])

/-- What is done within an index. -/
def answerWithin (e : Engine) (r : Request) (index action : String) (rest : List String) :
    Reply × Engine :=
  if action = "_refresh" then
    (respond 200 (.obj [("_shards", .obj [("failed", .int 0)])]),
      { e with refreshes := e.refreshes ++ [index] })
  else if action = "_doc" then
    match r.verb, rest with
    | .get, id :: _ => (e.getDocument index id, e)
    | .put, rest | .post, rest => e.writeDocument r index rest.head?
    | .get, [] => (.fault .noSuchItem, e)
    | .head, _ => (unsupported, e)
  else if action = "_update" then
    match rest with
    | id :: _ => e.updateDocument r index id
    | [] => (.fault .noSuchItem, e)
  else if action = "_search" then (e.searchDocuments index (payloadOf r), e)
  else (unsupported, e)

/-- The reply to a request and the state after it. -/
def answer (e : Engine) (r : Request) : Reply × Engine :=
  match e.failing with
  | some status =>
    (respond status (.obj [("error", .obj [("type", .str "emulated_exception")]),
      ("status", .int status)]), e)
  | none => match segments r.path with
    | ["_cluster", "health"] => (respond 200 (.obj [("status", .str "green")]), e)
    | [index] => e.answerIndex r index
    | index :: action :: rest => e.answerWithin r index action rest
    | [] => (.fault .noSuchItem, e)

end Engine

end ContentDepot.InMemory
