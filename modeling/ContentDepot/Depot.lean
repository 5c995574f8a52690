import ContentDepot.Content.Store
import ContentDepot.Index.Metadata
import ContentDepot.Paging.Page

/-!
# The depot

Contents in a content store and their metadata in an index, joined. There is no
transaction across the two: storing comes first and indexing second, and where
indexing fails the stored content stays, which is reported. A search and the
count that goes with it are two requests.

* `Depot`: the two parts.
* `storeFile`, `indexFile`, `storeAndIndexFile`: writing.
* `fileByHash`, `metadataById`, `metadataByHash`, `searchFiles`: reading.
-/

namespace ContentDepot

/-- A content store and a metadata index. -/
structure Depot where
  contents : ContentStore
  index : MetadataIndex

namespace Depot

variable {α : Type}

/-- The depot over the remote backends that settings name. -/
def remote (s : Settings) : Depot := ⟨.remote s, .remote s⟩

/-- An action whose failures that are no errors of the depot become failures of an activity. -/
def shielded (activity : Activity) (name : String) (action : Action α) : Action α :=
  ExceptT.mk do
    match ← action.run with
    | .ok a => pure (.ok a)
    | .error (.error e) => pure (.error (.error e))
    | .error (.fault f) => do
      Exchange.emit .error name
      pure (.error (.error (.failed activity (.fault f))))
    | .error (.invalid _) => do
      Exchange.emit .error name
      pure (.error (.error (.failed activity (.fault .invalidRecord))))

/-- Stores a content and gives its hash. -/
def storeFile (d : Depot) (content : Option Bytes) : Action Json :=
  shielded .storingFile "store_file_failed" (d.contents.store content)

/-- Indexes a content under a hash. -/
def indexUnder (d : Depot) (request : IndexRequest) (hash : Json) : Action Receipt := do
  Action.require (.str request.index) "index_name"
  Action.require hash "hash"
  let id ← shielded .indexingFile "index_file_failed"
    (d.index.write (.str request.index) (.ofOption request.id) hash
      (.ofOption request.contentType) (some request.resolvedFields))
  Action.ofChecked (Receipt.ofParts (.str (Text.lower request.index)) id hash)

/-- Indexes a content that is already stored. -/
def indexFile (d : Depot) (request : Option IndexRequest) : Action Receipt :=
  match request with
  | none => Action.refuse (.emptyParameter "request")
  | some r => d.indexUnder r (.ofOption r.hash)

/-- What is reported of content whose indexing failed. -/
def orphanFields (request : IndexRequest) (hash : Json) : Entries Json :=
  [("hash", hash), ("index", .str request.index), ("document_id", .ofOption request.id)]

/-- Passes an action on, and reports content that its failure leaves without a document. -/
def reportingOrphan (request : IndexRequest) (hash : Json) (action : Action α) : Action α :=
  ExceptT.mk do
    match ← action.run with
    | .error (.error e) => do
      Exchange.emitWith .error "orphaned_content" (orphanFields request hash)
      pure (.error (.error e))
    | result => pure result

/-- Stores a content and indexes it under its hash. -/
def storeAndIndexFile (d : Depot) (content : Option Bytes) (request : Option IndexRequest) :
    Action Receipt :=
  match request with
  | none => Action.refuse (.emptyParameter "request")
  | some r => do
    Action.require (.str r.index) "index_name"
    let hash ← d.storeFile content
    reportingOrphan r hash (d.indexUnder r hash)

/-- The content with a hash. -/
def fileByHash (d : Depot) (hash : Json) : Action Bytes := do
  Action.require hash "hash"
  shielded .fetchingFile "get_file_by_hash_failed" (d.contents.fetch hash)

/-- The metadata under an identifier. -/
def metadataById (d : Depot) (index id : Json) : Action Metadata := do
  Action.require index "index"
  Action.require id "id"
  d.index.lookUp index id

/-- The request for the first result alone. -/
def firstResult : Pageable := ⟨0, 1, [], by decide, by decide⟩

/-- The metadata of the first document with a hash. -/
def metadataByHash (d : Depot) (index hash : Json) : Action Metadata := do
  Action.require index "index"
  Action.require hash "hash"
  match ← d.index.search (some firstResult) index (some (.single .equals Search.hashKey hash)) with
  | [] => do
    Exchange.emit .warning "metadata_not_found"
    Action.refuse (.noFileWithHash index hash)
  | m :: _ => return m

/-- One page of the metadata that match a query, with the number of all matches. -/
def searchFiles (d : Depot) (index : Json) (query : Option Query) (pageable : Option Pageable) :
    Action (Page Metadata) := do
  Action.require index "index"
  match pageable with
  | none => Action.refuse (.emptyParameter "pageable")
  | some p => do
    let content ← d.index.search (some p) index query
    let total ← d.index.count index query
    return ⟨content, p, total⟩

/-- Creates an index unless it is there. -/
def createIndex (d : Depot) (index : Json) : Action Unit := do
  Action.require index "index"
  d.index.createIndex index

end Depot

end ContentDepot
