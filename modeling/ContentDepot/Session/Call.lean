import ContentDepot.Installation

/-!
# Calls

The operations of a content store, an index, a depot and a repository as data,
so that a run of calls is a list.

* `ContentCall`, `IndexCall`, `DepotCall`, `RepositoryCall`, `Call`.
* `Outcome`: what a call gives.
* `Call.perform`: carrying a call out.
-/

namespace ContentDepot

/-- A call on a content store. -/
inductive ContentCall where
  | store (content : Option Bytes)
  | fetch (hash : Json)
  | healthy

/-- A call on a metadata index. -/
inductive IndexCall where
  | write (index id hash contentType : Json) (fields : Option (List IndexField))
  | lookUp (index id : Json)
  | search (index : Json) (query : Option Query) (pageable : Option Pageable)
  | count (index : Json) (query : Option Query)
  | createIndex (index : Json)
  | healthy

/-- A call on a depot. -/
inductive DepotCall where
  | storeFile (content : Option Bytes)
  | indexFile (request : Option IndexRequest)
  | storeAndIndexFile (content : Option Bytes) (request : Option IndexRequest)
  | fileByHash (hash : Json)
  | metadataById (index id : Json)
  | metadataByHash (index hash : Json)
  | searchFiles (index : Json) (query : Option Query) (pageable : Option Pageable)
  | createIndex (index : Json)

/-- A call on a repository. -/
inductive RepositoryCall where
  | save (entity : Entity) (external : Json)
  | find (id : Json)
  | has (id : Json)
  | search (query : Option Query) (pageable : Option Pageable)
  | unsupported (operation : UnsupportedOperation)

/-- A call on a part of an installation, or closing its connections. -/
inductive Call where
  | close
  | content (c : ContentCall)
  | index (c : IndexCall)
  | depot (c : DepotCall)
  | repository (r : Repository) (c : RepositoryCall)

/-- What a call gives. -/
inductive Outcome where
  | nothing
  | flag (b : Bool)
  | number (n : Int)
  | value (v : Json)
  | content (bytes : Bytes)
  | metadata (m : Metadata)
  | records (ms : List Metadata)
  | receipt (r : Receipt)
  | page (p : Page Metadata)
  | entity (e : Option Entity)
  | entities (p : Page Entity)
  | saved (e : Entity) (failure : Option Failure)
  | failed (f : Failure)

namespace Outcome

variable {α : Type}

/-- The outcome of an action. -/
def ofAction (give : α → Outcome) (action : Action α) : Exchange Outcome := do
  match ← action.run with
  | .ok a => return give a
  | .error f => return failed f

end Outcome

/-- Carries a call on a content store out. -/
def ContentCall.perform (contents : ContentStore) : ContentCall → Exchange Outcome
  | store content => Outcome.ofAction .value (contents.store content)
  | fetch hash => Outcome.ofAction .content (contents.fetch hash)
  | healthy => Outcome.ofAction .flag contents.healthy

/-- Carries a call on a metadata index out. -/
def IndexCall.perform (i : MetadataIndex) : IndexCall → Exchange Outcome
  | write index id hash contentType fields =>
    Outcome.ofAction .value (i.write index id hash contentType fields)
  | lookUp index id => Outcome.ofAction .metadata (i.lookUp index id)
  | search index query pageable => Outcome.ofAction .records (i.search pageable index query)
  | count index query => Outcome.ofAction .number (i.count index query)
  | createIndex index => Outcome.ofAction (fun _ => .nothing) (i.createIndex index)
  | healthy => Outcome.ofAction .flag i.healthy

/-- Carries a call on a depot out. -/
def DepotCall.perform (d : Depot) : DepotCall → Exchange Outcome
  | storeFile content => Outcome.ofAction .value (d.storeFile content)
  | indexFile request => Outcome.ofAction .receipt (d.indexFile request)
  | storeAndIndexFile content request =>
    Outcome.ofAction .receipt (d.storeAndIndexFile content request)
  | fileByHash hash => Outcome.ofAction .content (d.fileByHash hash)
  | metadataById index id => Outcome.ofAction .metadata (d.metadataById index id)
  | metadataByHash index hash => Outcome.ofAction .metadata (d.metadataByHash index hash)
  | searchFiles index query pageable =>
    Outcome.ofAction .page (d.searchFiles index query pageable)
  | createIndex index => Outcome.ofAction (fun _ => .nothing) (d.createIndex index)

/-- Carries a call on a repository out. -/
def RepositoryCall.perform (r : Repository) (d : Depot) : RepositoryCall → Exchange Outcome
  | save entity external => do
    let (entity, failure) ← r.save d entity external
    return .saved entity failure
  | find id => Outcome.ofAction .entity (r.find? d id)
  | has id => Outcome.ofAction .flag (r.has d id)
  | search query pageable => Outcome.ofAction .entities (r.search d query pageable)
  | unsupported operation => return .failed (Repository.refuse operation)

/-- Carries a call out. -/
def Call.perform (i : Installation) : Call → Exchange Outcome
  | close => do
    closeAll
    return .nothing
  | content c => c.perform i.contents
  | index c => c.perform i.index
  | depot c => c.perform i.depot
  | repository r c => c.perform r i.depot

end ContentDepot
