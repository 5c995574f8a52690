import ContentDepot.Api.Service
import ContentDepot.Proofs.Search.Accounting
import ContentDepot.Proofs.Session.Orderly
import ContentDepot.Session.Call

/-!
# Every operation is orderly

The operations of an installation are made of orderly steps. The errors with which they
fail say nothing of their circumstances under a name that the log of the service has for
itself (`StoreError.IsPlain`), unless an error is declared from outside.

* `ContentStore.IsOrderly`, `MetadataIndex.IsOrderly`, `Depot.IsOrderly`: parts whose
  operations are orderly, and what is put together of them;
* `Installation.isOrderly_remote`, `Installation.isOrderly_failing`: the installations
  that there are;
* `Call.orderly`: every call on one.
-/

namespace ContentDepot

open Exchange (IsOrderly)

variable {α : Type}

/-! ## Failures -/

/-- An error that says of its circumstances nothing under a name of the log's own. -/
def StoreError.IsPlain (e : StoreError) : Prop :=
  ∀ p ∈ e.context, p.1 ∉ Context.requestIdKey :: Api.Service.ownKeys

/-- A failure that is a plain error, or no error of the depot. -/
def Failure.IsPlain : Failure → Prop
  | .error e => e.IsPlain
  | _ => True

/-- A property of failures that all plain ones have. -/
class Failure.IsBroad (fails : Failure → Prop) : Prop where
  of_plain : ∀ f : Failure, f.IsPlain → fails f

instance : Failure.IsBroad Failure.IsPlain := ⟨fun _ h => h⟩

instance : Failure.IsBroad fun _ => True := ⟨fun _ _ => trivial⟩

/-- Whether an error is one of the depot's own, and not declared from outside. -/
def StoreError.isOwn : StoreError → Bool
  | .declared .. => false
  | _ => true

/-- The depot's own errors are plain. -/
theorem StoreError.isPlain {e : StoreError} (h : e.isOwn = true) : e.IsPlain := by
  have hfree : ∀ name ∈ ["parameter", "fields", "index", "id", "hash", "status", "operation"],
      name ∉ Context.requestIdKey :: Api.Service.ownKeys := by decide
  have hnames : ∀ p ∈ e.context,
      p.1 ∈ ["parameter", "fields", "index", "id", "hash", "status", "operation"] := by
    cases e with
    | declared cls message entries => cases h
    | _ => simp [context]
  exact fun p hp => hfree p.1 (hnames p hp)

/-- The error of a page request that is out of bounds. -/
theorem Pageable.isPlain_of_make {page size : Int} {sort : List SortKey} {e : StoreError}
    (h : Pageable.make page size sort = .error e) : e.IsPlain := by
  unfold Pageable.make at h
  split at h
  · split at h
    · cases h
    · cases h
      exact StoreError.isPlain rfl
  · cases h
    exact StoreError.isPlain rfl

/-! ## The parts -/

/-- A content store whose operations are orderly. -/
structure ContentStore.IsOrderly (fails : Failure → Prop) (contents : ContentStore) : Prop where
  store : ∀ content, Orderly fails (contents.store content)
  fetch : ∀ hash, Orderly fails (contents.fetch hash)
  healthy : Orderly fails contents.healthy

/-- A metadata index whose operations are orderly. -/
structure MetadataIndex.IsOrderly (fails : Failure → Prop) (i : MetadataIndex) : Prop where
  write : ∀ index id hash contentType fields,
    Orderly fails (i.write index id hash contentType fields)
  lookUp : ∀ index id, Orderly fails (i.lookUp index id)
  search : ∀ pageable index query, Orderly fails (i.search pageable index query)
  count : ∀ index query, Orderly fails (i.count index query)
  createIndex : ∀ index, Orderly fails (i.createIndex index)
  healthy : Orderly fails i.healthy

/-- A depot of orderly parts. -/
structure Depot.IsOrderly (fails : Failure → Prop) (d : Depot) : Prop where
  contents : d.contents.IsOrderly fails
  index : d.index.IsOrderly fails

/-- An installation of orderly parts. -/
structure Installation.IsOrderly (fails : Failure → Prop) (i : Installation) : Prop where
  contents : i.contents.IsOrderly fails
  index : i.index.IsOrderly fails
  depot : i.depot.IsOrderly fails

variable {fails : Failure → Prop}

theorem ContentStore.isOrderly_failing {f : Failure} (hf : fails f) (hash : Option Json) :
    (failing f hash).IsOrderly fails where
  store _ := by
    cases hash with
    | none => exact .throw hf
    | some h => exact .pure h
  fetch _ := .throw hf
  healthy := .throw hf

theorem MetadataIndex.isOrderly_failing {f : Failure} (hf : fails f) :
    (failing f).IsOrderly fails where
  write _ _ _ _ _ := .throw hf
  lookUp _ _ := .throw hf
  search _ _ _ := .throw hf
  count _ _ := .throw hf
  createIndex _ := .throw hf
  healthy := .throw hf

/-! ## Rules -/

namespace Orderly

theorem reportingOrphan {r : IndexRequest} {hash : Json} {action : Action α}
    (h : Orderly fails action) :
    Orderly fails (Depot.reportingOrphan r hash action) := by
  have hplain : Event.IsPlain ⟨.error, "orphaned_content", Depot.orphanFields r hash⟩ := by
    simp [Event.IsPlain, Depot.orphanFields, Context.requestIdKey]
  refine made h (fun a => pure a) fun f hf => ?_
  rcases f with e | issues | fault
  · exact bind (lift (.emitWith hplain)) fun _ => throw hf
  · exact throw hf
  · exact throw hf

variable [Failure.IsBroad fails]

theorem throw_plain {f : Failure} (h : f.IsPlain) :
    Orderly fails (MonadExcept.throw f : Action α) := throw (Failure.IsBroad.of_plain f h)

theorem refuse {e : StoreError} (h : e.isOwn = true) :
    Orderly fails (Action.refuse e : Action α) :=
  throw_plain (show e.IsPlain from StoreError.isPlain h)

theorem fault (f : Fault) : Orderly fails (MonadExcept.throw (.fault f) : Action α) :=
  throw_plain trivial

theorem ofExcept {result : Except StoreError α} (h : ∀ e, result = .error e → e.IsPlain) :
    Orderly fails (Action.ofExcept result) := by
  cases result with
  | ok a => exact pure a
  | error e => exact throw_plain (h e rfl)

theorem require (v : Json) (name : String) : Orderly fails (Action.require v name) := by
  refine ofExcept fun e he => ?_
  unfold ContentDepot.require at he
  split at he <;> cases he
  exact StoreError.isPlain rfl

theorem ofChecked (result : Checked α) : Orderly fails (Action.ofChecked result) := by
  cases result with
  | ok a => exact pure a
  | error issues => exact throw_plain trivial

theorem shielded {activity : Activity} {name : String} {action : Action α}
    (h : Orderly fails action) :
    Orderly fails (Depot.shielded activity name action) := by
  refine made h (fun a => pure a) fun f hf => ?_
  have hlogged : ∀ cause, Orderly fails (ExceptT.mk do
      Exchange.emit .error name
      Pure.pure (.error (.error (.failed activity cause))) : Action α) := fun cause =>
    bind (emit .error name) fun _ => refuse rfl
  rcases f with e | issues | fault
  · exact throw hf
  · exact hlogged _
  · exact hlogged _

theorem connected (s : Settings) (b : Backend) : Orderly fails (ContentDepot.connected s b) := by
  refine ⟨?_⟩
  rw [← Exchange.andThen_done (ContentDepot.connected s b).run]
  refine .connect (.done fun f hf => ?_)
  unfold Settings.endpointOf at hf
  split at hf <;> cases hf
  exact Failure.IsBroad.of_plain _ trivial

end Orderly

variable [Failure.IsBroad fails]

/-! ## The content store -/

namespace ContentStore

theorem orderly_failWith (activity : Activity) (name : String) (t : Trouble) :
    Orderly fails (failWith activity name t : Action α) :=
  .bind (.emit ..) fun _ => by cases t <;> exact .refuse rfl

theorem orderly_storing (e : Endpoint) (content : Bytes) :
    Orderly.Attempted (storing e content) := by
  refine .bind (.call ..) fun r => ?_
  split
  · exact .throw trivial
  · exact .bind (.ofRead _) fun _ => .ofRead _

theorem orderly_remoteFetch (s : Settings) (hash : Json) :
    Orderly fails (remoteFetch s hash) := by
  refine .bind (.require ..) fun _ => .bind (.connected s .content) fun e =>
    .bind (.guarded (.call ..) fun t => orderly_failWith ..) fun r => ?_
  have hrest : ∀ absent : Bool, Orderly fails (if absent = true then do
        Exchange.emit .warning "content_not_found"
        Action.refuse (.noContent hash)
      else if r.status ≠ 200 then do
        Exchange.emit .error "fetch_content_failed"
        Action.refuse (.contentStatus r.status hash)
      else Pure.pure r.body.toBytes : Action Bytes) := by
    intro absent
    split
    · exact .bind (.emit ..) fun _ => .refuse rfl
    split
    · exact .bind (.emit ..) fun _ => .refuse rfl
    · exact .pure _
  dsimp only
  split
  · exact .bind (.pure _) hrest
  split
  · split
    · exact .bind (.pure _) hrest
    · exact .bind (.fault _) hrest
  · exact .bind (.pure _) hrest

theorem isOrderly_remote (s : Settings) : (remote s).IsOrderly fails where
  store content := by
    cases content with
    | none => exact .refuse rfl
    | some bytes =>
      exact .bind (.connected s .content) fun e =>
        .guarded (orderly_storing e bytes) fun t => orderly_failWith ..
  fetch := orderly_remoteFetch s
  healthy :=
    .bind (.connected s .content) fun e =>
      .guarded (.bind (.call ..) fun r => .pure _) fun t => .bind (.emit ..) fun _ => .pure _

end ContentStore

/-! ## The metadata index -/

namespace MetadataIndex

theorem orderly_fail (activity : Activity) (name : String) (t : Trouble) :
    Orderly fails (fail activity name t : Action α) :=
  .bind (.emit ..) fun _ => by cases t <;> exact .refuse rfl

/-- The name of an index is lowered and the connection opened, and then comes what is modest. -/
theorem orderly_opened {s : Settings} {index : Json} {f : String → Endpoint → Action α}
    (h : ∀ name e, Orderly fails (f name e)) :
    Orderly fails (do
      let name ← lowered index
      let e ← ContentDepot.connected s .engine
      f name e) := by
  refine .bind ?_ fun name => .bind (.connected s .engine) (h name)
  cases index with
  | str t => exact .pure _
  | _ => exact .fault _

theorem orderly_createIfMissing (e : Endpoint) (name : String) (trust : Bool) :
    Orderly.Attempted (createIfMissing e name trust) := by
  refine .context_bind (fun c c' h => by rw [h]) fun c => ?_
  split
  · exact .pure _
  refine .bind (.call ..) fun r => ?_
  split
  · exact .markMapped name
  refine .bind (.call ..) fun r => .bind (.ofRead _) fun known => ?_
  cases known with
  | true => exact .markMapped name
  | false => exact .bind (.check r) fun _ => .bind (.emit ..) fun _ => .markMapped name

theorem orderly_documentExists (e : Endpoint) (name : String) (id : Json) :
    Orderly.Attempted (documentExists e name id) := by
  unfold documentExists
  split
  · exact .pure _
  refine .bind (.call ..) fun r => ?_
  split
  · exact .pure _
  · exact .bind (.check r) fun _ => .bind (.ofRead _) fun _ => .bind (.ofRead _) fun _ => .pure _

theorem orderly_writeDocument (e : Endpoint) (name : String) (id : Json) (isThere : Bool)
    (source : Entries Json) : Orderly.Attempted (writeDocument e name id isThere source) := by
  unfold writeDocument
  split
  · exact .call ..
  · split <;> exact .call ..

theorem orderly_writing (e : Endpoint) (name : String) (id : Json) (source : Entries Json)
    (writable : Bool) : Orderly.Attempted (writing e name id source writable) := by
  refine .bind (orderly_createIfMissing ..) fun _ =>
    .bind (orderly_documentExists ..) fun isThere => ?_
  have hrest : ∀ u : Unit, Orderly.Attempted (do
      let r ← writeDocument e name id isThere source
      Search.check r
      let answer ← Attempt.ofRead r.json
      let written ← Attempt.ofRead (answer.itemAt "_id")
      Search.check (← e.call .post ("/" ++ name ++ "/_refresh") [] .empty)
      return written) :=
    fun _ => .bind (orderly_writeDocument ..) fun r => .bind (.check r) fun _ =>
      .bind (.ofRead _) fun _ => .bind (.ofRead _) fun _ => .bind (.call ..) fun r =>
        .bind (.check r) fun _ => .pure _
  dsimp only
  split
  · exact .bind (.throw trivial) hrest
  · exact hrest ()

theorem orderly_lookingUp (e : Endpoint) (name : String) (id : Json) :
    Orderly.Attempted (lookingUp e name id) := by
  refine .bind (.call ..) fun r => ?_
  have hfound : ∀ found : Option Json, ∀ answer : Json, Orderly.Attempted (do
      if !(found.getD .null).truthy then MonadExcept.throw .absent
      Attempt.ofRead (Search.readHit answer) : Attempt Metadata) := by
    intro found answer
    split
    · exact .bind (.throw trivial) fun _ => .ofRead _
    · exact .ofRead _
  have hrest : ∀ u : Unit, Orderly.Attempted (do
      Search.check r
      let answer ← Attempt.ofRead r.json
      let found ← Attempt.ofRead (answer.memberOrFault "found")
      if !(found.getD .null).truthy then MonadExcept.throw .absent
      Attempt.ofRead (Search.readHit answer) : Attempt Metadata) :=
    fun _ => .bind (.check r) fun _ => .bind (.ofRead _) fun answer => .bind (.ofRead _)
      fun found => hfound found answer
  dsimp only
  split
  · exact .bind (.throw trivial) hrest
  · exact hrest ()

/-- What a request to search asks for, and what is read off the answer. -/
theorem orderly_asking {body : Json} {read : Json → Except Cause α} (e : Endpoint) (fill : Bool)
    (query : Option Query) (name : String) :
    Orderly.Attempted (do
      Exchange.emitAll (Search.reportsOf fill query)
      let r ← e.call .post ("/" ++ name ++ "/_search") searchQuery (.json body)
      Search.check r
      let answer ← Attempt.ofRead r.json
      Attempt.ofRead (read answer) : Attempt α) := by
  have hplain : ∀ event ∈ Search.reportsOf fill query, event.IsPlain := fun event hevent => by
    rw [Event.IsPlain, Search.fields_of_reportsOf fill query event hevent]
    exact fun _ h => by cases h
  exact .bind (.lift (.emitAll hplain)) fun _ => .bind (.call ..) fun r => .bind (.check r)
    fun _ => .bind (.ofRead _) fun _ => .ofRead _

theorem isOrderly_remote (s : Settings) : (remote s).IsOrderly fails where
  write index id hash contentType fields :=
    .bind (.require ..) fun _ => .bind (.require ..) fun _ => orderly_opened fun name e =>
      .guarded (orderly_writing ..) fun t => orderly_fail ..
  lookUp index id := by
    refine .bind (.require ..) fun _ => .bind (.require ..) fun _ =>
      orderly_opened fun name e => .guarded (orderly_lookingUp ..) fun t => ?_
    cases t with
    | absent => exact .bind (.emit ..) fun _ => .refuse rfl
    | _ => exact orderly_fail ..
  search pageable index query := by
    cases pageable with
    | none => exact .refuse rfl
    | some p =>
      exact .bind (.require ..) fun _ => orderly_opened fun name e =>
        .guarded (orderly_asking e _ query name) fun t => orderly_fail ..
  count index query := .bind (.require ..) fun _ => orderly_opened fun name e =>
    .guarded (orderly_asking e _ query name) fun t => orderly_fail ..
  createIndex index := .bind (.require ..) fun _ => orderly_opened fun name e =>
    .guarded (orderly_createIfMissing ..) fun t => orderly_fail ..
  healthy := by
    refine .bind (.connected s .engine) fun e => .guarded (.bind (.call ..) fun r => ?_)
      fun t => .bind (.emit ..) fun _ => .pure _
    split
    · exact .pure _
    · exact .bind (.ofRead _) fun _ => .bind (.ofRead _) fun _ => .pure _

end MetadataIndex

/-! ## Depots and repositories -/

namespace Depot

variable {d : Depot}

theorem IsOrderly.storeFile (hd : d.IsOrderly fails) (content : Option Bytes) :
    Orderly fails (d.storeFile content) := .shielded (hd.contents.store content)

theorem IsOrderly.indexUnder (hd : d.IsOrderly fails) (request : IndexRequest) (hash : Json) :
    Orderly fails (d.indexUnder request hash) :=
  .bind (.require ..) fun _ => .bind (.require ..) fun _ =>
    .bind (.shielded (hd.index.write ..)) fun _ => .ofChecked _

theorem IsOrderly.indexFile (hd : d.IsOrderly fails) (request : Option IndexRequest) :
    Orderly fails (d.indexFile request) := by
  cases request with
  | none => exact .refuse rfl
  | some r => exact hd.indexUnder r _

theorem IsOrderly.storeAndIndexFile (hd : d.IsOrderly fails) (content : Option Bytes)
    (request : Option IndexRequest) :
    Orderly fails (d.storeAndIndexFile content request) := by
  cases request with
  | none => exact .refuse rfl
  | some r =>
    exact .bind (.require ..) fun _ => .bind (hd.storeFile content) fun hash =>
      .reportingOrphan (hd.indexUnder r hash)

theorem IsOrderly.fileByHash (hd : d.IsOrderly fails) (hash : Json) :
    Orderly fails (d.fileByHash hash) :=
  .bind (.require ..) fun _ => .shielded (hd.contents.fetch hash)

theorem IsOrderly.metadataById (hd : d.IsOrderly fails) (index id : Json) :
    Orderly fails (d.metadataById index id) :=
  .bind (.require ..) fun _ => .bind (.require ..) fun _ => hd.index.lookUp index id

theorem IsOrderly.metadataByHash (hd : d.IsOrderly fails) (index hash : Json) :
    Orderly fails (d.metadataByHash index hash) := by
  refine .bind (.require ..) fun _ => .bind (.require ..) fun _ =>
    .bind (hd.index.search ..) fun ms => ?_
  cases ms with
  | nil => exact .bind (.emit ..) fun _ => .refuse rfl
  | cons m ms => exact .pure _

theorem IsOrderly.searchFiles (hd : d.IsOrderly fails) (index : Json) (query : Option Query)
    (pageable : Option Pageable) :
    Orderly fails (d.searchFiles index query pageable) := by
  refine .bind (.require ..) fun _ => ?_
  cases pageable with
  | none => exact .refuse rfl
  | some p =>
    exact .bind (hd.index.search ..) fun _ => .bind (hd.index.count ..) fun _ => .pure _

theorem IsOrderly.createIndex (hd : d.IsOrderly fails) (index : Json) :
    Orderly fails (d.createIndex index) :=
  .bind (.require ..) fun _ => hd.index.createIndex index

end Depot

namespace Repository

variable {d : Depot} (r : Repository)

theorem orderly_identified (e : Entity) : (r.identified e).IsOrderly fun _ => True := by
  unfold identified
  split
  · exact .bind .freshId fun _ _ => .done trivial
  · exact .done trivial

theorem orderly_save (hd : d.IsOrderly fails) (e : Entity) (external : Json) :
    (r.save d e external).IsOrderly fun _ => True := by
  refine .bind (r.orderly_identified e) fun e _ => ?_
  split
  · exact .done trivial
  · refine .bind (hd.storeAndIndexFile ..).run fun result _ => ?_
    cases result <;> exact .done trivial

theorem orderly_load (hd : d.IsOrderly fails) (m : Metadata) :
    Orderly fails (r.load d m) :=
  .bind (hd.fileByHash _) fun _ => .bind (.ofChecked _) fun _ => .pure _

theorem orderly_metadata? (hd : d.IsOrderly fails) (id : Json) :
    Orderly fails (r.metadata? d id) := by
  refine .made (hd.metadataById ..) (fun m => .pure _) fun f hf => ?_
  rcases f with e | issues | fault
  · dsimp only
    split
    · exact .pure _
    · exact .throw hf
  · exact .throw hf
  · exact .throw hf

theorem orderly_find? (hd : d.IsOrderly fails) (id : Json) : Orderly fails (r.find? d id) := by
  refine .bind (r.orderly_metadata? hd id) fun found => ?_
  cases found with
  | none => exact .pure _
  | some m => exact .bind (r.orderly_load hd m) fun _ => .pure _

theorem orderly_has (hd : d.IsOrderly fails) (id : Json) : Orderly fails (r.has d id) :=
  .bind (r.orderly_metadata? hd id) fun _ => .pure _

theorem orderly_loadAll (hd : d.IsOrderly fails) (ms : List Metadata) :
    Orderly fails (r.loadAll d ms) := by
  induction ms with
  | nil => exact .pure _
  | cons m ms ih => exact .bind (r.orderly_load hd m) fun _ => .bind ih fun _ => .pure _

theorem orderly_search (hd : d.IsOrderly fails) (query : Option Query) (pageable : Option Pageable) :
    Orderly fails (r.search d query pageable) := by
  have hrest : ∀ p : Pageable, Orderly fails (do
      let page ← d.searchFiles (.str r.index) query (some p)
      let entities ← r.loadAll d page.content
      return ⟨entities, page.pageable, page.totalElements⟩ : Action (Page Entity)) :=
    fun p => .bind (hd.searchFiles ..) fun page => .bind (r.orderly_loadAll hd _) fun _ => .pure _
  cases pageable with
  | none => exact .bind (.ofExcept fun _ => Pageable.isPlain_of_make) hrest
  | some p => exact .bind (.pure _) hrest

end Repository

/-! ## Installations and calls -/

namespace Installation

theorem isOrderly_remote (s : Settings) : (remote s).IsOrderly fails where
  contents := ContentStore.isOrderly_remote s
  index := MetadataIndex.isOrderly_remote s
  depot := ⟨ContentStore.isOrderly_remote s, MetadataIndex.isOrderly_remote s⟩

theorem isOrderly_failing (s : Settings) {f : Failure} (hf : fails f) (hash : Option Json) :
    (failing s f hash).IsOrderly fails where
  contents := ContentStore.isOrderly_remote s
  index := MetadataIndex.isOrderly_remote s
  depot := ⟨ContentStore.isOrderly_failing hf hash, MetadataIndex.isOrderly_failing hf⟩

/-- The installations that there are: behind the backends that settings name, or one whose depot
fails in a plain way. -/
inductive IsRegular : Installation → Prop
  | remote (s : Settings) : IsRegular (.remote s)
  | failing (s : Settings) {f : Failure} (hf : f.IsPlain) (hash : Option Json) :
    IsRegular (.failing s f hash)

theorem IsRegular.isOrderly {i : Installation} (h : i.IsRegular) :
    i.IsOrderly Failure.IsPlain := by
  cases h with
  | remote s => exact isOrderly_remote s
  | failing s hf hash => exact isOrderly_failing s hf hash

end Installation

omit [Failure.IsBroad fails] in
theorem orderly_ofAction {give : α → Outcome} {action : Action α} (h : Orderly fails action) :
    (Outcome.ofAction give action).IsOrderly fun _ => True :=
  h.run.bind fun result _ => by cases result <;> exact .done trivial

/-- Every call on an orderly installation is orderly. -/
theorem Call.orderly {i : Installation} (hi : i.IsOrderly fails) (c : Call) :
    (c.perform i).IsOrderly fun _ => True := by
  have hd := hi.depot
  cases c with
  | close =>
    exact .close (.record (fun _ h => by cases h) (.done trivial))
  | content c =>
    cases c with
    | store content => exact orderly_ofAction (hi.contents.store content)
    | fetch hash => exact orderly_ofAction (hi.contents.fetch hash)
    | healthy => exact orderly_ofAction hi.contents.healthy
  | index c =>
    cases c with
    | write index id hash contentType fields => exact orderly_ofAction (hi.index.write ..)
    | lookUp index id => exact orderly_ofAction (hi.index.lookUp ..)
    | search index query pageable => exact orderly_ofAction (hi.index.search ..)
    | count index query => exact orderly_ofAction (hi.index.count ..)
    | createIndex index => exact orderly_ofAction (hi.index.createIndex ..)
    | healthy => exact orderly_ofAction hi.index.healthy
  | depot c =>
    cases c with
    | storeFile content => exact orderly_ofAction (hd.storeFile content)
    | indexFile request => exact orderly_ofAction (hd.indexFile request)
    | storeAndIndexFile content request => exact orderly_ofAction (hd.storeAndIndexFile ..)
    | fileByHash hash => exact orderly_ofAction (hd.fileByHash hash)
    | metadataById index id => exact orderly_ofAction (hd.metadataById ..)
    | metadataByHash index hash => exact orderly_ofAction (hd.metadataByHash ..)
    | searchFiles index query pageable => exact orderly_ofAction (hd.searchFiles ..)
    | createIndex index => exact orderly_ofAction (hd.createIndex index)
  | repository r c =>
    cases c with
    | save entity external => exact .bind (r.orderly_save hd ..) fun _ _ => .done trivial
    | find id => exact orderly_ofAction (r.orderly_find? hd id)
    | has id => exact orderly_ofAction (r.orderly_has hd id)
    | search query pageable => exact orderly_ofAction (r.orderly_search hd ..)
    | unsupported operation => exact .done trivial

end ContentDepot
