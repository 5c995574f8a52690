import ContentDepot.Proofs.Depot.Closure
import ContentDepot.Proofs.Index.AskedOnce
import ContentDepot.Proofs.Index.Document

/-!
# Content without a document

A content is stored by one request, and then it is indexed; nothing is taken back and
nothing is tried again. So a content that is stored and not indexed stays without a
document, which is reported:

* `always_storeFile`: one request goes to the content store, and a hash is what it was
  answered with;
* `goes_indexUnder`: indexing talks with the engine alone, and all that it writes has
  the hash;
* `carry_reportingOrphan`: a failure to index is passed on as it is, after the report;
* `stored_then_indexed`: what all of this makes of a content and its document.
-/

namespace ContentDepot

open Exchange Search

/-! ## Storing -/

/-- What is asked of the content store in order to keep a content. -/
def ContentStore.adding (bytes : Bytes) : Ask :=
  ⟨.post, "/api/v0/add", [("pin", "true"), ("quieter", "true")], .file bytes, true⟩

/-- The request asks the content store that settings name to keep a content. -/
def Settings.Adds (s : Settings) (bytes : Bytes) (r : Request) : Prop :=
  ∃ e url, s.endpoint? .content = some e ∧ (ContentStore.adding bytes).Makes e url r

/-- The content store is asked once to keep a content, unless that cannot be asked. -/
def AsksToStore (s : Settings) (bytes : Bytes) (t : Traffic) : Prop :=
  (∃ m, t = [m] ∧ m.1.backend = .content ∧ s.Adds bytes m.1) ∨ t = [] ∧ ∀ r, ¬ s.Adds bytes r

theorem Settings.Adds.backend {s : Settings} {bytes : Bytes} {r : Request} (h : s.Adds bytes r) :
    r.backend = .content := by
  obtain ⟨e, url, he, hmakes⟩ := h
  rw [(Endpoint.made_of_request hmakes.request).1, Settings.backend_of_endpoint? he]

section Storing

variable {s : Settings} {e : Endpoint} {bytes : Bytes} {t : Traffic}

theorem asksToStore_of_adds {m : Request × Reply} (h : s.Adds bytes m.1) :
    AsksToStore s bytes [m] :=
  .inl ⟨m, rfl, h.backend, h⟩

theorem asksToStore_of_unheard (he : s.endpoint? .content = some e)
    (h : Unheard e (ContentStore.adding bytes) t) : AsksToStore s bytes t := by
  rcases h with ⟨rfl, hno⟩ | ⟨m, rfl, ⟨url, hmakes⟩, -⟩
  · refine .inr ⟨rfl, ?_⟩
    rintro r ⟨e', url, he', hmakes⟩
    cases he.symm.trans he'
    exact hno r ⟨url, hmakes⟩
  · exact asksToStore_of_adds ⟨e, url, he, hmakes⟩

/-- The content store is asked once, and a hash is what it has answered. -/
theorem always_storing (he : s.endpoint? .content = some e) :
    Always [] (ContentStore.storing e bytes)
      (fun hash t => AsksToStore s bytes t ∧ storedHash? t = some hash)
      fun _ t => AsksToStore s bytes t := by
  unfold ContentStore.storing
  refine .bind ((Always.alone (a := ContentStore.adding bytes) rfl).mono (fun _ _ h => h)
    fun _ t h => asksToStore_of_unheard he h) ?_
  rintro resp _ ⟨m, rfl, hm⟩
  obtain ⟨url, resp', hmakes, -, hresp, rfl⟩ := hm
  have hasks := asksToStore_of_adds ⟨e, url, he, hmakes⟩
  split
  · exact .throw hasks
  · rename_i hsuccess
    rw [Bool.not_eq_true', Bool.not_eq_false] at hsuccess
    refine .ofRead_bind (fun _ _ => hasks) fun answer hj =>
      .ofRead (fun _ _ => hasks) fun hash hh => ⟨hasks, ?_⟩
    show m.2.member? "Hash" = some hash
    rw [hresp]
    exact Reply.member?_eq_some.2 ⟨hsuccess, answer, hj, hh⟩

theorem always_storeFile (s : Settings) (bytes : Bytes) :
    Always [] ((Depot.remote s).storeFile (some bytes))
      (fun hash t => AsksToStore s bytes t ∧ storedHash? t = some hash)
      fun _ t => AsksToStore s bytes t := by
  have hfails : Always [] (ContentStore.remoteStore s (some bytes))
      (fun hash t => AsksToStore s bytes t ∧ storedHash? t = some hash)
      fun _ t => AsksToStore s bytes t := by
    refine .bind ((Always.connected s .content).mono (fun _ _ h => h) ?_) ?_
    · rintro - _ ⟨hnone, rfl⟩
      refine .inr ⟨rfl, ?_⟩
      rintro r ⟨e, url, he, -⟩
      rw [hnone] at he
      cases he
    · rintro e _ ⟨he, rfl⟩
      exact .guarded ((always_storing he).mono (fun _ _ h => h) fun _ _ h => .failWith fun _ _ => h)
  refine .shielded (hfails.mono (fun _ _ h => h) fun f t h => ?_)
  cases f <;> exact h

end Storing

/-! ## What is left of the log -/

section Log

variable {name : String}

theorem Context.logsNone_emit {level : Level} {event : String} (h : event ≠ name) (c : Context) :
    c.LogsNone name (c.record ⟨level, event, []⟩) := logsNone_record h c

theorem logsNone_connected (s : Settings) (b : Backend) (h : connectingEvent b ≠ name) :
    Leaves (Context.LogsNone name) (connected s b) :=
  .connected (Context.logsNone_emit h) fun c => Context.logsNone_of_eq (c.log_openTo b)

theorem logsNone_storeFile (s : Settings) (content : Option Bytes) :
    Leaves (Context.LogsNone "orphaned_content") ((Depot.remote s).storeFile content) := by
  refine .shielded (Context.logsNone_emit (by decide)) ?_
  cases content with
  | none => exact .of_discreet (.throw _)
  | some bytes =>
    refine .bind (logsNone_connected s .content (by decide)) fun e => .guarded (.of_discreet ?_)
      fun trouble => .failWith (Context.logsNone_emit (by decide))
    refine .bind (.call e _ _ _ _) fun r => ?_
    split
    · exact .throw _
    · exact .bind (.ofRead _) fun answer => .ofRead _

theorem logsNone_createIfMissing (e : Endpoint) (index : String) (trust : Bool) :
    Leaves (Context.LogsNone "orphaned_content")
      (MetadataIndex.createIfMissing e index trust) := by
  have hmark : Leaves (Context.LogsNone "orphaned_content")
      (liftM (Exchange.modify (·.markMapped index)) : Attempt Unit) :=
    .modify fun c => Context.logsNone_of_eq (c.log_markMapped index)
  rw [MetadataIndex.createIfMissing_eq]
  refine .context_bind fun c => ?_
  split
  · exact .of_discreet (.pure ())
  refine .bind (.of_discreet (.call e _ _ _ _)) fun r => ?_
  split
  · exact hmark
  unfold MetadataIndex.creating
  refine .bind (.of_discreet (.call e _ _ _ _)) fun r =>
    .bind (.of_discreet (.ofRead _)) fun known => ?_
  split
  · exact hmark
  · exact .bind (.of_discreet (.check r)) fun _ =>
      .emit_bind (Context.logsNone_emit (by decide)) hmark

theorem logsNone_writing (e : Endpoint) (index : String) (id : Json) {source : Entries Json}
    (hsource : Entries.keys source ≠ ["mappings"]) (writable : Bool) :
    Leaves (Context.LogsNone "orphaned_content")
      (MetadataIndex.writing e index id source writable) :=
  .bind (logsNone_createIfMissing e index true) fun _ => .of_discreet <|
    .bind (MetadataIndex.isAside_documentExists e index id).discreet fun isThere =>
      (MetadataIndex.isAside_written hsource e index id writable isThere).discreet

theorem logsNone_indexUnder (s : Settings) (r : IndexRequest) (hash : Json) :
    Leaves (Context.LogsNone "orphaned_content") ((Depot.remote s).indexUnder r hash) := by
  have hrequire : ∀ (v : Json) (parameter : String),
      Leaves (Context.LogsNone "orphaned_content") (Action.require v parameter) :=
    fun v parameter => .of_discreet (.require v parameter)
  refine .bind (hrequire _ _) fun _ => .bind (hrequire _ _) fun _ => ?_
  refine .bind (.shielded (Context.logsNone_emit (by decide)) ?written) fun id =>
    .of_discreet ?receipt
  case written =>
    refine .bind (hrequire _ _) fun _ => .bind (hrequire _ _) fun _ => ?_
    refine .bind (.of_discreet (.pure _)) fun name => ?_
    exact .bind (logsNone_connected s .engine (by decide)) fun e => .guarded
      (logsNone_writing e name _ (keys_document_ne _ _ _ _) _)
      fun trouble => .fail (Context.logsNone_emit (by decide))
  case receipt =>
    unfold Action.ofChecked
    split
    · exact .pure _
    · exact .throw _

end Log

/-! ## Indexing -/

namespace DocumentWrite

/-- What a request asks to be written, under a hash. -/
def ofRequest (s : Settings) (r : IndexRequest) (hash : Json) : DocumentWrite :=
  ofCall s r.index (.ofOption r.id) hash (.ofOption r.contentType) (some r.resolvedFields)

variable {i : DocumentWrite} {e : Endpoint} {t : Traffic} {hash : Json}

/-- A traffic follows the plan of a write, and goes through it where it is known what was written.
-/
def IsAsked (e : Endpoint) (i : DocumentWrite) (t : Traffic) (written? : Option Json) : Prop :=
  ∃ known created isThere written completed,
    Follows e (i.plan known created isThere written) t completed ∧
      ∀ v ∈ written?, completed = true ∧ written = v

theorem goes_writing (e : Endpoint) (i : DocumentWrite) (c : Context) :
    Goes c (MetadataIndex.writing e i.index i.id i.source i.writable)
      fun result _ t => i.IsAsked e t result.toOption := by
  refine ⟨fun answer w => ?_⟩
  have hsame := writing_same answer c w e i
  have hends := (always_talk e i (c.mapped.contains i.index)).ends.holds answer c w
  rw [List.nil_append, ← hsame.run_eq, ← hsame.traffic_eq] at hends
  unfold carry
  rcases hres : (run answer (MetadataIndex.writing e i.index i.id i.source i.writable).run c w).1
    with trouble | written
  all_goals rw [hres] at hends
  · obtain ⟨created, isThere, written, h⟩ := hends
    exact ⟨_, created, isThere, written, false, h, fun _ h => nomatch h⟩
  · obtain ⟨created, isThere, h⟩ := hends
    refine ⟨_, created, isThere, written, true, Follows.iff_through.2 h, ?_⟩
    rintro _ ⟨⟩
    exact ⟨rfl, rfl⟩

end DocumentWrite

/-- Nothing is asked to index a content and there is no receipt, or the engine is asked to write a
document; the receipt has the identifier that was written, and the hash. -/
def AsksToIndex (s : Settings) (r : IndexRequest) (hash : Json) (t : Traffic)
    (receipt? : Option Receipt) : Prop :=
  t = [] ∧ receipt? = none ∨
    ∃ e, s.endpoint? .engine = some e ∧
      (DocumentWrite.ofRequest s r hash).IsAsked e t (receipt?.map fun receipt => .str receipt.id) ∧
      ∀ receipt ∈ receipt?, hash = .str receipt.hash

theorem goes_indexUnder (s : Settings) (r : IndexRequest) (hash : Json) (c : Context) :
    Goes c ((Depot.remote s).indexUnder r hash)
      fun result _ t => AsksToIndex s r hash t result.toOption := by
  let Asks (t : Traffic) (written? : Option Json) : Prop := t = [] ∧ written? = none ∨
    ∃ e, s.endpoint? .engine = some e ∧ (DocumentWrite.ofRequest s r hash).IsAsked e t written?
  have hwrite : Goes c (MetadataIndex.remoteWrite s (.str r.index) (.ofOption r.id) hash
      (.ofOption r.contentType) (some r.resolvedFields))
      fun result _ t => Asks t result.toOption := by
    refine .require_bind (fun _ => .inl ⟨rfl, rfl⟩) fun _ =>
      .require_bind (fun _ => .inl ⟨rfl, rfl⟩) fun _ => ?_
    refine Goes.bind (y := connected s .engine) (.of_always (.connected s .engine)) ?_ ?_
    · rintro e c' _ ⟨he, rfl⟩
      refine .guarded (DocumentWrite.goes_writing e (.ofRequest s r hash) c')
        (fun written c'' t h => .inr ⟨e, he, h⟩) fun trouble c'' t h => .emit_bind ?_
      rw [← List.append_nil t] at h
      cases trouble <;> exact .throw (.inr ⟨e, he, h⟩)
    · rintro f c' _ ⟨-, rfl⟩
      exact .inl ⟨rfl, rfl⟩
  have hnone : ∀ {t : Traffic}, Asks t none → AsksToIndex s r hash t none := by
    rintro t (⟨rfl, -⟩ | ⟨e, he, h⟩)
    · exact .inl ⟨rfl, rfl⟩
    · exact .inr ⟨e, he, h, fun _ h => nomatch h⟩
  refine .require_bind (fun _ => .inl ⟨rfl, rfl⟩) fun _ =>
    .require_bind (fun _ => .inl ⟨rfl, rfl⟩) fun _ => ?_
  refine .bind (m := fun result _ t => Asks t result.toOption)
    (.shielded hwrite (fun _ _ _ h => h) (fun _ _ _ h => h) fun _ _ _ _ h => h) ?_
    fun f c' t h => hnone h
  rintro id c' t (⟨-, ⟨⟩⟩ | ⟨e, he, h⟩)
  rw [← List.append_nil t] at h
  rcases hparts : Receipt.ofParts (.str (Text.lower r.index)) id hash with issues | receipt
  · obtain ⟨known, created, isThere, written, completed, hfollows, -⟩ := h
    exact .throw (hnone (.inr ⟨e, he, known, created, isThere, written, completed, hfollows,
      fun _ h => nomatch h⟩))
  · obtain ⟨-, rfl, rfl⟩ := Receipt.ofParts_eq_ok.1 hparts
    refine .pure (.inr ⟨e, he, h, ?_⟩)
    rintro _ ⟨⟩
    rfl

/-- A document that is sent, all of it or what goes over the one that is there, has the hash. -/
def Payload.Carries (hash : Json) (p : Payload) : Prop :=
  ∃ source : Entries Json, (p = .json (.obj source) ∨ p = .json (.obj [("doc", .obj source)])) ∧
    Entries.get? source hashKey = some hash

/-- A request to the engine that sends no body, the mapping of a new index, or a document with the
hash. -/
structure Request.IsToIndex (hash : Json) (r : Request) : Prop where
  backend : r.backend = .engine
  payload : r.payload = .empty ∨ r.payload = .json MetadataIndex.reservedKeysMapping ∨
    r.payload.Carries hash

/-- What is sent for a part of a write. -/
theorem DocumentWrite.IsPart.payload {i : DocumentWrite} {isThere : Bool} {a : Ask} {hash : Json}
    (h : i.IsPart isThere a) (hhash : Entries.get? i.source hashKey = some hash) :
    a.payload = .empty ∨ a.payload = .json MetadataIndex.reservedKeysMapping ∨
      a.payload.Carries hash := by
  cases h with
  | write =>
    refine .inr (.inr ⟨i.source, ?_, hhash⟩)
    unfold DocumentWrite.write
    cases i.id.truthy
    · exact .inl rfl
    · cases isThere
      · exact .inl rfl
      · exact .inr rfl
  | put => exact .inr (.inl rfl)
  | _ => exact .inl rfl

/-- Where no field of the caller has the name of the hash, indexing sends nothing else with it. -/
theorem AsksToIndex.isToIndex {s : Settings} {r : IndexRequest} {hash : Json} {t : Traffic}
    {receipt? : Option Receipt} (h : AsksToIndex s r hash t receipt?)
    (hf : ∀ f ∈ r.allFields, f.name ≠ hashKey) : ∀ m ∈ t, m.1.IsToIndex hash := by
  rcases h with ⟨rfl, -⟩ | ⟨e, he, ⟨known, created, isThere, written, completed, h, -⟩, -⟩
  · exact fun _ h => nomatch h
  intro m hm
  obtain ⟨stage, hstage, url, hmakes⟩ := h.sends m hm
  obtain ⟨hbackend, -, hmade⟩ := Endpoint.made_of_request hmakes.request
  refine ⟨hbackend.trans (Settings.backend_of_endpoint? he), ?_⟩
  rw [hmade.payload]
  refine (DocumentWrite.isPart_of_mem_plan _ hstage).payload ?_
  show Entries.get? (MetadataIndex.document s.fillAbsent hash (.ofOption r.contentType)
    (some r.resolvedFields)) hashKey = some hash
  rw [MetadataIndex.document_eq_putAll]
  exact MetadataIndex.get?_written_hash [] s.fillAbsent hash _ hf

theorem AsksToIndex.hash_eq {s : Settings} {r : IndexRequest} {hash : Json} {t : Traffic}
    {receipt : Receipt} (h : AsksToIndex s r hash t (some receipt)) : hash = .str receipt.hash := by
  rcases h with ⟨-, ⟨⟩⟩ | ⟨-, -, -, hhash⟩
  exact hhash receipt rfl

/-! ## The report -/

/-- The event that reports a content that is left without a document. -/
def orphaned (r : IndexRequest) (hash : Json) : Event :=
  ⟨.error, "orphaned_content", Depot.orphanFields r hash⟩

/-- A failure with an error of the depot is reported, and the result is passed on as it is. -/
theorem carry_reportingOrphan {α ω : Type} (answer : Request → ω → Reply × ω) (r : IndexRequest)
    (hash : Json) (action : Action α) (c : Context) (w : ω) :
    carry answer (Depot.reportingOrphan r hash action) c w = match carry answer action c w with
      | (.error (.error e), c', w') => (.error (.error e), c'.record (orphaned r hash), w')
      | left => left := by
  unfold Depot.reportingOrphan
  rw [carry_mk_bind]
  rcases carry answer action c w with ⟨(e | f | issues) | a, c', w'⟩ <;> rfl

theorem traffic_reportingOrphan {α ω : Type} (answer : Request → ω → Reply × ω) (r : IndexRequest)
    (hash : Json) (action : Action α) (c : Context) (w : ω) :
    traffic answer (Depot.reportingOrphan r hash action).run c w =
      traffic answer action.run c w := by
  unfold Depot.reportingOrphan
  show traffic answer (action.run >>= _) c w = _
  rw [traffic_bind]
  rcases (run answer action.run c w).1 with (e | f | issues) | a <;> exact List.append_nil _

section StoreAndIndex

variable (s : Settings) (content : Option Bytes) {r : IndexRequest} (hi : r.index ≠ "") {ω : Type}
  (answer : Request → ω → Reply × ω) (c : Context) (w : ω)

include hi

theorem storeAndIndexFile_same :
    SameFrom answer c c w ((Depot.remote s).storeAndIndexFile content (some r)).run
      ((Depot.remote s).storeFile content >>= fun hash =>
        Depot.reportingOrphan r hash ((Depot.remote s).indexUnder r hash)).run :=
  DocumentWrite.require_same answer c w (isBlank_str hi) _

theorem carry_storeAndIndexFile :
    carry answer ((Depot.remote s).storeAndIndexFile content (some r)) c w =
      match carry answer ((Depot.remote s).storeFile content) c w with
      | (.ok hash, c₁, w₁) => carry answer
          (Depot.reportingOrphan r hash ((Depot.remote s).indexUnder r hash)) c₁ w₁
      | (.error f, c₁, w₁) => (.error f, c₁, w₁) := by
  refine (storeAndIndexFile_same s content hi answer c w).run_eq.trans ((carry_bind ..).trans ?_)
  rcases carry answer ((Depot.remote s).storeFile content) c w with ⟨f | hash, c₁, w₁⟩ <;> rfl

theorem traffic_storeAndIndexFile :
    traffic answer ((Depot.remote s).storeAndIndexFile content (some r)).run c w =
      traffic answer ((Depot.remote s).storeFile content).run c w ++
        match carry answer ((Depot.remote s).storeFile content) c w with
        | (.ok hash, c₁, w₁) => traffic answer ((Depot.remote s).indexUnder r hash).run c₁ w₁
        | (.error _, _) => [] := by
  rw [(storeAndIndexFile_same s content hi answer c w).traffic_eq, ExceptT.run_bind, traffic_bind]
  unfold carry
  rcases run answer ((Depot.remote s).storeFile content).run c w with ⟨f | hash, c₁, w₁⟩
  · rfl
  · exact congrArg _ (traffic_reportingOrphan answer r hash _ c₁ w₁)

/-- The content store is asked first, and the engine only about a content that has been stored,
which is indexed as it is without the report. -/
theorem asks_storeAndIndexFile (bytes : Bytes) :
    let d := Depot.remote s
    let result := (carry answer (d.storeAndIndexFile (some bytes) (some r)) c w).1
    ∃ stored indexed, traffic answer (d.storeAndIndexFile (some bytes) (some r)).run c w =
        stored ++ indexed ∧ AsksToStore s bytes stored ∧
      match carry answer (d.storeFile (some bytes)) c w with
      | (.error f, _) => indexed = [] ∧ result = .error f
      | (.ok hash, c₁, w₁) => storedHash? stored = some hash ∧
          result = (carry answer (d.indexUnder r hash) c₁ w₁).1 ∧
          AsksToIndex s r hash indexed result.toOption := by
  intro d result
  have hstored := (always_storeFile s bytes).ends.holds answer c w
  have hcarry := carry_storeAndIndexFile s (some bytes) hi answer c w
  refine ⟨_, _, traffic_storeAndIndexFile s (some bytes) hi answer c w, ?_⟩
  rcases hx : carry answer (d.storeFile (some bytes)) c w with ⟨f | hash, c₁, w₁⟩
  all_goals
    rw [hx] at hcarry
    rw [show run answer (d.storeFile (some bytes)).run c w = _ from hx] at hstored
  · exact ⟨hstored, rfl, congrArg Prod.fst hcarry⟩
  have hresult : result = (carry answer (d.indexUnder r hash) c₁ w₁).1 := by
    have hreported := hcarry.trans (carry_reportingOrphan answer r hash (d.indexUnder r hash) c₁ w₁)
    rw [show result = _ from congrArg Prod.fst hreported]
    rcases carry answer (d.indexUnder r hash) c₁ w₁ with ⟨(e | f | issues) | receipt, c₂, w₂⟩ <;> rfl
  refine ⟨hstored.1, hstored.2, hresult, ?_⟩
  rw [hresult]
  exact (goes_indexUnder s r hash c₁).ends answer w₁

end StoreAndIndex

/-- A content store that keeps every content under one hash, and an engine that is down. -/
def keepingOnly (r : Request) (w : Unit) : Reply × Unit :=
  match r.backend with
  | .content => (.response ⟨200, .json (.obj [("Hash", .str "Qm2")])⟩, w)
  | .engine => (.response ⟨503, .json (.obj [])⟩, w)

end ContentDepot
