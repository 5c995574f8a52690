import ContentDepot.Proofs.Index.LookingUp
import ContentDepot.Proofs.Index.Writing
import ContentDepot.Proofs.Session.Calls
import ContentDepot.Proofs.Text.Lowering

/-!
# The operations of a depot over the backends in memory

An operation that succeeds is read back into the steps that it took:

* `writing_of_indexUnder`, `indexUnder_ok`: a content that was indexed has its document written;
* `storeFile_ok`: a content that was stored has its hash for a name;
* `metadataById_of_target`: a look-up shows the document that is there;
* `quiet_named`: an operation on an index where a name leads is quiet if what it
  does there is.
-/

namespace ContentDepot

open InMemory Address Exchange

namespace Depot

variable {s : Settings} {e : Endpoint} {w w' : World} {c c' : Context}

theorem carry_shielded_ok {α : Type} {activity : Activity} {name : String} {action : Action α}
    {a : α} :
    carry World.answer (shielded activity name action) c w = (.ok a, c', w') ↔
      carry World.answer action c w = (.ok a, c', w') := by
  unfold shielded
  rw [carry_mk_bind]
  generalize carry World.answer action c w = result
  obtain ⟨(_ | _ | _) | b, c₁, w₁⟩ := result
  all_goals first | exact Iff.rfl | exact ⟨(fun h => by cases h), (fun h => by cases h)⟩

theorem carry_reportingOrphan_ok {α : Type} {r : IndexRequest} {hash : Json} {action : Action α}
    {a : α} :
    carry World.answer (reportingOrphan r hash action) c w = (.ok a, c', w') ↔
      carry World.answer action c w = (.ok a, c', w') := by
  unfold reportingOrphan
  rw [carry_mk_bind]
  generalize carry World.answer action c w = result
  obtain ⟨(_ | _ | _) | b, c₁, w₁⟩ := result
  all_goals first | exact Iff.rfl | exact ⟨(fun h => by cases h), (fun h => by cases h)⟩

theorem carry_require_ok {v : Json} {name : String} {u : Unit} :
    carry World.answer (Action.require v name) c w = (.ok u, c', w') ↔
      v.isBlank = false ∧ c = c' ∧ w = w' := by
  rw [carry_require]
  split <;> simp [*]

theorem carry_ofChecked_ok {α : Type} {checked : Checked α} {a : α} :
    carry World.answer (Action.ofChecked checked) c w = (.ok a, c', w') ↔
      checked = .ok a ∧ c = c' ∧ w = w' := by
  cases checked <;> simp [Action.ofChecked]

/-- A receipt is made of texts alone. -/
theorem ofParts_ok {index id hash : Json} {receipt : Receipt}
    (h : Receipt.ofParts index id hash = .ok receipt) :
    index = .str receipt.index ∧ id = .str receipt.id ∧ hash = .str receipt.hash := by
  unfold Receipt.ofParts at h
  cases index <;> cases id <;> cases hash <;> cases h
  exact ⟨rfl, rfl, rfl⟩

theorem fail_ne_ok {α : Type} {activity : Activity} {name : String} (t : Trouble) (c : Context)
    (w : World) :
    ∃ f, (carry World.answer (MetadataIndex.fail activity name t : Action α) c w).1 = .error f := by
  cases t <;> exact ⟨_, rfl⟩

/-- Indexing that succeeded was a write of the document, to the index that the receipt names and
under the hash and the identifier that it names. -/
theorem writing_of_indexUnder {r : IndexRequest} {hash : Json} {receipt : Receipt}
    (hs : s.endpoint? .engine = some e)
    (h : carry World.answer ((Depot.remote s).indexUnder r hash) c w = (.ok receipt, c', w')) :
    r.index ≠ "" ∧ hash = .str receipt.hash ∧ receipt.index = Text.lower r.index ∧
      ∃ c₁, carry World.answer (MetadataIndex.writing e (Text.lower r.index) (.ofOption r.id)
        (MetadataIndex.document s.fillAbsent (.str receipt.hash) (.ofOption r.contentType)
          (some r.resolvedFields)) (r.resolvedFields.all (·.writable))) c₁ w =
            (.ok (.str receipt.id), c', w') := by
  unfold indexUnder at h
  obtain ⟨_, c₁, w₁, h₁, h⟩ := carry_bind_ok.1 h
  obtain ⟨hindex, rfl, rfl⟩ := carry_require_ok.1 h₁
  obtain ⟨_, c₂, w₂, h₂, h⟩ := carry_bind_ok.1 h
  obtain ⟨-, rfl, rfl⟩ := carry_require_ok.1 h₂
  obtain ⟨v, c₃, w₃, h₃, h⟩ := carry_bind_ok.1 h
  obtain ⟨hreceipt, rfl, rfl⟩ := carry_ofChecked_ok.1 h
  obtain ⟨hi, rfl, rfl⟩ := ofParts_ok hreceipt
  rw [carry_shielded_ok] at h₃
  have hne : r.index ≠ "" := by
    intro h0
    rw [h0] at hindex
    cases hindex
  replace h₃ : carry World.answer (MetadataIndex.remoteWrite s (.str r.index) (.ofOption r.id)
      (.str receipt.hash) (.ofOption r.contentType) (some r.resolvedFields)) c w =
        (.ok (.str receipt.id), c₃, w₃) := h₃
  unfold MetadataIndex.remoteWrite at h₃
  obtain ⟨_, c₄, w₄, h₄, h₃⟩ := carry_bind_ok.1 h₃
  obtain ⟨-, rfl, rfl⟩ := carry_require_ok.1 h₄
  obtain ⟨_, c₅, w₅, h₅, h₃⟩ := carry_bind_ok.1 h₃
  obtain ⟨-, rfl, rfl⟩ := carry_require_ok.1 h₅
  rw [show MetadataIndex.lowered (.str r.index) = pure (Text.lower r.index) from rfl,
    carry_bind_of_ok (carry_pure ..)] at h₃
  obtain ⟨c₆, h₆⟩ := carry_connected hs c w
  rw [carry_bind_of_ok h₆, carry_guarded_ok fail_ne_ok] at h₃
  exact ⟨hne, rfl, (Json.str.inj hi).symm, c₆, h₃⟩

/-- What has happened when a content was indexed: the document that the receipt names was written
to the index where the name leads. -/
theorem indexUnder_ok {r : IndexRequest} {hash : Json} {receipt : Receipt}
    (hs : s.endpoint? .engine = some e) (he : e.IsEngine) (hw : w.Live)
    (h : carry World.answer ((Depot.remote s).indexUnder r hash) c w = (.ok receipt, c', w')) :
    r.index ≠ "" ∧ hash = .str receipt.hash ∧ receipt.index = Text.lower r.index ∧
      receipt.id = w.engine.idFor (MetadataIndex.given r.id) ∧ w'.Live ∧
      (∀ t, MetadataIndex.given r.id = some t →
        MetadataIndex.Reaches e (Text.lower r.index) t) ∧
      (∃ index, e.address.Leads (Text.lower r.index) index) ∧
      (∃ url, e.address.target (Address.reference (Text.lower r.index) ["_refresh".toList]) =
        .ok url) ∧
      ∀ index, e.address.Leads (Text.lower r.index) index →
        w.engine.Wrote index (MetadataIndex.given r.id)
          (MetadataIndex.document s.fillAbsent hash (.ofOption r.contentType)
            (some r.resolvedFields)) w'.engine := by
  obtain ⟨hne, rfl, hi, c₁, h₁⟩ := writing_of_indexUnder hs h
  obtain ⟨index, hl⟩ := MetadataIndex.leads_of_writing he (Text.lower_ne_empty hne) hw h₁
  obtain ⟨hid, -, hlive, hreaches⟩ := MetadataIndex.writing_ok he hl hw h₁
  refine ⟨hne, rfl, hi, Json.str.inj hid, hlive, hreaches, ⟨index, hl⟩,
    MetadataIndex.refreshed_of_writing he hw h₁, fun index hl => ?_⟩
  exact (MetadataIndex.writing_ok he hl hw h₁).2.1

/-! ## Contents -/

/-- The path under which contents are stored. -/
def addPath : List Char := "/api/v0/add".toList

theorem path_of_add {a : Address} (ha : a.base.IsRoot) {url : Url}
    (h : a.target "/api/v0/add" = .ok url) : url.path = addPath := by
  rw [show "/api/v0/add" = String.ofList ('/' :: 'a' :: "pi/v0/add".toList) by decide] at h
  rw [path_of_plain ha (by decide) (Text.forall_mem_of_all (by decide)) (by decide) h]
  decide

/-- A content that is added goes under its hash. -/
theorem hash_of_added {b : Blobs} {r : Request} {bytes : Bytes} {resp : Response} {v x : Json}
    (hpath : r.path = String.ofList addPath) (hp : r.payload = .file bytes)
    (h : (b.answer r).1 = .response resp) (hv : resp.json = .ok v) (hx : v.itemAt "Hash" = .ok x) :
    x = .str (Blobs.hashOf bytes) := by
  have hdecode : Text.Percent.decode r.path = "/api/v0/add" := by rw [hpath]; decide
  unfold Blobs.answer at h
  split at h
  · cases h
    cases hv
    cases hx
  · simp only [hdecode, hp] at h
    rw [if_neg (by decide), if_pos trivial] at h
    cases h
    cases hv
    cases hx
    rfl

theorem storing_ok {bytes : Bytes} {v : Json} (hb : e.backend = .content)
    (hr : e.address.base.IsRoot) (hw : w.Live)
    (h : carry World.answer (ContentStore.storing e bytes) c w = (.ok v, c', w')) :
    v = .str (Blobs.hashOf bytes) := by
  unfold ContentStore.storing at h
  obtain ⟨resp, c₁, w₁, h₁, h⟩ := carry_bind_ok.1 h
  obtain ⟨url, r, ht, hreq, -, ha, -⟩ := carry_call_ok.1 h₁
  obtain ⟨hbackend, -, hm⟩ := Endpoint.made_of_request hreq
  have hpath : r.path = String.ofList addPath := by
    rw [hm.path, path_of_add hr ht]
    rfl
  simp only [World.answer, World.prepared?, World.backendAnswer, hbackend, hb, hw.contentReplies,
    hw.inMemory, if_true, Prod.mk.injEq] at ha
  split at h
  · cases h
  · obtain ⟨answer, c₂, w₂, h₂, h⟩ := carry_bind_ok.1 h
    obtain ⟨hv, rfl, rfl⟩ := carry_ofRead_ok.1 h₂
    exact hash_of_added hpath hm.payload ha.1 hv (carry_ofRead_ok.1 h).1

theorem failWith_ne_ok {α : Type} {activity : Activity} {name : String} (t : Trouble) (c : Context)
    (w : World) :
    ∃ f, (carry World.answer (ContentStore.failWith activity name t : Action α) c w).1 =
      .error f := by
  cases t <;> exact ⟨_, rfl⟩

/-- A content that was stored has its hash for a name. -/
theorem storeFile_ok {content : Option Bytes} {v : Json} (hs : s.HostsAreRoots) (hw : w.Live)
    (h : carry World.answer ((Depot.remote s).storeFile content) c w = (.ok v, c', w')) :
    ∃ bytes, content = some bytes ∧ v = .str (Blobs.hashOf bytes) := by
  obtain ⟨e, he, hr⟩ := hs .content
  have hb : e.backend = .content := Settings.backend_of_endpoint? he
  unfold storeFile at h
  rw [carry_shielded_ok] at h
  replace h : carry World.answer (ContentStore.remoteStore s content) c w = (.ok v, c', w') := h
  cases content with
  | none => cases h
  | some bytes =>
    unfold ContentStore.remoteStore at h
    obtain ⟨c₁, h₁⟩ := carry_connected he c w
    rw [carry_bind_of_ok h₁, carry_guarded_ok failWith_ne_ok] at h
    exact ⟨bytes, rfl, storing_ok hb hr hw h⟩

/-! ## Look-ups -/

theorem carry_require_str {t : String} (ht : t ≠ "") (name : String) (c : Context) (w : World) :
    carry World.answer (Action.require (.str t) name) c w = (.ok (), c, w) := by
  rw [carry_require, isBlank_str ht, if_neg Bool.false_ne_true]

/-- A look-up is what the talk with the engine gives. -/
theorem metadataById_eq {i id : String} (hs : s.endpoint? .engine = some e) (hi : i ≠ "")
    (h0 : id ≠ "") (c : Context) (w : World) :
    ∃ c₁, carry World.answer ((Depot.remote s).metadataById (.str i) (.str id)) c w =
      carry World.answer ((MetadataIndex.lookingUp e (Text.lower i) (.str id)).guarded fun
        | .absent => do
          Exchange.emit .warning "document_not_found"
          Action.refuse (.noDocument (Text.lower i) (.str id))
        | t => MetadataIndex.fail .lookingUp "search_by_id_failed" t) c₁ w := by
  obtain ⟨c₁, h₁⟩ := carry_connected hs c w
  refine ⟨c₁, ?_⟩
  unfold metadataById
  rw [carry_bind_of_ok (carry_require_str hi ..), carry_bind_of_ok (carry_require_str h0 ..),
    show (Depot.remote s).index.lookUp = MetadataIndex.remoteLookUp s from rfl]
  unfold MetadataIndex.remoteLookUp
  rw [carry_bind_of_ok (carry_require_str hi ..), carry_bind_of_ok (carry_require_str h0 ..),
    show MetadataIndex.lowered (.str i) = pure (Text.lower i) from rfl,
    carry_bind_of_ok (carry_pure ..)]
  exact carry_bind_of_ok h₁

/-- A look-up finds the document under the identifier in the index where the name leads. -/
theorem metadataById_of_target {i id index : String} {url : Url}
    (hs : s.endpoint? .engine = some e) (he : e.IsEngine)
    (hl : e.address.Leads (Text.lower i) index) (hw : w.Live)
    (hf : w.engine.failing = none) (hi : i ≠ "") (h0 : id ≠ "") (h1 : id ≠ ".") (h2 : id ≠ "..")
    (ht : e.address.target (MetadataIndex.documentPath (Text.lower i) (.str id)) = .ok url)
    (c : Context) :
    (carry World.answer ((Depot.remote s).metadataById (.str i) (.str id)) c w).1 =
      match Entries.get? (w.engine.documents index) id with
        | some d => .ok (.ofDocument index id d)
        | none => .error (.error (.noDocument (Text.lower i) (.str id))) := by
  obtain ⟨c₁, h₁⟩ := metadataById_eq hs hi h0 c w
  obtain ⟨w₁, h₂⟩ := MetadataIndex.lookingUp_eq he hl hw hf h0 h1 h2 ht c₁
  rw [h₁, carry_guarded, h₂]
  rcases Entries.get? (w.engine.documents index) id with _ | d <;> rfl

/-- A look-up whose address is not admitted fails for that reason. -/
theorem metadataById_of_refused {i id : String} {f : Fault} (hs : s.endpoint? .engine = some e)
    (hi : i ≠ "") (h0 : id ≠ "")
    (ht : e.address.target (MetadataIndex.documentPath (Text.lower i) (.str id)) = .error f)
    (c : Context) (w : World) :
    (carry World.answer ((Depot.remote s).metadataById (.str i) (.str id)) c w).1 =
      .error (.error (.failed .lookingUp (.fault f))) := by
  obtain ⟨c₁, h₁⟩ := metadataById_eq hs hi h0 c w
  have hcall : carry World.answer (MetadataIndex.lookingUp e (Text.lower i) (.str id)) c₁ w =
      (.error (.cause (.fault f)), c₁, w) :=
    carry_bind_of_error (carry_call_of_refused ht ..)
  rw [h₁, carry_guarded, hcall]
  rfl

/-! ## Operations that write nothing -/

theorem quiet_connected {α : Type} {b : Backend} {f : Endpoint → Action α}
    (hf : ∀ e, s.endpoint? b = some e → Quiet (f e)) : Quiet (connected s b >>= f) := by
  have hconnected : Quiet (connected s b) := by
    unfold connected connect
    refine .bind (.bind .context fun c => ?_) fun _ => ?_
    · split
      · exact .pure _
      · refine .bind (.emit _ _) fun _ => ?_
        split
        · exact .throw _
        · exact .modify _
    · split
      · exact .throw _
      · exact .pure _
  refine .bind_of hconnected fun e c w c' w' h => hf e ?_
  unfold connected at h
  obtain ⟨_, c₁, w₁, -, h⟩ := carry_bind_ok.1 h
  split at h
  · cases h
  · rename_i he
    cases h
    exact he

theorem quiet_fail {α : Type} {activity : Activity} {name : String} (t : Trouble) :
    Quiet (MetadataIndex.fail activity name t : Action α) := by
  unfold MetadataIndex.fail
  refine .bind (.emit _ _) fun _ => ?_
  cases t <;> exact .throw _

theorem quiet_failWith {α : Type} {activity : Activity} {name : String} (t : Trouble) :
    Quiet (ContentStore.failWith activity name t : Action α) := by
  unfold ContentStore.failWith
  refine .bind (.emit _ _) fun _ => ?_
  cases t <;> exact .throw _

theorem quiet_storeFile (content : Option Bytes) : Quiet ((Depot.remote s).storeFile content) := by
  refine .shielded ?_
  show Quiet (ContentStore.remoteStore s content)
  cases content with
  | none => exact .throw _
  | some bytes =>
    refine quiet_connected fun e he => .guarded ?_ quiet_failWith
    refine .bind (.call_content (Settings.backend_of_endpoint? he)) fun r => ?_
    split
    · exact .throw _
    · exact .bind (.ofRead _) fun _ => .ofRead _

theorem quiet_fileByHash (hash : Json) : Quiet ((Depot.remote s).fileByHash hash) := by
  refine .bind (.require _ _) fun _ => .shielded ?_
  show Quiet (ContentStore.remoteFetch s hash)
  refine .bind (.require _ _) fun _ => quiet_connected fun e he =>
    .bind (.guarded (.call_content (Settings.backend_of_endpoint? he)) quiet_failWith) fun r => ?_
  have hrest : ∀ absent : Bool, Quiet (if absent = true then do
        Exchange.emit .warning "content_not_found"
        Action.refuse (.noContent hash)
      else if r.status ≠ 200 then do
        Exchange.emit .error "fetch_content_failed"
        Action.refuse (.contentStatus r.status hash)
      else Pure.pure r.body.toBytes : Action Bytes) := by
    intro absent
    split
    · exact .bind (.emit _ _) fun _ => .throw _
    · split
      · exact .bind (.emit _ _) fun _ => .throw _
      · exact .pure _
  dsimp only
  split
  · exact .bind (.pure _) hrest
  · split
    · split
      · exact .bind (.pure _) hrest
      · exact .bind (.throw _) hrest
    · exact .bind (.pure _) hrest

/-- The name of an index leads somewhere, where it is a text at all. -/
def NameLeads (s : Settings) (index : Json) : Prop :=
  ∀ t e, index = .str t → t ≠ "" → s.endpoint? .engine = some e →
    ∃ i, e.address.Leads (Text.lower t) i

/-- An operation on an index whose name leads there is quiet if what it does there is. -/
theorem quiet_named {α : Type} {index : Json} {name : String} {f : String → Endpoint → Action α}
    (hf : ∀ t e, index = .str t → t ≠ "" → s.endpoint? .engine = some e →
      Quiet (f (Text.lower t) e)) :
    Quiet (do
      Action.require index name
      let t ← MetadataIndex.lowered index
      let e ← connected s .engine
      f t e) := by
  refine .bind_of (.require _ _) fun _ c w c' w' h => ?_
  obtain ⟨hb, -, -⟩ := carry_require_ok.1 h
  cases index with
  | str t =>
    have ht : t ≠ "" := by
      rintro rfl
      cases hb
    rw [show MetadataIndex.lowered (.str t) = pure (Text.lower t) from rfl, pure_bind]
    exact quiet_connected fun e he => hf t e rfl ht he
  | _ => exact .throw_bind _ _

theorem quiet_metadataById (hs : s.HostsAreRoots) (index id : Json) :
    Quiet ((Depot.remote s).metadataById index id) := by
  refine .bind (.require _ _) fun _ => .bind (.require _ _) fun _ => ?_
  show Quiet (MetadataIndex.remoteLookUp s index id)
  refine .bind (.require _ _) fun _ => .bind (.require _ _) fun _ => .bind ?_ fun name =>
    quiet_connected fun e he =>
      .guarded (MetadataIndex.quiet_lookingUp (hs.isEngine he) id) fun t => ?_
  · cases index <;> first | exact .pure _ | exact .throw _
  · cases t <;> first | exact quiet_fail _ | exact .bind (.emit _ _) fun _ => .throw _

theorem quiet_search (hs : s.HostsAreRoots) {index : Json} (hn : NameLeads s index)
    (query : Option Query) (pageable : Option Pageable) :
    Quiet ((Depot.remote s).index.search pageable index query) := by
  show Quiet (MetadataIndex.remoteSearch s pageable index query)
  cases pageable with
  | none => exact .throw _
  | some p =>
    refine quiet_named fun t e ht h0 he => .guarded ?_ quiet_fail
    obtain ⟨i, hl⟩ := hn t e ht h0 he
    exact .bind (.emitAll _) fun _ => .bind (.call_search (hs.isEngine he) hl) fun _ =>
      .bind (.check _) fun _ => .bind (.ofRead _) fun _ => .ofRead _

theorem quiet_count (hs : s.HostsAreRoots) {index : Json} (hn : NameLeads s index)
    (query : Option Query) : Quiet ((Depot.remote s).index.count index query) := by
  show Quiet (MetadataIndex.remoteCount s index query)
  refine quiet_named fun t e ht h0 he => .guarded ?_ quiet_fail
  obtain ⟨i, hl⟩ := hn t e ht h0 he
  exact .bind (.emitAll _) fun _ => .bind (.call_search (hs.isEngine he) hl) fun _ =>
    .bind (.check _) fun _ => .bind (.ofRead _) fun _ => .ofRead _

theorem quiet_searchFiles (hs : s.HostsAreRoots) {index : Json} (hn : NameLeads s index)
    (query : Option Query) (pageable : Option Pageable) :
    Quiet ((Depot.remote s).searchFiles index query pageable) := by
  refine .bind (.require _ _) fun _ => ?_
  cases pageable with
  | none => exact .throw _
  | some p =>
    exact .bind (quiet_search hs hn query p) fun _ => .bind (quiet_count hs hn query) fun _ =>
      .pure _

theorem quiet_metadataByHash (hs : s.HostsAreRoots) {index : Json} (hn : NameLeads s index)
    (hash : Json) : Quiet ((Depot.remote s).metadataByHash index hash) := by
  refine .bind (.require _ _) fun _ => .bind (.require _ _) fun _ =>
    .bind (quiet_search hs hn _ _) fun found => ?_
  cases found with
  | nil => exact .bind (.emit _ _) fun _ => .throw _
  | cons m ms => exact .pure _

theorem quiet_createIndex (hs : s.HostsAreRoots) {index : Json} (hn : NameLeads s index) :
    Quiet ((Depot.remote s).createIndex index) := by
  refine .bind (.require _ _) fun _ => ?_
  show Quiet (MetadataIndex.remoteCreateIndex s index)
  refine quiet_named fun t e ht h0 he => .guarded ?_ quiet_fail
  obtain ⟨i, hl⟩ := hn t e ht h0 he
  exact MetadataIndex.quiet_createIfMissing (hs.isEngine he) hl

end Depot

end ContentDepot
