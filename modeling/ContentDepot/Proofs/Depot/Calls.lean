import ContentDepot.Proofs.Depot.Operations
import ContentDepot.Proofs.Index.Forms

/-!
# Calls on a depot

The calls of a session on its depot, over live backends in memory
(`Session.IsOver`). A call is a write or changes no document:

* `keeps_call`: a call that is no write changes no document;
* `indexed_of_receipt`: a write that gave a receipt has indexed its request
  (`Session.Indexed`), under the identifier and the hash that the receipt names;
* `lookUp_of_target`: a look-up shows the document that is there.
-/

namespace ContentDepot

open InMemory Address Exchange MetadataIndex

namespace DepotCall

/-- Whether a call writes to an index. -/
def isWrite : DepotCall → Bool
  | indexFile _ | storeAndIndexFile _ _ => true
  | _ => false

/-- The request of a call that writes to an index. -/
def request? : DepotCall → Option IndexRequest
  | indexFile r | storeAndIndexFile _ r => r
  | _ => none

/-- The hash under which a call writes: that of its request, or of the content it stores. -/
def hash? : DepotCall → Option String
  | indexFile r => r.bind (·.hash)
  | storeAndIndexFile content _ => content.map Blobs.hashOf
  | _ => none

/-- The index that a call other than a write or a look-up names. -/
def index? : DepotCall → Option Json
  | metadataByHash index _ | searchFiles index _ _ | createIndex index => some index
  | _ => none

end DepotCall

/-- The receipt that a call gave. -/
def Outcome.receipt? : Outcome → Option Receipt
  | receipt r => some r
  | _ => none

theorem Outcome.receipt?_eq_some {o : Outcome} {r : Receipt} :
    o.receipt? = some r ↔ o = .receipt r := by
  cases o <;> simp [receipt?]

/-- Why a call failed. -/
def Outcome.failure? : Outcome → Option Failure
  | failed f => some f
  | _ => none

theorem Outcome.failed_of_isSome {o : Outcome} (h : o.failure?.isSome = true) :
    ∃ f, o = .failed f := by
  cases o <;> first | exact ⟨_, rfl⟩ | cases h

/-- An identifier that the engine makes begins like all of them. -/
theorem head?_auto (t : String) : ("auto" ++ t).toList.head? = some 'a' := by
  rw [String.toList_append]
  rfl

namespace Session

/-- A session over live backends, as settings name them. -/
structure IsOver (σ : Session) (s : Settings) : Prop where
  installation : σ.installation = .remote s
  live : σ.world.Live

/-- A session that has just begun. -/
def fresh (s : Settings) : Session :=
  ⟨.remote s, ⟨s, none, none⟩, true, .initial, .initial true⟩

theorem isOver_fresh (s : Settings) : (fresh s).IsOver s := ⟨rfl, rfl, rfl, rfl⟩

variable {s : Settings} {σ : Session} {c : DepotCall} {receipt : Receipt} {r : IndexRequest}
  {e : Endpoint}

theorem IsOver.call_eq (h : σ.IsOver s) (c : DepotCall) :
    σ.call (.depot c) = σ.talk (c.perform (.remote s)) := by
  unfold call
  rw [h.installation]
  rfl

theorem IsOver.call (h : σ.IsOver s) (c : DepotCall) : (σ.call (.depot c)).2.IsOver s :=
  ⟨h.installation, World.live_run _ _ h.live⟩

/-- A call that is no write changes no document. -/
theorem keeps_call (hs : s.HostsAreRoots) (h : σ.IsOver s)
    (hl : ∀ index, c.index? = some index → Depot.NameLeads s index) (hc : c.isWrite = false) :
    σ.world.Keeps (σ.call (.depot c)).2.world := by
  rw [h.call_eq]
  cases c with
  | storeFile content => exact keeps_talk (Depot.quiet_storeFile content) h.live
  | indexFile request => cases hc
  | storeAndIndexFile content request => cases hc
  | fileByHash hash => exact keeps_talk (Depot.quiet_fileByHash hash) h.live
  | metadataById index id => exact keeps_talk (Depot.quiet_metadataById hs index id) h.live
  | metadataByHash index hash =>
    exact keeps_talk (Depot.quiet_metadataByHash hs (hl index rfl) hash) h.live
  | searchFiles index query pageable =>
    exact keeps_talk (Depot.quiet_searchFiles hs (hl index rfl) query pageable) h.live
  | createIndex index => exact keeps_talk (Depot.quiet_createIndex hs (hl index rfl)) h.live

/-! ## Writes -/

/-- What a write has done that gave a receipt. -/
structure Indexed (s : Settings) (σ : Session) (c : DepotCall) (receipt : Receipt)
    (r : IndexRequest) (e : Endpoint) : Prop where
  endpoint : s.endpoint? .engine = some e
  isEngine : e.IsEngine
  request : c.request? = some r
  hash : c.hash? = some receipt.hash
  name : r.index ≠ ""
  index : receipt.index = Text.lower r.index
  id : receipt.id = σ.world.engine.idFor (given r.id)
  reaches : ∀ t, given r.id = some t → Reaches e receipt.index t
  leads : ∃ index, e.address.Leads receipt.index index
  refreshes : ∃ url, e.address.target (reference receipt.index ["_refresh".toList]) = .ok url
  form : r.HasForm s.fillAbsent
  wrote : ∀ index, e.address.Leads receipt.index index →
    σ.world.engine.Wrote index (given r.id)
      (document s.fillAbsent (.str receipt.hash) (.ofOption r.contentType) (some r.resolvedFields))
      (σ.call (.depot c)).2.world.engine

/-- What indexing has done is what the write has done, if no document was changed before. -/
theorem indexed_of_indexUnder {w₁ : World} {c₁ : Context} {hash : Json} (hs : s.HostsAreRoots)
    (hk : σ.world.Keeps w₁) (hrequest : c.request? = some r)
    (hhash : ∀ t, hash = .str t → c.hash? = some t)
    (h : carry World.answer ((Depot.remote s).indexUnder r hash) c₁ w₁ =
      (.ok receipt, (σ.call (.depot c)).2.context, (σ.call (.depot c)).2.world)) :
    ∃ e, Indexed s σ c receipt r e := by
  obtain ⟨e, he, -⟩ := hs .engine
  obtain ⟨-, -, -, _, hwriting⟩ := Depot.writing_of_indexUnder he h
  obtain ⟨hne, rfl, hi, hid, -, hreaches, hleads, hrefreshes, hwrote⟩ :=
    Depot.indexUnder_ok he (hs.isEngine he) hk.live h
  rw [← hi] at hreaches hleads hrefreshes hwrote
  refine ⟨e, he, hs.isEngine he, hrequest, hhash _ rfl, hne, hi, ?_, hreaches, hleads,
    hrefreshes, hasForm_of_writing (hs.isEngine he) hk.live hwriting, ?_⟩
  · rw [hid, Engine.idFor, Engine.idFor, hk.engine.issued]
  · exact fun index hl => .of_unwritten hk.engine (hwrote index hl) (.refl _)

/-- A write that gave a receipt has indexed its request. -/
theorem indexed_of_receipt (hs : s.HostsAreRoots) (h : σ.IsOver s)
    (hr : (σ.call (.depot c)).1 = .receipt receipt) : ∃ r e, Indexed s σ c receipt r e := by
  have hcall := h.call_eq c
  cases c with
  | indexFile request =>
    have hcarry := carry_of_receipt (hcall ▸ hr)
    rw [← DepotCall.perform, ← hcall] at hcarry
    cases request with
    | none => cases hcarry
    | some r =>
      refine ⟨r, indexed_of_indexUnder hs (.refl h.live) rfl (fun t ht => ?_) hcarry⟩
      show r.hash = some t
      rcases hrh : r.hash with _ | t'
      · rw [hrh] at ht; cases ht
      · rw [hrh] at ht; cases ht; rfl
  | storeAndIndexFile content request =>
    have hcarry := carry_of_receipt (hcall ▸ hr)
    rw [← DepotCall.perform, ← hcall] at hcarry
    cases request with
    | none => cases hcarry
    | some r =>
      unfold Depot.storeAndIndexFile at hcarry
      obtain ⟨_, c₁, w₁, h₁, hcarry⟩ := carry_bind_ok.1 hcarry
      obtain ⟨-, rfl, rfl⟩ := Depot.carry_require_ok.1 h₁
      obtain ⟨hash, c₂, w₂, h₂, hcarry⟩ := carry_bind_ok.1 hcarry
      have hk := (Depot.quiet_storeFile content).keeps h.live h₂
      obtain ⟨bytes, rfl, rfl⟩ := Depot.storeFile_ok hs h.live h₂
      refine ⟨r, indexed_of_indexUnder hs hk rfl (fun t ht => ?_)
        (Depot.carry_reportingOrphan_ok.1 hcarry)⟩
      cases ht
      rfl
  | _ =>
    rw [hcall, DepotCall.perform, talk_ofAction] at hr
    unfold Outcome.ofResult at hr
    split at hr <;> cases hr

namespace Indexed

theorem idFor_given (h : Indexed s σ c receipt r e) :
    (given r.id).getD receipt.id = receipt.id := by
  rw [h.id]
  cases given r.id <;> rfl

/-- The identifier of a receipt is neither empty nor a step in a path. -/
theorem id_ne (h : Indexed s σ c receipt r e) :
    receipt.id ≠ "" ∧ receipt.id ≠ "." ∧ receipt.id ≠ ".." := by
  have hid := h.id
  rcases hg : given r.id with _ | t
  · rw [hg] at hid
    have hhead := head?_auto (toString (σ.world.engine.issued + 1))
    rw [show "auto" ++ toString (σ.world.engine.issued + 1) = receipt.id from hid.symm] at hhead
    refine ⟨?_, ?_, ?_⟩ <;> intro h0 <;> rw [h0] at hhead <;> exact absurd hhead (by decide)
  · rw [hg] at hid
    obtain rfl : receipt.id = t := hid
    obtain ⟨h1, h2, -⟩ := h.reaches _ hg
    exact ⟨(given_eq_some hg).2, h1, h2⟩

/-- The document under an identifier that the request gave can be asked for. -/
theorem target_of_given (h : Indexed s σ c receipt r e) (hid : r.id = some receipt.id) :
    ∃ url, e.address.target (documentPath receipt.index (.str receipt.id)) = .ok url := by
  have hg : given r.id = some receipt.id := by
    rw [hid, given, Option.filter_some, if_pos (by simpa using h.id_ne.1)]
  exact (h.reaches _ hg).2.2

end Indexed

/-! ## Look-ups -/

/-- A look-up whose address is admitted shows the document that is there. -/
theorem lookUp_of_target {i id index : String} {url : Url} (h : σ.IsOver s)
    (hs : s.endpoint? .engine = some e) (he : e.IsEngine)
    (hl : e.address.Leads (Text.lower i) index) (hf : σ.world.engine.failing = none) (hi : i ≠ "")
    (h0 : id ≠ "") (h1 : id ≠ ".") (h2 : id ≠ "..")
    (ht : e.address.target (documentPath (Text.lower i) (.str id)) = .ok url) :
    (σ.call (.depot (.metadataById (.str i) (.str id)))).1 =
      match Entries.get? (σ.world.engine.documents index) id with
        | some d => .metadata (.ofDocument index id d)
        | none => .failed (.error (.noDocument (Text.lower i) (.str id))) := by
  rw [h.call_eq, DepotCall.perform, talk_ofAction,
    Depot.metadataById_of_target hs he hl h.live hf hi h0 h1 h2 ht]
  rcases Entries.get? (σ.world.engine.documents index) id with _ | d <;> rfl

/-- A look-up whose address is not admitted fails for that reason. -/
theorem lookUp_of_refused {i id : String} {f : Fault} (h : σ.IsOver s)
    (hs : s.endpoint? .engine = some e) (hi : i ≠ "") (h0 : id ≠ "")
    (ht : e.address.target (documentPath (Text.lower i) (.str id)) = .error f) :
    (σ.call (.depot (.metadataById (.str i) (.str id)))).1 =
      .failed (.error (.failed .lookingUp (.fault f))) := by
  rw [h.call_eq, DepotCall.perform, talk_ofAction, Depot.metadataById_of_refused hs hi h0 ht]
  rfl

end Session

end ContentDepot
