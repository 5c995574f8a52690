import ContentDepot.Proofs.Exchange.Prefixes
import ContentDepot.Proofs.Index.WriteOrder
import ContentDepot.Proofs.Index.Writing
import ContentDepot.Proofs.Session.Refusals
import ContentDepot.Proofs.Session.Soundness

/-!
# What a write may change, wherever it breaks off

A write to an index under a given identifier may break off at each of its requests,
and be tried again. Whatever is carried out of it, no document changes but the one
under the identifier (`World.Touches`), and one change goes over another.

* `DocumentWrite.touches_of_sends`: each request of the plan changes at most that document;
* `DocumentWrite.carriedOut_of_through`: a plan that is gone through ends with a write and a
  refresh that were carried out (`DocumentWrite.IsCarriedOut`);
* `DocumentWrite.IsCarriedOut.pointsTo`, `DocumentWrite.IsCarriedOut.put`: and these have put the
  document that was sent into an index, whatever the address of the engine is made of.
-/

namespace ContentDepot

open InMemory Text.DotSegments Address MetadataIndex

/-! ## What may change -/

/-- Nothing has changed but the document under an identifier, if at all, and that a content may have
been added. -/
structure World.Touches (index id : String) (content : Bytes) (w w' : World) : Prop where
  engine : w.engine.Touches index id w'.engine
  contents : w'.contents = w.contents ∨ w'.contents = w.contents.add content

namespace World.Touches

variable {index id : String} {content : Bytes} {w w' w'' : World}

theorem refl (w : World) : w.Touches index id content w := ⟨.refl _, .inl rfl⟩

theorem trans (h : w.Touches index id content w') (h' : w'.Touches index id content w'') :
    w.Touches index id content w'' := by
  refine ⟨h.engine.trans h'.engine, ?_⟩
  rcases h.contents with hc | hc <;> rcases h'.contents with hc' | hc' <;> rw [hc] at hc'
  · exact .inl hc'
  · exact .inr hc'
  · exact .inr hc'
  · rw [Blobs.add_add] at hc'
    exact .inr hc'

end World.Touches

/-- A request that changes at most a document, and adds at most a content. -/
def Request.Touches (index id : String) (content : Bytes) (r : Request) : Prop :=
  ∀ w : World, w.Live → w.Touches index id content (World.answer r w).2

section Requests

variable {index id : String} {content : Bytes} {r : Request}

theorem Request.touches_of_engine (hb : r.backend = .engine)
    (h : ∀ engine : Engine, engine.Touches index id (engine.answer r).2) :
    r.Touches index id content := by
  intro w hw
  rw [World.answer_engine hw hb]
  exact ⟨h w.engine, .inl rfl⟩

theorem Request.touches_of_content (hb : r.backend = .content) (hp : r.payload = .file content) :
    r.Touches index id content := by
  intro w hw
  rw [World.answer_content hw hb]
  refine ⟨.refl _, (Blobs.answer_left w.contents r).imp_right ?_⟩
  rintro ⟨content', hp', hadded⟩
  cases hp.symm.trans hp'
  exact hadded

/-- What backends undergo in the course of such requests. -/
theorem Undergoes.touches {w w' : World} {t : Traffic} (h : Undergoes w t w') (hw : w.Works)
    (ht : ∀ m ∈ t, m.1.Touches index id content) : w'.Works ∧ w.Touches index id content w' := by
  refine h.keeps (P := fun u => u.Works ∧ w.Touches index id content u) ?_ ⟨hw, .refl w⟩
  rintro m hm u ⟨hu, htouches⟩
  exact ⟨hu.answer m.1, htouches.trans (ht m hm u hu.live)⟩

end Requests

/-! ## The requests of a write -/

namespace DocumentWrite

variable {i : DocumentWrite} {e : Endpoint} {index id : String} {known created isThere : Bool}
  {written hash : Json}

theorem write_new (hid : i.id = .str id) (h0 : id ≠ "") :
    i.write false = ⟨.put, reference i.index ["_doc".toList, (Text.Percent.segment id).toList], [],
      .json (.obj i.source), i.writable⟩ := by
  have hgiven : i.id.truthy = true := by
    rw [hid]
    simpa [Json.truthy] using h0
  unfold write
  rw [hgiven, hid]
  exact congrArg (Ask.mk .put · [] _ _) (path_segment_eq i.index "_doc" id)

theorem write_known (hid : i.id = .str id) (h0 : id ≠ "") :
    i.write true = ⟨.post, reference i.index ["_update".toList, (Text.Percent.segment id).toList],
      [], .json (.obj [("doc", .obj i.source)]), i.writable⟩ := by
  have hgiven : i.id.truthy = true := by
    rw [hid]
    simpa [Json.truthy] using h0
  unfold write
  rw [hgiven, hid]
  exact congrArg (Ask.mk .post · [] _ _) (path_segment_eq i.index "_update" id)

/-- A request leads where its URL leads. -/
theorem segments_of_makes {a : Ask} {url : Url} {r : Request} (hm : a.Makes e url r) :
    Engine.segments r.path = Engine.segments (String.ofList url.path) :=
  (Endpoint.made_of_request hm.request).2.2.segments

/-- The one write leads to the document under the identifier. -/
theorem segments_of_write (hl : e.address.PointsTo i.index index) (hid : i.id = .str id)
    (hseg : IsSegment id) {url : Url} {r : Request} (hm : (i.write isThere).Makes e url r) :
    Engine.segments r.path = [index, if isThere then "_update" else "_doc", id] := by
  have htarget := hm.target
  rw [segments_of_makes hm]
  cases isThere with
  | false =>
    rw [write_new hid hseg.ne_empty] at htarget
    exact hl.segment isWord_doc hseg htarget
  | true =>
    rw [write_known hid hseg.ne_empty] at htarget
    exact hl.segment isWord_update hseg htarget

theorem segments_of_refresh (hl : e.address.PointsTo i.index index) {url : Url} {r : Request}
    (hm : i.refresh.Makes e url r) : Engine.segments r.path = [index, "_refresh"] :=
  (segments_of_makes hm).trans
    (hl.word isWord_refresh (path_word_eq i.index "_refresh" ▸ hm.target))

/-- Each request of the plan changes at most the document under the identifier. -/
theorem touches_of_sends (hl : e.address.PointsTo i.index index) (hid : i.id = .str id)
    (hid' : IsSegment id) {stage : Stage}
    (hstage : stage ∈ i.plan known created isThere written) {r : Request} (hs : stage.Sends e r)
    (engine : Engine) : engine.Touches index id (engine.answer r).2 := by
  obtain ⟨url, hm⟩ := hs
  have hmade := (Endpoint.made_of_request hm.request).2.2
  obtain ⟨ask, passes⟩ := stage
  cases isPart_of_mem_plan i hstage with
  | head => exact .of_unwritten (Engine.answer_unwritten hmade.payload (.inr hmade.verb))
  | get => exact .of_unwritten (Engine.answer_unwritten hmade.payload (.inl hmade.verb))
  | put =>
    have hseg : Engine.segments r.path = [index] :=
      (segments_of_makes hm).trans (hl.nil (indexPath_eq i.index ▸ hm.target))
    exact .of_unwritten (Engine.answer_unwritten_of_index hseg)
  | write =>
    have hseg := segments_of_write hl hid hid' hm
    cases isThere with
    | false =>
      have hverb := congrArg Ask.verb (write_new (i := i) hid hid'.ne_empty)
      exact Engine.touches_store (.inl (hmade.verb.trans hverb)) hseg
    | true => exact Engine.touches_overlay hseg
  | refresh =>
    rcases hf : engine.failing with _ | status
    · exact .of_unwritten (Engine.answer_refresh hf (segments_of_refresh hl hm))
    · rw [Engine.answer_of_failing hf]
      exact .refl engine

/-! ## A write that is carried out -/

/-- A write and a refresh that an engine has carried out with success. -/
structure IsCarriedOut (e : Endpoint) (i : DocumentWrite) (isThere : Bool)
    (before after : Engine) (url url' : Url) (r r' : Request) : Prop where
  write : (i.write isThere).Makes e url r
  refresh : i.refresh.Makes e url' r'
  reports : (Engine.idOf? (before.answer r).1).isSome = true
  refreshes : ∃ resp, ((before.answer r).2.answer r').1 = .response resp ∧ resp.isSuccess = true
  after : ((before.answer r).2.answer r').2 = after

/-- Where a plan has been gone through, its write and its refresh were carried out. -/
theorem carriedOut_of_through (he : e.backend = .engine) {w w' : World} {t : Traffic}
    (hw : w.Live) (h : Through e (i.plan known created isThere written) t)
    (hu : Undergoes w t w') : ∃ (t₁ t₂ : Traffic) (w₁ : World), t = t₁ ++ t₂ ∧
      Undergoes w t₁ w₁ ∧ ∃ url url' r r',
        i.IsCarriedOut e isThere w₁.engine w'.engine url url' r r' := by
  obtain ⟨t₁, t₂, rfl, -, hwriting⟩ := Follows.exists_append_of_through h
  obtain ⟨w₁, hu₁, hu₂⟩ := Undergoes.append_iff.1 hu
  have hw₁ := hu₁.keeps (P := World.Live) (fun m _ u hu => World.live_answer hu m.1) hw
  refine ⟨t₁, t₂, w₁, rfl, hu₁, ?_⟩
  obtain ⟨m, _, ⟨url, resp, hwrite, -, hresp, hs, members, hj, hid⟩, hrest, rfl⟩ :=
    List.forall₂_cons_left_iff.1 hwriting
  obtain ⟨m', _, ⟨url', resp', hrefresh, -, hresp', hs'⟩, hnil, rfl⟩ :=
    List.forall₂_cons_left_iff.1 hrest
  cases hnil
  have hbackend : ∀ {a : Ask} {url : Url} {r : Request}, a.Makes e url r → r.backend = .engine :=
    fun hm => (Endpoint.made_of_request hm.request).1.trans he
  obtain ⟨hans, w₂, hw₂, hengine, hu₂⟩ := hu₂.of_engine_success hw₁ (hbackend hwrite) hresp hs
  obtain ⟨hans', w₃, -, hengine', hu₃⟩ := hu₂.of_engine_success hw₂ (hbackend hrefresh) hresp' hs'
  cases hu₃
  rw [hengine] at hans' hengine'
  refine ⟨url, url', m.1, m'.1, hwrite, hrefresh, ?_, ⟨resp', hans', hs'⟩, hengine'.symm⟩
  rw [hans, Engine.idOf?_of_itemAt hj (x := written) (by simp only [Json.itemAt, hid])]
  rfl

namespace IsCarriedOut

variable {before after : Engine} {url url' : Url} {r r' : Request}

/-- Only below an index can a document be written, so the name of a write that is carried out points
to one. -/
theorem pointsTo (h : i.IsCarriedOut e isThere before after url url' r r')
    (ha : ∃ path, e.address.base.resource = path ++ ['/']) (hn : i.index ≠ "")
    (hid : i.id = .str id) (hseg : IsSegment id) : ∃ index, e.address.PointsTo i.index index := by
  obtain ⟨path, ha⟩ := ha
  obtain ⟨base, ends, hbase⟩ := segments_below ha hn
  obtain ⟨resp, hans, hs⟩ := h.refreshes
  have hmade := (Endpoint.made_of_request h.write.request).2.2
  have hmade' := (Endpoint.made_of_request h.refresh.request).2.2
  have hwrite := h.write.target
  have hclear : ∀ s ∈ ["_refresh".toList], IsClear s := fun s hs =>
    List.mem_singleton.1 hs ▸ isWord_refresh.isClear
  have hrefresh := (segments_of_makes h.refresh).trans
    (hbase _ url' hclear (path_word_eq i.index "_refresh" ▸ h.refresh.target))
  rw [meanings_word isWord_refresh] at hrefresh
  obtain ⟨more, hverb, hwrite⟩ : ∃ more, (r.verb = .put ∨ r.verb = .post) ∧
      Engine.segments r.path = if ends then base else base ++ more := by
    rw [segments_of_makes h.write]
    cases isThere with
    | false =>
      rw [write_new hid hseg.ne_empty] at hwrite hmade
      exact ⟨_, .inl hmade.verb, hbase _ url (isClear_word_segment isWord_doc hseg) hwrite⟩
    | true =>
      rw [write_known hid hseg.ne_empty] at hwrite hmade
      exact ⟨_, .inr hmade.verb, hbase _ url (isClear_word_segment isWord_update hseg) hwrite⟩
  obtain ⟨rfl, index, rfl⟩ := singleton_of_answers hverb hwrite h.reports hmade'.verb
    hmade'.payload hrefresh hans hs
  exact ⟨index, fun segments u hsegments hu => hbase segments u hsegments hu⟩

/-- The document that was sent is put under the identifier, over the one that is there or in its
place. -/
theorem put (h : i.IsCarriedOut e isThere before after url url' r r')
    (hl : e.address.PointsTo i.index index) (hid : i.id = .str id) (hid' : IsSegment id)
    (hf : before.failing = none) :
    ∃ d, (d = i.source ∨ ∃ old, d = Entries.putAll old i.source) ∧ ∀ other,
      after.documents other = if index = other then Entries.put (before.documents index) id d
        else before.documents other := by
  have hseg := segments_of_write hl hid hid' h.write
  have hmade := (Endpoint.made_of_request h.write.request).2.2
  have hrefresh := Engine.answer_refresh ((Engine.failing_answer before r).trans hf)
    (segments_of_refresh hl h.refresh)
  rw [h.after] at hrefresh
  cases isThere with
  | false =>
    rw [write_new hid hid'.ne_empty] at hmade
    replace hseg : Engine.segments r.path = index :: "_doc" :: (some id).toList := hseg
    obtain ⟨-, hleft⟩ := Engine.answer_store hf (.inl hmade.verb) hseg hmade.payload
    refine ⟨i.source, .inl rfl, fun other => ?_⟩
    rw [hrefresh.documents, hleft]
    exact Engine.documents_putDocument before index id i.source other
  | true =>
    rw [write_known hid hid'.ne_empty] at hmade
    rcases hd : Entries.get? (before.documents index) id with _ | old
    · have hreports := h.reports
      rw [Engine.idOf?_overlay_of_none hf hseg hd] at hreports
      cases hreports
    · obtain ⟨-, hleft⟩ := Engine.answer_overlay hf hseg hmade.payload hd
      refine ⟨_, .inr ⟨old, rfl⟩, fun other => ?_⟩
      rw [hrefresh.documents, hleft]
      exact Engine.documents_putDocument before index id _ other

end IsCarriedOut

end DocumentWrite

end ContentDepot
