import ContentDepot.Proofs.Index.Certainty
import ContentDepot.Proofs.Session.Steps

/-!
# What a call changes, however it ends

A call may break off after any of its requests. Still it writes one document at most
(`WroteAtMost`): below a name that leads to an index, whatever the engine answers,

* `writing_atMost`: a write puts its source into the document of its identifier, or
  changes no document;
* `Session.atMost_write`: so does a call that writes;
* `Session.unwritten_call`: every other call changes no document.
-/

namespace ContentDepot

open Exchange InMemory Address Text.DotSegments

namespace InMemory.Engine

/-- No document has changed, or the one of an index under the identifier that is given. -/
def WroteAtMost (e : Engine) (index : String) (given : Option String) (source : Document)
    (e' : Engine) : Prop :=
  Unwritten e e' ∨ Wrote e index given source e'

variable {e e₁ e₂ e' : Engine} {index : String} {given : Option String} {source : Document}

theorem WroteAtMost.of_unwritten (hw : WroteAtMost e₁ index given source e₂)
    (h : Unwritten e e₁) (h' : Unwritten e₂ e') : WroteAtMost e index given source e' :=
  hw.imp (fun hw => (h.trans hw).trans h') fun hw => .of_unwritten h hw h'

end InMemory.Engine

/-- A quiet operation leaves the documents as they are, however it ends. -/
theorem Quiet.wp {ε α : Type} {x : ExceptT ε Exchange α} (h : Quiet x) (st : Standing) :
    WP st x (fun _ st' => st.engine.Unwritten st'.engine)
      (fun _ st' => st.engine.Unwritten st'.engine) := by
  refine ⟨?_⟩
  rintro c w hw rfl
  have hk := (h c w hw).engine
  generalize carry World.answer x c w = result at hk ⊢
  obtain ⟨e | a, c', w'⟩ := result <;> exact hk

namespace MetadataIndex

variable {e : Endpoint} {name index : String} {st : Standing} {id : Option String}
  {source : Entries Json}

/-- The question whether a document is there changes none; where the engine works the answer is
true, and an identifier that could be asked for is no step in a path. -/
theorem documentExists_told (he : e.IsEngine) (hl : e.address.Leads name index) :
    WP st (documentExists e name (.ofOption id))
      (fun isThere st' => st.engine.Unwritten st'.engine ∧
        (isThere = true → (given id).isSome = true) ∧
        (st.engine.failing = none →
          isThere = ((given id).bind (Entries.get? (st.engine.documents index))).isSome ∧
            ∀ t, given id = some t → t ≠ "." ∧ t ≠ ".."))
      (fun _ st' => st.engine.Unwritten st'.engine) := by
  refine ⟨?_⟩
  rintro c w hw rfl
  have hk := ((quiet_documentExists he (.ofOption id) : Quiet (documentExists e name _)) c w
    hw).engine
  rcases hc : carry World.answer (documentExists e name (.ofOption id)) c w with
    ⟨t | isThere, c', w'⟩
  · rw [hc] at hk
    exact hk
  · rw [hc] at hk
    refine ⟨hk, fun ht => given_of_documentExists (ht ▸ hc), fun hf => ?_⟩
    obtain ⟨hthere, hreaches⟩ := documentExists_ok he hl hw hf hc
    exact ⟨hthere, fun t ht => ⟨(hreaches t ht).1, (hreaches t ht).2.1⟩⟩

/-- The request that writes a document writes the one of the identifier, or none. -/
theorem writeDocument_atMost {isThere : Bool} (he : e.IsEngine) (hl : e.address.Leads name index)
    (hgiven : isThere = true → (given id).isSome = true)
    (htold : st.engine.failing = none →
      isThere = ((given id).bind (Entries.get? (st.engine.documents index))).isSome ∧
        ∀ t, given id = some t → t ≠ "." ∧ t ≠ "..") :
    WP st (writeDocument e name (.ofOption id) isThere source)
      (fun _ st' => st.engine.WroteAtMost index (given id) source st'.engine)
      (fun _ st' => st.engine.Unwritten st'.engine) := by
  obtain ⟨verb, segments, payload, hverb, hanchored, hcall, hcases⟩ :=
    writeDocument_eq e name source hgiven
  rw [hcall]
  refine .call_engine he (fun _ => .refl _) fun r hr resp _ => ?_
  rcases hf : st.engine.failing with _ | status
  swap
  · rw [Engine.answer_of_failing hf]
    exact .inl (.refl _)
  obtain ⟨hthere, hstep⟩ := htold hf
  have hs := segments_of_sends hl hanchored hr
  refine .inr ?_
  rcases hcases with ⟨rfl, rfl, t, hg, rfl⟩ | ⟨rfl, rfl, rfl⟩
  · rw [hg] at hthere ⊢
    obtain ⟨d, hd⟩ := Option.isSome_iff_exists.1 hthere.symm
    obtain ⟨h1, h2⟩ := hstep t hg
    rw [foldl_segment isWord_update h1 h2, meanings_segment isWord_update] at hs
    exact (Engine.answer_update hf hs hr.payload hd).2
  · have hno : (given id).bind (Entries.get? (st.engine.documents index)) = none :=
      Option.isNone_iff_eq_none.1 (by simpa using hthere.symm)
    refine (Engine.answer_create hf (hr.verb ▸ hverb) ?_ hr.payload hno).2
    rw [hs]
    rcases hg : given id with _ | t
    · exact congrArg (index :: ·) ((congrArg meanings (foldl_word isWord_doc)).trans
        (meanings_word isWord_doc))
    · obtain ⟨h1, h2⟩ := hstep t hg
      exact congrArg (index :: ·) ((congrArg meanings (foldl_segment isWord_doc h1 h2)).trans
        (meanings_segment isWord_doc t))

/-- A write changes the document of its identifier at most, however it ends. -/
theorem writing_atMost {writable : Bool} (he : e.IsEngine) (hl : e.address.Leads name index) :
    WP st (writing e name (.ofOption id) source writable)
      (fun _ st' => st.engine.WroteAtMost index (given id) source st'.engine)
      (fun _ st' => st.engine.WroteAtMost index (given id) source st'.engine) := by
  unfold writing
  refine .bind (((quiet_createIfMissing he hl).wp st).mono (fun _ _ h => h) fun _ _ h => .inl h)
    fun _ st₁ h₁ => ?_
  refine .bind ((documentExists_told he hl).mono (fun _ _ h => h) fun _ _ h =>
    .inl (h₁.trans h)) ?_
  rintro isThere st₂ ⟨h₂, hgiven, htold⟩
  have hunwritten := h₁.trans h₂
  cases writable with
  | false => exact .throw_bind (.inl hunwritten)
  | true =>
    simp only [Bool.not_true, Bool.false_eq_true, if_false]
    rw [← h₂.failing, ← h₂.documents] at htold
    refine .bind (m := fun _ st' => st.engine.WroteAtMost index (given id) source st'.engine)
      ((writeDocument_atMost he hl hgiven htold).mono
        (fun _ _ h => h.of_unwritten hunwritten (.refl _)) fun _ _ h => .inl (hunwritten.trans h))
      fun r st₃ h₃ => ?_
    refine .check_bind (fun _ _ => h₃) fun _ => .ofRead_bind (fun _ _ => h₃) fun _ _ =>
      .ofRead_bind (fun _ _ => h₃) fun _ _ => ?_
    rw [show "/" ++ name ++ "/_refresh" = reference name ["_refresh".toList] from
      path_word_eq name "_refresh"]
    refine .bind (.call_engine he (fun _ => h₃) fun req hr resp _ => ?_) fun r' st₄ h₄ =>
      .check_bind (fun _ _ => h₄) fun _ => .pure h₄
    have hs := segments_of_sends hl (anchored_word isWord_refresh) hr
    rw [foldl_word isWord_refresh, meanings_word isWord_refresh] at hs
    refine h₃.of_unwritten (.refl _) ?_
    rcases hf : st₃.engine.failing with _ | status
    · exact Engine.answer_refresh hf hs
    · rw [Engine.answer_of_failing hf]
      exact .refl _

end MetadataIndex

namespace WP

variable {s : Settings} {e : Endpoint} {st : Standing} {r : IndexRequest} {index : String}

/-- Some hash has been indexed with the request, or no document has changed. -/
def Indexes (s : Settings) (r : IndexRequest) (index : String) (st st' : Standing) : Prop :=
  ∃ hash, st.engine.WroteAtMost index (MetadataIndex.given r.id)
    (MetadataIndex.document s.fillAbsent hash (.ofOption r.contentType) (some r.resolvedFields))
    st'.engine

theorem indexUnder_atMost (he : s.endpoint? .engine = some e) (hengine : e.IsEngine)
    (hl : r.index ≠ "" → e.address.Leads (Text.lower r.index) index) (hash : Json) :
    WP st ((Depot.remote s).indexUnder r hash) (fun _ st' => Indexes s r index st st')
      (fun _ st' => Indexes s r index st st') := by
  have hnone : Indexes s r index st st := ⟨hash, .inl (.refl _)⟩
  refine .require_bind hnone fun hb => .require_bind hnone fun _ => .bind (.shielded ?_)
    fun _ _ h => .ofChecked (fun _ _ => h) fun _ => h
  show WP st (MetadataIndex.remoteWrite s (.str r.index) (.ofOption r.id) hash
    (.ofOption r.contentType) (some r.resolvedFields)) _ _
  refine .require_bind hnone fun _ => .require_bind hnone fun _ => .lowered_bind hb hnone
    fun t ht h0 => .connected_bind he (.guarded ?_)
  cases ht
  exact (MetadataIndex.writing_atMost hengine (hl h0)).mono (fun _ _ h => ⟨hash, h⟩)
    fun _ _ h => .fail ⟨hash, h⟩

end WP

namespace Session

variable {s : Settings} {σ : Session} {c : DepotCall} {r : IndexRequest} {e : Endpoint}
  {index : String}

/-- A call that writes indexes its request at most, however it ends. -/
theorem atMost_write (h : σ.IsOver s) (he : s.endpoint? .engine = some e) (hengine : e.IsEngine)
    (hr : c.request? = some r)
    (hl : r.index ≠ "" → e.address.Leads (Text.lower r.index) index) :
    WP.Indexes s r index σ.standing (σ.call (.depot c)).2.standing := by
  have hcall : ∀ action : Action Receipt,
      WP σ.standing action (fun _ st' => WP.Indexes s r index σ.standing st')
        (fun _ st' => WP.Indexes s r index σ.standing st') →
      WP.Indexes s r index σ.standing
        (σ.talk (Outcome.ofAction .receipt action)).2.standing := by
    intro action hwp
    rcases hwp.talk (g := .receipt) h.live with ⟨_, -, hi⟩ | ⟨_, -, hi⟩ <;> exact hi
  rw [h.call_eq]
  cases c with
  | indexFile request =>
    obtain rfl : request = some r := hr
    exact hcall _ (.indexUnder_atMost he hengine hl _)
  | storeAndIndexFile content request =>
    obtain rfl : request = some r := hr
    have hnone : WP.Indexes s r index σ.standing σ.standing := ⟨.null, .inl (.refl _)⟩
    refine hcall _ (.require_bind hnone fun _ => .bind
      (((Depot.quiet_storeFile content).wp _).mono (fun _ _ h => h)
        fun _ _ h => ⟨.null, .inl h⟩) fun hash st' hst => .reportingOrphan ?_)
    exact (WP.indexUnder_atMost he hengine hl hash).mono
      (fun _ _ ⟨hash, h⟩ => ⟨hash, h.of_unwritten hst (.refl _)⟩)
      fun _ _ ⟨hash, h⟩ => ⟨hash, h.of_unwritten hst (.refl _)⟩
  | _ => cases hr

/-- A call that has nothing to index changes no document. -/
theorem unwritten_call (hs : s.HostsAreRoots) (h : σ.IsOver s)
    (hl : ∀ index, c.index? = some index → Depot.NameLeads s index) (hr : c.request? = none) :
    σ.world.engine.Unwritten (σ.call (.depot c)).2.world.engine := by
  cases hc : c.isWrite with
  | false => exact (keeps_call hs h hl hc).engine
  | true =>
    rw [h.call_eq]
    cases c with
    | indexFile request =>
      obtain rfl : request = none := hr
      exact .refl _
    | storeAndIndexFile content request =>
      obtain rfl : request = none := hr
      exact .refl _
    | _ => cases hc

end Session

end ContentDepot
