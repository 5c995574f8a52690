import ContentDepot.Proofs.Depot.Blindness
import ContentDepot.Proofs.Depot.Order

/-!
# Failed calls are invisible

A call that fails changes nothing, however far it came: while the engine works a
write whose addresses are admitted does not fail at all
(`WP.storeAndIndexFile_admitted`), and while it fails no request changes anything
(`WP.storeAndIndexFile_undone`). Only a content that was stored before its indexing
failed stays, so that later calls give what they would have given, unless they ask
for this content (`failed_call_invisible`).
-/

namespace ContentDepot

open Exchange InMemory Address Text.DotSegments MetadataIndex

/-! ## Addresses of a write -/

namespace MetadataIndex

variable {e : Endpoint} {name : String} {id : Option String}

/-- The paths to which a write may send requests. -/
def writePaths (name : String) (id : Option String) : List String :=
  [indexPath name, "/" ++ name ++ "/_refresh"] ++ match given id with
    | none => ["/" ++ name ++ "/_doc"]
    | some t => [documentPath name (.str t), "/" ++ name ++ "/_update/" ++ segment (.str t)]

theorem no_control_segments {word : String} (hw : IsWord word) (ts : List String) :
    ∀ s ∈ word.toList :: ts.map (fun t => (Text.Percent.segment t).toList),
      ∀ c ∈ s, Url.isControl c = false := by
  intro s hs c hc
  rcases List.mem_cons.1 hs with rfl | hs
  · exact Url.isControl_of_isPathChar (hw.plain c hc).1
  · obtain ⟨t, -, rfl⟩ := List.mem_map.1 hs
    exact Url.isControl_of_isPathChar (segment_plain hc).1

/-- Below a plain name a write is admitted if its paths fit. -/
theorem admits_of_plain (he : e.IsEngine) (hn : IsPlainName name)
    (hid : ∀ t, given id = some t → t ≠ "." ∧ t ≠ "..")
    (hfits : ∀ path ∈ writePaths name id, fits path = true) : Admits e name name id where
  isEngine := he
  leads := leads_of_plain he.root hn
  whole := by
    refine allows_of_fits he hn anchored_nil (fun s hs => by cases hs) ?_
    rw [← indexPath_eq]
    exact hfits _ (by simp [writePaths])
  refresh := by
    refine allows_of_fits he hn (anchored_word isWord_refresh)
      (no_control_segments isWord_refresh []) ?_
    rw [← path_word_eq name "_refresh"]
    exact hfits _ (by simp [writePaths])
  create := by
    rcases hg : given id with _ | t
    · refine allows_of_fits he hn (anchored_word isWord_doc) (no_control_segments isWord_doc []) ?_
      refine (congrArg fits (path_word_eq name "_doc")).symm.trans (hfits _ ?_)
      simp [writePaths, hg]
    · refine allows_of_fits he hn (anchored_segment isWord_doc (given_eq_some hg).2)
        (no_control_segments isWord_doc [t]) ?_
      refine (congrArg fits (documentPath_eq name t)).symm.trans (hfits _ ?_)
      simp [writePaths, hg]
  update t hg := by
    refine allows_of_fits he hn (anchored_segment isWord_update (given_eq_some hg).2)
      (no_control_segments isWord_update [t]) ?_
    refine (congrArg fits (path_segment_eq name "_update" t)).symm.trans (hfits _ ?_)
    simp only [writePaths, hg]
    simp [segment, Json.text]
  no_step := hid

variable {i : String} {st : Standing}

/-- Below an unmarked name a request is in vain, or the engine works and the name is plain. -/
theorem inVain_or_plain (he : e.IsEngine) (hi : IsUnmarked i) (h0 : i ≠ "")
    (hout : IsOutside st.engine.failing) :
    InVain e (Text.lower i) st ∨ st.engine.failing = none ∧ IsPlainName (Text.lower i) := by
  rcases hf : st.engine.failing with _ | status
  · rcases hi.plain_or_control h0 with hplain | ⟨c, hc, hctl⟩
    · exact .inr ⟨rfl, hplain⟩
    · exact .inl (inVain_of_control he hc hctl)
  · exact .inl (inVain_of_failing he hf hout)

/-- Creating an index changes nothing if it fails. -/
theorem createIfMissing_undone (he : e.IsEngine) (hi : IsUnmarked i) (h0 : i ≠ "")
    (hout : IsOutside st.engine.failing) (hfits : fits (indexPath (Text.lower i)) = true)
    (trust : Bool) :
    WP st (createIfMissing e (Text.lower i) trust) (fun _ _ => True) (fun _ st' => st' = st) := by
  rcases inVain_or_plain he hi h0 hout with hvain | ⟨hf, hplain⟩
  · exact (createIfMissing_inVain hvain).mono (fun _ _ _ => trivial) fun _ _ h => h
  · have hwhole : Allows e (Text.lower i) [] := allows_of_fits he hplain anchored_nil
      (fun s hs => by cases hs) (indexPath_eq _ ▸ hfits)
    exact (createIfMissing_admitted he (leads_of_plain he.root hplain) hwhole hf).mono
      (fun _ _ _ => trivial) fun _ _ h => h.elim

/-- A look-up changes nothing. -/
theorem lookingUp_silent {t : String} (he : e.IsEngine) (hi : IsUnmarked i) (h0 : i ≠ "")
    (hout : IsOutside st.engine.failing) (ht : t ≠ "") (h1 : t ≠ ".") (h2 : t ≠ "..") :
    WP st (lookingUp e (Text.lower i) (.str t)) (fun _ st' => st' = st)
      (fun _ st' => st' = st) := by
  unfold lookingUp
  rw [documentPath_eq]
  refine .bind (m := fun _ st' => st' = st) ?_ ?_
  · rcases inVain_or_plain he hi h0 hout with hvain | ⟨-, hplain⟩
    · exact (hvain ..).mono (fun _ _ h => h.1) fun _ _ h => h
    · refine .call_engine he (fun _ => rfl) fun r hr _ _ => ?_
      have hs := segments_of_sends (leads_of_plain he.root hplain)
        (anchored_segment isWord_doc ht) hr
      rw [foldl_segment isWord_doc h1 h2, meanings_segment isWord_doc] at hs
      rw [Engine.answer_of_get hr.verb hs]
  rintro r st rfl
  dsimp only
  split
  · exact .throw_bind rfl
  refine .check_bind (fun _ _ => rfl) fun _ => .ofRead_bind (fun _ _ => rfl) fun v _ =>
    .ofRead_bind (fun _ _ => rfl) fun found _ => ?_
  split
  · exact .throw_bind rfl
  · exact .ofRead (fun _ _ => rfl) fun _ _ => rfl

end MetadataIndex

/-! ## Calls that cannot fail -/

section Certain

variable {s : Settings} {e : Endpoint} {st : Standing} {r : IndexRequest} {index : String}

namespace WP

/-- Indexing succeeds where the engine works, the paths are admitted, and the fields have a written
form. -/
theorem indexUnder_admitted (he : s.endpoint? .engine = some e)
    (ha : Admits e (Text.lower r.index) index r.id) (h0 : r.index ≠ "")
    (hw : r.HasForm s.fillAbsent)
    (hf : st.engine.failing = none) {hash : String} (hh : hash ≠ "") :
    WP st ((Depot.remote s).indexUnder r (.str hash)) (fun _ _ => True) fun _ _ => False := by
  have hwritable : r.resolvedFields.all (·.writable) = true :=
    List.all_eq_true.2 fun f hf => (hw f hf).1
  refine .required_bind (isBlank_str h0) (.required_bind (isBlank_str hh)
    (.bind (m := fun v _ => ∃ t, v = .str t) (.shielded ?_) ?_))
  · show WP st (remoteWrite s (.str r.index) (.ofOption r.id) (.str hash)
      (.ofOption r.contentType) (some r.resolvedFields)) _ _
    refine .required_bind (isBlank_str h0) (.required_bind (isBlank_str hh) ?_)
    show WP st (connected s .engine >>= _) _ _
    refine .connected_bind he (.guarded ?_)
    rw [Option.getD_some, hwritable]
    exact (writing_admitted ha hf (sendable_document_iff.2 fun f hf => (hw f hf).2)).mono
      (fun _ _ h => h) fun _ _ h => h.elim
  · rintro _ st' ⟨t, rfl⟩
    exact .pure trivial

/-- Storing and indexing succeeds where both backends work and the index can be written. -/
theorem storeAndIndexFile_admitted (hs : s.HostsAreRoots) (he : s.endpoint? .engine = some e)
    (ha : Admits e (Text.lower r.index) index r.id) (h0 : r.index ≠ "")
    (hw : r.HasForm s.fillAbsent) (hf : st.engine.failing = none) (hc : st.contents.failing = none)
    (bytes : Bytes) :
    WP st ((Depot.remote s).storeAndIndexFile (some bytes) (some r)) (fun _ _ => True)
      fun _ _ => False := by
  refine .required_bind (isBlank_str h0) (.bind (m := fun v st' => v = .str (Blobs.hashOf bytes) ∧
    st'.engine.failing = none) (.storeFile (hs .content) ?_ fun _ hbytes _ => ?_) ?_)
  · rintro (h | h)
    · cases h
    · exact h hc
  · cases hbytes
    exact ⟨rfl, hf⟩
  · rintro _ st' ⟨rfl, hf'⟩
    exact .reportingOrphan (.indexUnder_admitted he ha h0 hw hf' (Blobs.hashOf_ne_empty bytes))

end WP

end Certain

/-! ## What calls have to do with -/

/-- A request with an index name and an identifier that can be asked for, values that have a
written form, and paths that fit. -/
structure IndexRequest.IsAddressable (r : IndexRequest) : Prop where
  index : IsUnmarked r.index
  id : ∀ t, r.id = some t → t ≠ "." ∧ t ≠ ".."
  fits : ∀ path ∈ writePaths (Text.lower r.index) r.id, Address.fits path = true
  writable : ∀ f ∈ r.allFields, f.writable = true ∧ f.value.sendable = true

/-- A call whose index and identifier can be asked for, and what it writes can be written. -/
def DepotCall.IsAddressable : DepotCall → Prop
  | storeFile _ | fileByHash _ => True
  | indexFile request | storeAndIndexFile _ request => ∀ r, request = some r → r.IsAddressable
  | metadataById index id =>
    (∀ i, index = .str i → IsUnmarked i) ∧
      ∃ t, id = .ofOption t ∧ t ≠ some "." ∧ t ≠ some ".."
  | metadataByHash index _ | searchFiles index _ _ => ∀ i, index = .str i → IsUnmarked i
  | createIndex index =>
    ∀ i, index = .str i → IsUnmarked i ∧ fits (indexPath (Text.lower i)) = true

/-- The content that a call leaves in the store if it fails. -/
def DepotCall.left? (b : Blobs) : DepotCall → Option Bytes
  | storeAndIndexFile content (some r) =>
    if r.index ≠ "" ∧ b.failing = none then content else none
  | _ => none

/-- The contents that a call leaves if it fails. -/
def DepotCall.contentsLeft (b : Blobs) (c : DepotCall) : Blobs :=
  match c.left? b with
  | some bytes => b.add bytes
  | none => b

/-! ## Calls that fail -/

section Undone

variable {s : Settings} {e : Endpoint} {st : Standing} {r : IndexRequest} {index id : Json}

/-- A write changes nothing if it fails, and names a document if it does not. -/
theorem IndexRequest.IsAddressable.writing {fill : Bool} {hash : String} (h : r.IsAddressable)
    (he : e.IsEngine) (h0 : r.index ≠ "") (hout : IsOutside st.engine.failing) :
    WP st (writing e (Text.lower r.index) (.ofOption r.id)
        (document fill (.str hash) (.ofOption r.contentType) (some r.resolvedFields))
        (r.resolvedFields.all (·.writable)))
      (fun v _ => ∃ t, v = .str t) (fun _ st' => st' = st) := by
  rcases inVain_or_plain he h.index h0 hout with hvain | ⟨hf, hplain⟩
  · exact (writing_inVain hvain).mono (fun _ _ h => h.elim) fun _ _ h => h
  · have hform := IndexRequest.hasForm_of_allFields fill h.writable
    have hwritable : r.resolvedFields.all (·.writable) = true :=
      List.all_eq_true.2 fun f hf => (hform f hf).1
    rw [hwritable]
    have hadmits : Admits e (Text.lower r.index) (Text.lower r.index) r.id :=
      admits_of_plain he hplain (fun t ht => h.id t (given_eq_some ht).1) h.fits
    exact (writing_admitted hadmits hf (sendable_document_iff.2 fun f hf => (hform f hf).2)).mono
      (fun _ _ h => h) fun _ _ h => h.elim

namespace WP

/-- Indexing changes nothing if it fails. -/
theorem indexUnder_undone (hs : s.HostsAreRoots) (hr : r.IsAddressable)
    (hout : IsOutside st.engine.failing) (hash : Option String) :
    WP st ((Depot.remote s).indexUnder r (.ofOption hash)) (fun _ _ => True)
      (fun _ st' => st' = st) := by
  obtain ⟨e, he, -⟩ := hs .engine
  refine .require_bind rfl fun hi => .require_bind rfl fun hh => ?_
  cases hash with
  | none => cases hh
  | some hash =>
    refine .bind (m := fun v _ => ∃ t, v = .str t) (.shielded ?_) ?_
    · show WP st (remoteWrite s (.str r.index) (.ofOption r.id) (.str hash)
        (.ofOption r.contentType) (some r.resolvedFields)) _ _
      refine .require_bind rfl fun _ => .require_bind rfl fun _ =>
        .lowered_bind hi rfl fun t ht h0 => .connected_bind he (.guarded ?_)
      cases ht
      exact (hr.writing (hs.isEngine he) h0 hout).mono (fun _ _ h => h) fun _ _ h => .fail h
    · rintro _ st' ⟨t, rfl⟩
      exact .pure trivial

theorem createIndex_undone (hs : s.HostsAreRoots)
    (hi : ∀ i, index = .str i → IsUnmarked i ∧ fits (indexPath (Text.lower i)) = true)
    (hout : IsOutside st.engine.failing) :
    WP st ((Depot.remote s).createIndex index) (fun _ _ => True) (fun _ st' => st' = st) := by
  obtain ⟨e, he, -⟩ := hs .engine
  refine .require_bind rfl fun _ => .named he rfl fun t ht h0 => .guarded ?_
  exact (createIfMissing_undone (hs.isEngine he) (hi t ht).1 h0 hout (hi t ht).2 false).mono
    (fun _ _ h => h) fun _ _ h => .fail h

theorem metadataById_silent (hs : s.HostsAreRoots) (hi : ∀ i, index = .str i → IsUnmarked i)
    (hout : IsOutside st.engine.failing) {id : Option String} (h1 : id ≠ some ".")
    (h2 : id ≠ some "..") :
    WP st ((Depot.remote s).metadataById index (.ofOption id)) (fun _ st' => st' = st)
      (fun _ st' => st' = st) := by
  obtain ⟨e, he, -⟩ := hs .engine
  refine .require_bind rfl fun hb => .require_bind rfl fun hid => .require_bind rfl fun _ =>
    .require_bind rfl fun _ => .lowered_bind hb rfl fun i hi' h0 => .connected_bind he
      (.guarded ?_)
  cases id with
  | none => cases hid
  | some t =>
    have ht : t ≠ "" := by
      rintro rfl
      cases hid
    refine (lookingUp_silent (hs.isEngine he) (hi i hi') h0 hout ht (by simpa using h1)
      (by simpa using h2)).mono (fun _ _ h => h) fun t st' h => ?_
    cases t with
    | absent => exact .emit_bind (.throw h)
    | status code detail => exact .fail h
    | cause c => exact .fail h

end WP

end Undone

/-- Storing and indexing leaves at most the content if it fails. -/
theorem WP.storeAndIndexFile_undone {s : Settings} {st : Standing} {r : IndexRequest}
    (hs : s.HostsAreRoots) (hr : r.IsAddressable) (hout : IsOutside st.engine.failing)
    (content : Option Bytes) :
    WP st ((Depot.remote s).storeAndIndexFile content (some r)) (fun _ _ => True) fun _ st' =>
      st' = { st with
        contents := (DepotCall.storeAndIndexFile content (some r)).contentsLeft st.contents } := by
  by_cases h0 : r.index = ""
  · refine .bind (m := fun _ _ => False) (.require (fun _ => ?_) fun hb => ?_) fun _ _ h => h.elim
    · rw [DepotCall.contentsLeft, DepotCall.left?, if_neg fun h => h.1 h0]
    · rw [h0] at hb
      cases hb
  refine .required_bind (isBlank_str h0) (.bind (m := fun v st' => ∃ bytes,
      v = .str (Blobs.hashOf bytes) ∧ st' = { st with contents := st.contents.add bytes } ∧
        content = some bytes ∧ st.contents.failing = none)
    (.storeFile (hs .content) (fun hno => ?_) fun bytes hc hf => ?_) ?_)
  · have hnone : (DepotCall.storeAndIndexFile content (some r)).left? st.contents = none := by
      show (if r.index ≠ "" ∧ st.contents.failing = none then content else none) = none
      split
      · rename_i h
        exact hno.resolve_right fun h' => h' h.2
      · rfl
    rw [DepotCall.contentsLeft, hnone]
  · exact ⟨bytes, rfl, rfl, hc, hf⟩
  · rintro _ st₁ ⟨bytes, rfl, hst₁, rfl, hf⟩
    have hsome : (DepotCall.storeAndIndexFile (some bytes) (some r)).left? st.contents =
        some bytes := if_pos ⟨h0, hf⟩
    have hleft : { st with
        contents := (DepotCall.storeAndIndexFile (some bytes) (some r)).contentsLeft st.contents } =
          st₁ := by
      rw [DepotCall.contentsLeft, hsome, hst₁]
    have hout₁ : IsOutside st₁.engine.failing := by rwa [hst₁]
    rw [hleft]
    exact .reportingOrphan (.indexUnder_undone hs hr hout₁ (some (Blobs.hashOf bytes)))

namespace Session

variable {s : Settings} {σ : Session} {f : Failure}

/-- A call that has failed leaves what its operation leaves if it fails. -/
theorem standing_of_failed_talk {α : Type} {give : α → Outcome} {action : Action α}
    {left : Standing} {p : α → Standing → Prop} (hw : σ.world.Live)
    (hgive : ∀ a, give a ≠ .failed f) (h : WP σ.standing action p fun _ st => st = left)
    (hf : (σ.talk (Outcome.ofAction give action)).1 = .failed f) :
    (σ.talk (Outcome.ofAction give action)).2.standing = left := by
  rcases h.talk (g := give) hw with ⟨a, ho, -⟩ | ⟨_, -, hleft⟩
  · exact absurd (ho.symm.trans hf) (hgive a)
  · exact hleft

/-- A call that has failed leaves everything as it was, but for the content that it had stored. -/
theorem standing_of_failed (hs : s.HostsAreRoots) (h : σ.IsOver s)
    (hout : IsOutside σ.world.engine.failing) {c : DepotCall} (hc : c.IsAddressable)
    (hf : (σ.call (.depot c)).1 = .failed f) :
    (σ.call (.depot c)).2.standing =
      { σ.standing with contents := c.contentsLeft σ.world.contents } := by
  rw [h.call_eq] at hf ⊢
  cases c with
  | storeFile content =>
    exact standing_of_failed_talk (p := fun _ _ => True) h.live (fun _ h => by cases h)
      (.storeFile (hs .content) (fun _ => rfl) fun _ _ _ => trivial) hf
  | indexFile request =>
    refine standing_of_failed_talk (p := fun _ _ => True) h.live (fun _ h => by cases h) ?_ hf
    cases request with
    | none => exact .throw rfl
    | some r => exact .indexUnder_undone hs (hc r rfl) hout r.hash
  | storeAndIndexFile content request =>
    refine standing_of_failed_talk (p := fun _ _ => True) h.live (fun _ h => by cases h) ?_ hf
    cases request with
    | none => exact .throw rfl
    | some r => exact .storeAndIndexFile_undone hs (hc r rfl) hout content
  | fileByHash hash =>
    exact standing_of_failed_talk h.live (fun _ h => by cases h) (.fileByHash (hs .content) hash) hf
  | metadataById index id =>
    obtain ⟨hi, id, rfl, h1, h2⟩ := hc
    exact standing_of_failed_talk h.live (fun _ h => by cases h)
      (.metadataById_silent hs hi hout h1 h2) hf
  | metadataByHash index hash =>
    exact standing_of_failed_talk h.live (fun _ h => by cases h)
      (.metadataByHash hs (fun i hi hm => (hc i hi).no_mark _ hm (by decide)) hash) hf
  | searchFiles index query pageable =>
    exact standing_of_failed_talk h.live (fun _ h => by cases h)
      (.searchFiles hs (fun i hi hm => (hc i hi).no_mark _ hm (by decide)) query pageable) hf
  | createIndex index =>
    exact standing_of_failed_talk h.live (fun _ h => by cases h)
      (.createIndex_undone hs hc hout) hf

end Session

/-- Contents and those that a call leaves differ at most in what it leaves. -/
theorem DepotCall.alike_contentsLeft (b : Blobs) (c : DepotCall) :
    b.Alike (fun hash => ∃ bytes, c.left? b = some bytes ∧ hash = Blobs.hashOf bytes)
      (c.contentsLeft b) := by
  unfold contentsLeft
  rcases hleft : c.left? b with _ | bytes
  · exact ⟨rfl, fun _ _ => rfl⟩
  · refine ⟨rfl, fun hash hh => ?_⟩
    exact (Entries.get?_put ..).trans (if_neg fun h => hh ⟨bytes, rfl, h.symm⟩)

/-- A session whose engine has begun to fail. -/
def withFailingEngine : Session :=
  ((Session.fresh .standard).runSteps [.switch .engine (some 503)]).2

/-- A content for a document. -/
def writeOfContent : DepotCall :=
  .storeAndIndexFile (some [104, 105]) (some ⟨some "a", "Docs", none, none, [], none⟩)

theorem isAddressable_writeOfContent : writeOfContent.IsAddressable := by
  rintro r hr
  cases hr
  refine ⟨by decide, fun t ht => ?_, ?_, fun f hf => by cases hf⟩
  · cases ht
    decide
  · rw [show Text.lower "Docs" = "docs" by decide]
    decide +kernel

end ContentDepot
