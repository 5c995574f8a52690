import ContentDepot.Proofs.Depot.Calls
import ContentDepot.Proofs.Exchange.Places
import ContentDepot.Proofs.Index.Certainty
import ContentDepot.Proofs.Index.Document
import ContentDepot.Proofs.Index.Reading
import ContentDepot.Proofs.Session.Standing

/-!
# What every operation keeps

A standing is in order (`InOrder`) if every document has a hash of which something
is known that adding a content never undoes, every index matches hashes as a
whole, and the names that are known lead to indices that are there. Whatever
happens to its requests, no operation on indices whose names hold no slash leaves
this order:

* `InOrder.createIfMissing`, `InOrder.indexUnder`: the operations that write;
* `InOrder.metadataById`, `InOrder.search`: what is read has such a hash.
-/

namespace ContentDepot

open Exchange InMemory Address Search Text.DotSegments MetadataIndex

/-- The name leads to an index that is there. -/
def Known (e : Endpoint) (engine : Engine) (name : String) : Prop :=
  ∃ url index, e.address.target (reference name []) = .ok url ∧
    Engine.segments (String.ofList url.path) = [index] ∧ Entries.has engine.indices index = true

theorem Known.answer {e : Endpoint} {engine : Engine} {name : String} (h : Known e engine name)
    (r : Request) : Known e (engine.answer r).2 name := by
  obtain ⟨url, index, ht, hs, hx⟩ := h
  exact ⟨url, index, ht, hs, Engine.has_answer hx r⟩

/-- A name that is known opens an index that is there. -/
theorem Known.place {e : Endpoint} {engine : Engine} {name : String} {place : Option String}
    (h : Known e engine name) (ho : e.address.Opens name place) :
    ∃ index, place = some index ∧ Entries.has engine.indices index = true := by
  obtain ⟨url, index, ht, hs, hx⟩ := h
  rw [ho.nil ht] at hs
  cases place with
  | none => cases hs
  | some index' =>
    cases hs
    exact ⟨index, rfl, hx⟩

/-- The record has a hash of which `P` holds. -/
def Metadata.HasHash (P : String → Prop) (m : Metadata) : Prop := ∃ h, m.hash = some h ∧ P h

/-- What `P` says of a hash holds of every hash of a document and of every promised one; indices
match hashes as a whole, and what is known to be an index is one. -/
structure InOrder (e : Endpoint) (P : Blobs → String → Prop) (promised : String → Prop)
    (st : Standing) : Prop where
  hashed : st.engine.Hashed (P st.contents)
  known : ∀ name ∈ st.mapped, Known e st.engine name
  outside : IsOutside st.engine.failing
  kept : ∀ h, promised h → P st.contents h

namespace InOrder

variable {e : Endpoint} {P : Blobs → String → Prop} {promised : String → Prop} {st : Standing}
  {name : String}

theorem of_idle {engine : Engine} (h : InOrder e P promised st) (hi : st.engine.Idle engine) :
    InOrder e P promised { st with engine := engine } := by
  obtain ⟨refreshes, rfl⟩ := hi
  exact ⟨h.hashed.of_eq rfl rfl, h.known, h.outside, h.kept⟩

/-- After a request that leaves hashes with the documents. -/
theorem of_answer {r : Request} (h : InOrder e P promised st)
    (hh : (st.engine.answer r).2.Hashed (P st.contents)) :
    InOrder e P promised { st with engine := (st.engine.answer r).2 } := by
  exact ⟨hh, fun name hn => (h.known name hn).answer r,
    (Engine.failing_answer st.engine r).symm ▸ h.outside, h.kept⟩

theorem mark (h : InOrder e P promised st) (hk : Known e st.engine name) :
    InOrder e P promised (st.mark name) := by
  refine ⟨h.hashed, fun other ho => ?_, h.outside, h.kept⟩
  simp only [Standing.mark] at ho
  split at ho
  · exact h.known other ho
  · rcases List.mem_append.1 ho with ho | ho
    · exact h.known other ho
    · rw [List.mem_singleton.1 ho]
      exact hk

/-! ## Creating an index -/

/-- An index that answers with success is there. -/
theorem known_of_head {place : Option String} {r : Request} {resp : Response}
    (ho : e.address.Opens name place) (hout : IsOutside st.engine.failing)
    (hr : e.Sends name [] .head .empty r) (hresp : (st.engine.answer r).1 = .response resp)
    (hstatus : resp.status = 200) : Known e st.engine name := by
  obtain ⟨url, ht, hm⟩ := hr
  have hs := hm.segments.trans (ho.nil ht)
  rcases hf : st.engine.failing with _ | status
  · cases place with
    | none =>
      simp only [Engine.answer, hf, hs, Option.toList_none] at hresp
      cases hresp
    | some index =>
      rw [Engine.answer_index hf hs, Engine.answerIndex, hm.verb] at hresp
      cases hresp
      refine ⟨url, index, ht, hm.segments.symm.trans hs, ?_⟩
      by_contra hno
      rw [if_neg hno] at hstatus
      cases hstatus
  · -- An engine that fails does not fail with a status of success.
    rw [Engine.answer_of_failing hf] at hresp
    cases hresp
    obtain rfl : status = 200 := hstatus
    exact absurd ⟨by decide, by decide⟩ (hout _ hf)

/-- A request to create an index leaves the order as it is, and the index is there after it unless
the response says that something else went wrong. -/
theorem of_put {place : Option String} {r : Request} {resp : Response}
    (h : InOrder e P promised st) (ho : e.address.Opens name place)
    (hr : e.Sends name [] .put (.json reservedKeysMapping) r)
    (hresp : (st.engine.answer r).1 = .response resp) :
    InOrder e P promised { st with engine := (st.engine.answer r).2 } ∧
      (Known e (st.engine.answer r).2 name ∨
        alreadyExists resp = .ok false ∧ resp.isSuccess = false) := by
  obtain ⟨url, ht, hm⟩ := hr
  have hs := hm.segments.trans (ho.nil ht)
  rcases hf : st.engine.failing with _ | status
  · cases place with
    | none =>
      simp only [Engine.answer, hf, hs, Option.toList_none] at hresp
      cases hresp
    | some index =>
      obtain ⟨hh, hx⟩ := h.hashed.create hm.verb hm.payload index
      rw [← Engine.answer_index hf hs] at hh hx
      exact ⟨h.of_answer hh, .inl ⟨url, index, ht, hm.segments.symm.trans hs, hx⟩⟩
  · rw [Engine.answer_of_failing hf] at hresp ⊢
    cases hresp
    exact ⟨h, .inr ⟨alreadyExists_failure status, Engine.isSuccess_failure (h.outside status hf)⟩⟩

/-- Creating an index leaves the order as it is, and where it succeeds the index is there. -/
theorem createIfMissing (he : e.IsEngine) (hn : name ≠ "") (hs : '/' ∉ name.toList)
    (h : InOrder e P promised st) (trust : Bool) :
    WP st (createIfMissing e name trust)
      (fun _ st' => InOrder e P promised st' ∧ Known e st'.engine name)
      (fun _ st' => InOrder e P promised st') := by
  obtain ⟨place, ho⟩ := exists_opens he.root hn hs
  unfold MetadataIndex.createIfMissing
  rw [indexPath_eq]
  refine .context_bind fun c hc => ?_
  split
  · rename_i htrust
    rw [Bool.and_eq_true, hc, List.contains_iff_mem] at htrust
    exact .pure ⟨h, h.known name htrust.2⟩
  refine .bind (m := fun r st' => InOrder e P promised st' ∧
      (r.status = 200 → Known e st'.engine name))
    (.call_engine he (fun _ => h) fun r hr resp hresp => ?_) fun r st₁ h₁ => ?_
  · obtain ⟨url, ht, hm⟩ := hr
    have hidle := Engine.idle_of_read (e := st.engine) hm.payload (.inr hm.verb)
    refine ⟨h.of_idle hidle, fun hstatus => ?_⟩
    exact (known_of_head ho h.outside ⟨url, ht, hm⟩ hresp hstatus).answer r
  split
  · rename_i hstatus
    exact .markMapped ⟨h₁.1.mark (h₁.2 hstatus), h₁.2 hstatus⟩
  refine .bind (m := fun r st' => InOrder e P promised st' ∧ (Known e st'.engine name ∨
      alreadyExists r = .ok false ∧ r.isSuccess = false))
    (.call_engine he (fun _ => h₁.1) fun r hr resp hresp => of_put h₁.1 ho hr hresp)
    fun r st₂ h₂ => ?_
  refine .ofRead_bind (fun _ _ => h₂.1) fun known hread => ?_
  split
  · rename_i hknown
    have hk := h₂.2.resolve_right fun hno => by
      rw [hno.1, hknown] at hread
      cases hread
    exact .markMapped ⟨h₂.1.mark hk, hk⟩
  · refine .check_bind (fun _ _ => h₂.1) fun hr => .emit_bind ?_
    have hk := h₂.2.resolve_right fun hno => by
      rw [hno.2] at hr
      cases hr
    exact .markMapped ⟨h₂.1.mark hk, hk⟩

/-! ## Writing a document -/

/-- The question whether a document is there. -/
theorem documentExists {id : Option String} (he : e.IsEngine) (h : InOrder e P promised st)
    (hk : Known e st.engine name) :
    WP st (documentExists e name (.ofOption id))
      (fun isThere st' => InOrder e P promised st' ∧ Known e st'.engine name ∧
        (isThere = true → (given id).isSome = true))
      (fun _ st' => InOrder e P promised st') := by
  unfold MetadataIndex.documentExists
  rw [truthy_ofOption]
  rcases hg : given id with _ | t
  · exact .pure ⟨h, hk, fun h => by cases h⟩
  obtain ⟨rfl, -⟩ := given_eq_some hg
  rw [show Json.ofOption (some t) = .str t from rfl, documentPath_eq]
  simp only [Option.isSome_some, Bool.not_true, Bool.false_eq_true, if_false]
  refine .bind (m := fun _ st' => InOrder e P promised st' ∧ Known e st'.engine name)
    (.call_engine he (fun _ => h) fun r hr resp _ => ?_) fun r st₁ h₁ => ?_
  · obtain ⟨url, -, hm⟩ := hr
    exact ⟨h.of_idle (Engine.idle_of_read hm.payload (.inl hm.verb)), hk.answer r⟩
  split
  · exact .pure ⟨h₁.1, h₁.2, fun _ => trivial⟩
  · exact .check_bind (fun _ _ => h₁.1) fun _ => .ofRead_bind (fun _ _ => h₁.1) fun _ _ =>
      .ofRead_bind (fun _ _ => h₁.1) fun _ _ => .pure ⟨h₁.1, h₁.2, fun _ => trivial⟩

/-- Where the request that writes a document leads. -/
theorem targets_of_write {place : String} {id : Option String} {isThere : Bool}
    {source : Entries Json} {verb : Verb} {segments : List (List Char)} {payload : Payload}
    {r : Request} (ho : e.address.Opens name (some place))
    (hr : e.Sends name segments verb payload r)
    (hcases : (isThere = true ∧ payload = .json (.obj [("doc", .obj source)]) ∧
        ∃ t, given id = some t ∧ segments = ["_update".toList, (Text.Percent.segment t).toList]) ∨
      (isThere = false ∧ payload = .json (.obj source) ∧ segments = "_doc".toList ::
        (given id).toList.map fun t => (Text.Percent.segment t).toList)) :
    Engine.Targets place source (Engine.segments r.path) r.payload := by
  obtain ⟨url, ht, hm⟩ := hr
  rw [hm.payload]
  rcases hcases with ⟨-, rfl, t, hg, rfl⟩ | ⟨-, rfl, rfl⟩
  · rcases ho.segment isWord_update (given_eq_some hg).2 ht with hs | ⟨rest, hs⟩
    · exact .index (hm.segments.trans hs)
    · exact .update rest (hm.segments.trans hs) rfl
  · rcases hg : given id with _ | t
    · rw [hg] at ht
      rcases ho.word isWord_doc ht with hs | hs
      · exact .index (hm.segments.trans hs)
      · exact .whole [] (hm.segments.trans hs) rfl
    · rw [hg] at ht
      rcases ho.segment isWord_doc (given_eq_some hg).2 ht with hs | ⟨rest, hs⟩
      · exact .index (hm.segments.trans hs)
      · exact .whole rest (hm.segments.trans hs) rfl

variable {id : Option String} {fill : Bool} {hash : String} {r : IndexRequest}

/-- A document whose hash is promised can be written below a name that is known. -/
theorem writeDocument {isThere : Bool} (he : e.IsEngine) (hn : name ≠ "")
    (hs : '/' ∉ name.toList) (h : InOrder e P promised st) (hk : Known e st.engine name)
    (hthere : isThere = true → (given id).isSome = true) (hhash : promised hash)
    (hfields : ∀ f ∈ r.allFields, f.name ≠ hashKey) :
    WP st (writeDocument e name (.ofOption id) isThere
        (document fill (.str hash) (.ofOption r.contentType) (some r.resolvedFields)))
      (fun _ st' => InOrder e P promised st' ∧ Known e st'.engine name)
      (fun _ st' => InOrder e P promised st') := by
  -- Without a slash the name opens one index at most, so what is below it is a document of this.
  obtain ⟨place, ho⟩ := exists_opens he.root hn hs
  obtain ⟨index, rfl, hx⟩ := hk.place ho
  obtain ⟨verb, segments, payload, hverb, -, hcall, hcases⟩ := writeDocument_eq e name
    (document fill (.str hash) (.ofOption r.contentType) (some r.resolvedFields)) hthere
  have hget := fun old => get?_written_hash old fill (.str hash) (.ofOption r.contentType) hfields
  rw [hcall]
  refine .call_engine he (fun _ => h) fun req hr resp _ => ?_
  have hself := hget []
  rw [← document_eq_putAll] at hself
  have hwritten := h.hashed.write hx hget hself (h.kept hash hhash) (hr.verb ▸ hverb)
    (targets_of_write ho hr hcases)
  exact ⟨h.of_answer hwritten.1, hk.answer req⟩

/-- A request to refresh what a known name opens. -/
theorem idle_of_refresh {engine : Engine} {r : Request} (he : e.IsEngine) (hn : name ≠ "")
    (hs : '/' ∉ name.toList) (hk : Known e engine name)
    (hr : e.Sends name ["_refresh".toList] .post .empty r) :
    engine.Idle (engine.answer r).2 := by
  obtain ⟨place, ho⟩ := exists_opens he.root hn hs
  obtain ⟨index, rfl, -⟩ := hk.place ho
  obtain ⟨url, ht, hm⟩ := hr
  have hsegments : Engine.segments r.path = [index] ∨
      Engine.segments r.path = [index, "_refresh"] :=
    (ho.word isWord_refresh ht).imp hm.segments.trans hm.segments.trans
  exact Engine.idle_of_refresh hm.verb hsegments

/-- A write of a document whose hash is promised leaves the order as it is, however it ends. -/
theorem writing {writable : Bool} (he : e.IsEngine) (hn : name ≠ "") (hs : '/' ∉ name.toList)
    (h : InOrder e P promised st) (hhash : promised hash)
    (hfields : ∀ f ∈ r.allFields, f.name ≠ hashKey) :
    WP st (writing e name (.ofOption id)
        (document fill (.str hash) (.ofOption r.contentType) (some r.resolvedFields)) writable)
      (fun _ st' => InOrder e P promised st') (fun _ st' => InOrder e P promised st') := by
  unfold MetadataIndex.writing
  refine .bind (h.createIfMissing he hn hs true) fun _ st₁ h₁ => ?_
  refine .bind (h₁.1.documentExists he h₁.2) fun isThere st₂ h₂ => ?_
  cases writable with
  | false => exact .throw_bind h₂.1
  | true =>
    simp only [Bool.not_true, Bool.false_eq_true, if_false]
    refine .bind (h₂.1.writeDocument he hn hs h₂.2.1 h₂.2.2 hhash hfields) fun r st₃ h₃ => ?_
    refine .check_bind (fun _ _ => h₃.1) fun _ => .ofRead_bind (fun _ _ => h₃.1) fun _ _ =>
      .ofRead_bind (fun _ _ => h₃.1) fun _ _ => ?_
    rw [show "/" ++ name ++ "/_refresh" = reference name ["_refresh".toList] from
      path_word_eq name "_refresh"]
    refine .bind (m := fun _ st' => InOrder e P promised st')
      (.call_engine he (fun _ => h₃.1) fun req hr resp _ => ?_) fun r' st₄ h₄ =>
        .check_bind (fun _ _ => h₄) fun _ => .pure h₄
    exact h₃.1.of_idle (idle_of_refresh he hn hs h₃.2 hr)

/-! ## Reading -/

theorem hasHash (h : InOrder e P promised st) {m : Metadata} (hm : m.IsOf st.engine) :
    m.HasHash (P st.contents) := by
  obtain ⟨index, d, hd, rfl⟩ := hm
  obtain ⟨hash, hget, hhash⟩ := h.hashed.hashes index d hd
  refine ⟨hash, ?_, hhash⟩
  rw [Metadata.ofDocument, hget]
  rfl

/-- A look-up leaves the order as it is, and the record that it gives has a hash. -/
theorem lookingUp (he : e.IsEngine) (h : InOrder e P promised st) (id : Json) :
    WP st (lookingUp e name id)
      (fun m st' => InOrder e P promised st' ∧ m.HasHash (P st'.contents))
      (fun _ st' => InOrder e P promised st') := by
  unfold MetadataIndex.lookingUp
  rw [show documentPath name id = reference name
    ["_doc".toList, (Text.Percent.segment id.text).toList] from documentPath_eq name id.text]
  refine .bind (m := fun r st' => InOrder e P promised st' ∧ st'.engine.Shows r.body)
    (.call_engine he (fun _ => h) fun r hr resp hresp => ?_) fun r st₁ h₁ => ?_
  · have hidle := Engine.idle_of_read (e := st.engine) hr.payload (.inl hr.verb)
    exact ⟨h.of_idle hidle, (Engine.shows_of_response hresp).of_idle hidle⟩
  dsimp only
  split
  · exact .throw_bind h₁.1
  refine .check_bind (fun _ _ => h₁.1) fun _ => .ofRead_bind (fun _ _ => h₁.1) fun v hv =>
    .ofRead_bind (fun _ _ => h₁.1) fun found hfound => ?_
  split
  · exact .throw_bind h₁.1
  · rename_i ht
    refine .ofRead (fun m hm => ⟨h₁.1, h₁.1.hasHash ?_⟩) fun _ _ => h₁.1
    cases found with
    | none => exact absurd rfl ht
    | some found => exact isOf_of_found h₁.2 hv hfound (by simpa using ht) hm

end InOrder

/-! ## Searching -/

variable {e : Endpoint} {st : Standing} {name : String}

/-- A request to search changes nothing. -/
theorem Endpoint.Sends.answer_search {r : Request} {payload : Payload} (he : e.IsEngine)
    (hn : name ≠ "") (hs : '/' ∉ name.toList)
    (hr : e.Sends name ["_search".toList] .post payload r) (engine : Engine) :
    (engine.answer r).2 = engine := by
  obtain ⟨place, ho⟩ := exists_opens he.root hn hs
  obtain ⟨url, ht, hm⟩ := hr
  have hsegments : Engine.segments r.path = place.toList ∨
      Engine.segments r.path = place.toList ++ ["_search"] :=
    (ho.word isWord_search ht).imp hm.segments.trans hm.segments.trans
  cases place with
  | none => exact Engine.answer_of_search hm.verb (hsegments.imp id .inl)
  | some index => exact Engine.answer_of_search hm.verb (.inr hsegments)

/-- What is read off the answer to a search changes nothing either. -/
theorem WP.asking {α : Type} {events : List Event} {body : Json} {read : Json → Except Cause α}
    (he : e.IsEngine) (hn : name ≠ "") (hs : '/' ∉ name.toList) :
    WP st (do
        Exchange.emitAll events
        let r ← e.call .post ("/" ++ name ++ "/_search") searchQuery (.json body)
        check r
        let answer ← Attempt.ofRead r.json
        Attempt.ofRead (read answer) : Attempt α)
      (fun a st' => st' = st ∧ ∃ (resp : Response) (v : Json),
        st.engine.Shows resp.body ∧ resp.json = .ok v ∧ read v = .ok a)
      (fun _ st' => st' = st) := by
  rw [show "/" ++ name ++ "/_search" = reference name ["_search".toList] from
    path_word_eq name "_search"]
  refine .emitAll_bind (.bind (m := fun r st' => st' = st ∧ st.engine.Shows r.body)
    (.call_engine he (fun _ => rfl) fun r hr resp hresp => ?_) ?_)
  · rw [hr.answer_search he hn hs]
    exact ⟨rfl, Engine.shows_of_response hresp⟩
  · rintro r _ ⟨rfl, hshows⟩
    exact .check_bind (fun _ _ => rfl) fun _ => .ofRead_bind (fun _ _ => rfl) fun v hv =>
      .ofRead (fun a ha => ⟨rfl, r, v, hshows, hv, ha⟩) fun _ _ => rfl

/-- The name of an index is a text without a slash, where it is a text at all. -/
def IsUnslashed (index : Json) : Prop := ∀ t, index = .str t → '/' ∉ t.toList

variable {s : Settings}

/-- A search for records of an index gives records of documents, and changes nothing. -/
theorem WP.search (hs : s.HostsAreRoots) {index : Json} (hi : IsUnslashed index)
    (query : Option Query) (pageable : Option Pageable) :
    WP st ((Depot.remote s).index.search pageable index query)
      (fun ms st' => st' = st ∧ ∀ m ∈ ms, m.IsOf st.engine) (fun _ st' => st' = st) := by
  obtain ⟨e, he, -⟩ := hs .engine
  show WP st (MetadataIndex.remoteSearch s pageable index query) _ _
  cases pageable with
  | none => exact .throw rfl
  | some p =>
    refine .named he rfl fun t ht h0 => .guarded ?_
    refine (WP.asking (hs.isEngine he) (Text.lower_ne_empty h0) (no_slash_lower (hi t ht))).mono
      ?_ fun _ _ hst => .fail hst
    rintro ms _ ⟨rfl, resp, v, hshows, hv, hms⟩
    exact ⟨rfl, isOf_of_hits hshows hv hms⟩

theorem WP.count (hs : s.HostsAreRoots) {index : Json} (hi : IsUnslashed index)
    (query : Option Query) :
    WP st ((Depot.remote s).index.count index query) (fun _ st' => st' = st)
      (fun _ st' => st' = st) := by
  obtain ⟨e, he, -⟩ := hs .engine
  refine .named he rfl fun t ht h0 => .guarded ?_
  exact (WP.asking (hs.isEngine he) (Text.lower_ne_empty h0) (no_slash_lower (hi t ht))).mono
    (fun _ _ h => h.1) fun _ _ hst => .fail hst

theorem WP.searchFiles (hs : s.HostsAreRoots) {index : Json} (hi : IsUnslashed index)
    (query : Option Query) (pageable : Option Pageable) :
    WP st ((Depot.remote s).searchFiles index query pageable)
      (fun page st' => st' = st ∧ ∀ m ∈ page.content, m.IsOf st.engine)
      (fun _ st' => st' = st) := by
  refine .require_bind rfl fun _ => ?_
  cases pageable with
  | none => exact .throw rfl
  | some p =>
    refine .bind (WP.search hs hi query (some p)) ?_
    rintro ms _ ⟨rfl, hms⟩
    refine .bind (WP.count hs hi query) ?_
    rintro n _ rfl
    exact .pure ⟨rfl, hms⟩

theorem WP.metadataByHash (hs : s.HostsAreRoots) {index : Json} (hi : IsUnslashed index)
    (hash : Json) :
    WP st ((Depot.remote s).metadataByHash index hash) (fun m st' => st' = st ∧ m.IsOf st.engine)
      (fun _ st' => st' = st) := by
  refine .require_bind rfl fun _ => .require_bind rfl fun _ => ?_
  refine .bind (WP.search hs hi _ (some Depot.firstResult)) ?_
  rintro ms _ ⟨rfl, hms⟩
  cases ms with
  | nil => exact .emit_bind (.throw rfl)
  | cons m ms => exact .pure ⟨rfl, hms m (List.mem_cons_self ..)⟩

/-! ## The operations of a depot -/

namespace InOrder

variable {P : Blobs → String → Prop} {promised : String → Prop}

theorem createIndex (hs : s.HostsAreRoots) (he : s.endpoint? .engine = some e)
    (h : InOrder e P promised st) {index : Json} (hi : IsUnslashed index) :
    WP st ((Depot.remote s).createIndex index) (fun _ st' => InOrder e P promised st')
      (fun _ st' => InOrder e P promised st') := by
  refine .require_bind h fun _ => ?_
  refine .named he h fun t ht h0 => .guarded ?_
  exact (h.createIfMissing (hs.isEngine he) (Text.lower_ne_empty h0)
    (no_slash_lower (hi t ht)) false).mono (fun _ _ h => h.1) fun _ _ h => .fail h

theorem metadataById (hs : s.HostsAreRoots) (he : s.endpoint? .engine = some e)
    (h : InOrder e P promised st) (index id : Json) :
    WP st ((Depot.remote s).metadataById index id)
      (fun m st' => InOrder e P promised st' ∧ m.HasHash (P st'.contents))
      (fun _ st' => InOrder e P promised st') := by
  refine .require_bind h fun _ => .require_bind h fun _ => ?_
  refine .require_bind h fun hb => .require_bind h fun _ => .lowered_bind hb h fun t ht h0 =>
    .connected_bind he (.guarded ?_)
  refine (h.lookingUp (hs.isEngine he) id).mono (fun _ _ h => h) fun t st' h => ?_
  cases t with
  | absent => exact .emit_bind (.throw h)
  | status code detail => exact .fail h
  | cause c => exact .fail h

/-- A content whose hash is promised can be indexed, and whatever happens the order stays. -/
theorem indexUnder (hs : s.HostsAreRoots) (he : s.endpoint? .engine = some e)
    (h : InOrder e P promised st) {r : IndexRequest} {hash : String} (hhash : promised hash)
    (hi : '/' ∉ r.index.toList) (hfields : ∀ f ∈ r.allFields, f.name ≠ hashKey) :
    WP st ((Depot.remote s).indexUnder r (.str hash)) (fun _ st' => InOrder e P promised st')
      (fun _ st' => InOrder e P promised st') := by
  refine .require_bind h fun hb => .require_bind h fun _ => ?_
  refine .bind (.shielded ?_) fun id st' h' => .ofChecked (fun _ _ => h') fun _ => h'
  show WP st (remoteWrite s (.str r.index) (.ofOption r.id) (.str hash) (.ofOption r.contentType)
    (some r.resolvedFields)) _ _
  refine .require_bind h fun _ => .require_bind h fun _ => ?_
  refine .lowered_bind hb h fun t ht h0 => .connected_bind he (.guarded ?_)
  cases ht
  exact (h.writing (hs.isEngine he) (Text.lower_ne_empty h0) (no_slash_lower hi) hhash
    hfields).mono (fun _ _ h => h) fun _ _ h => .fail h

end InOrder

end ContentDepot
