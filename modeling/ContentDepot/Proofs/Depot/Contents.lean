import ContentDepot.Proofs.Depot.Operations
import ContentDepot.Proofs.Session.Standing

/-!
# Contents in the store

What the depot does with contents, over a store in memory that may fail: a content
that is stored is added under its hash (`WP.storeFile`), and asking for a text gives
the content under it and nothing else (`WP.fileByHash_of_text`), so that one that is
there can be fetched while the store is healthy (`WP.fileByHash_of_get?`). Nothing
else changes the contents: neither fetching one (`WP.fileByHash`) nor what is done
with the index (`Spares.indexUnder`, `Spares.metadataById`, `Spares.searchFiles`).
-/

namespace ContentDepot

open Exchange InMemory Address

/-! ## Questions for a hash -/

namespace InMemory.Blobs

/-- The question for a hash is short enough for a URL. -/
def Admits (hash : String) : Prop := Address.queryLength [("arg", hash)] ≤ Url.maxLength

/-- A text that leaves no room in the URL is no question that could be asked. -/
theorem not_admits {hash : String} (h : Url.maxLength < hash.toList.length + 4) :
    ¬ Admits hash := by
  have hlength : hash.toList.length ≤
      (Text.Percent.escapeUnless Address.isShort hash.toList).length :=
    Text.Percent.length_escapeUnless _
  have harg : (Text.Percent.escapeUnless Address.isShort "arg".toList).length = 3 := by decide
  rw [Admits, Address.queryLength, List.foldl_cons, List.foldl_nil]
  simp only [harg]
  omega

/-- The store works and holds the content under the hash. -/
structure Gives (b : Blobs) (hash : String) (content : Bytes) : Prop where
  healthy : b.failing = none
  admitted : Admits hash
  held : Entries.get? b.blobs hash = some content

/-- The failure says that there is no content with the hash, or that it could not be asked for. -/
structure Misses (b : Blobs) (hash : String) (f : Failure) : Prop where
  absent : Admits hash → Entries.get? b.blobs hash = none ∧ f = .error (.noContent (.str hash))
  unasked : ¬ Admits hash → f.IsBackend

end InMemory.Blobs

namespace ContentStore

/-- A text occurs in what it is a part of. -/
theorem occursIn_append (before part after : List Char) :
    occursIn part (before ++ (part ++ after)) = true := by
  induction before with
  | nil =>
    rcases h : part ++ after with _ | ⟨c, cs⟩
    · rw [List.append_eq_nil_iff] at h
      rw [h.1]
      rfl
    · have hprefix : part.isPrefixOf (c :: cs) = true :=
        List.isPrefixOf_iff_prefix.2 ⟨after, h⟩
      rw [List.nil_append, occursIn, hprefix, Bool.true_or]
  | cons c cs ih => rw [List.cons_append, occursIn, ih, Bool.or_true]

/-- The store's answer for a hash that it does not know says so, whatever the hash does to the
text that is searched for the marks of absence. -/
theorem saysAbsent_unknown (status code : Int) (hash type : String) :
    saysAbsent ⟨status, .json (.obj
      [("Message", .str ("block was not found locally (offline): " ++ hash)),
        ("Code", .int code), ("Type", .str type)])⟩ = .ok true := by
  have hall : ("block was not found".toList.all fun c => decide (Text.IsSmall c)) = true := by
    decide
  have hsmall : ∀ c ∈ "block was not found".toList, Text.IsSmall c := fun c hc =>
    of_decide_eq_true (List.all_eq_true.1 hall c hc)
  obtain ⟨b, hlower⟩ := Text.lowerFrom_append_of_small (b := false) hsmall
    (" locally (offline): ".toList ++ hash.toList)
  have htext : (Text.lower ("block was not found locally (offline): " ++ hash)).toList =
      "block was ".toList ++ ("not found".toList ++
        Text.lowerFrom b (" locally (offline): ".toList ++ hash.toList)) := by
    rw [Text.lower, String.toList_ofList, String.toList_append]
    exact hlower
  have hoccurs := occursIn_append "block was ".toList "not found".toList
    (Text.lowerFrom b (" locally (offline): ".toList ++ hash.toList))
  rw [← htext] at hoccurs
  show Except.ok (absenceMarkers.any fun m => occursIn m.toList
    (Text.lower ("block was not found locally (offline): " ++ hash)).toList) = .ok true
  rw [absenceMarkers, List.any_cons, hoccurs, Bool.true_or]

/-- What an answer to the question for a hash comes to, once it is known whether it tells that
there is no content. -/
def delivered (hash : Json) (r : Response) (absent : Bool) : Action Bytes := do
  if absent then
    Exchange.emit .warning "content_not_found"
    Action.refuse (.noContent hash)
  else if r.status ≠ 200 then
    Exchange.emit .error "fetch_content_failed"
    Action.refuse (.contentStatus r.status hash)
  else return r.body.toBytes

/-- What an answer to the question for a hash comes to. -/
def fetched (hash : Json) (r : Response) : Action Bytes := do
  let absent ←
    if r.status = 404 then pure true
    else if r.status = 500 then
      match saysAbsent r with
      | .ok b => pure b
      | .error f => throw (.fault f)
    else pure false
  delivered hash r absent

theorem remoteFetch_eq (s : Settings) (hash : Json) :
    remoteFetch s hash = (do
      Action.require hash "hash"
      let e ← connected s .content
      let r ← (e.call .post "/api/v0/cat" (parameters "arg" hash) .empty).guarded
        (failWith .fetchingContent "fetch_content_failed")
      fetched hash r) := rfl

end ContentStore

namespace WP

variable {s : Settings} {st : Standing}

/-- What the store can be asked for lies under a path of its own. -/
theorem target_api {a : Address} (ha : a.base.IsRoot) (cs : List Char)
    (hplain : (cs.all fun c => Url.isPathChar c) = true)
    (hfits : fits (String.ofList ('/' :: 'a' :: cs)) = true)
    (hpath : Url.encodePath (Text.DotSegments.remove
      ('/' :: (Url.encodePath ('/' :: 'a' :: cs)).dropWhile (· == '/'))) = '/' :: 'a' :: cs) :
    ∃ url, a.target (String.ofList ('/' :: 'a' :: cs)) = .ok url ∧ url.path = '/' :: 'a' :: cs := by
  have hchar : ∀ c ∈ 'a' :: cs, Url.isPathChar c = true := by
    intro c hc
    rcases List.mem_cons.1 hc with rfl | hc
    · decide
    · exact List.all_eq_true.1 hplain c hc
  have hmark : ∀ c ∈ 'a' :: cs, c ∉ ['?', '#'] := by
    intro c hc hm
    simp only [List.mem_cons, List.not_mem_nil, or_false] at hm
    rcases hm with rfl | rfl <;> exact absurd (hchar _ hc) (by decide)
  have htarget := target_plain ha (by decide) hmark
    fun c hc => Url.isControl_of_isPathChar (hchar c hc)
  rw [if_pos hfits] at htarget
  obtain ⟨url, ht⟩ := htarget
  have hrefused : Url.isRefused ('/' :: 'a' :: cs) = false := by
    obtain ⟨r, hr, -⟩ := path_of_target ha ht
    cases hrefused : Url.isRefused ('/' :: 'a' :: cs) with
    | false => rfl
    | true =>
      rw [Url.parse?, hrefused] at hr
      cases hr
  exact ⟨url, ht, (path_of_plain ha (by decide) hmark hrefused ht).trans hpath⟩

theorem addPath_eq : "/api/v0/add" = String.ofList ('/' :: 'a' :: "pi/v0/add".toList) := by decide

theorem catPath_eq : "/api/v0/cat" = String.ofList ('/' :: 'a' :: "pi/v0/cat".toList) := by decide

/-- A content that is stored is added under its hash, unless there is none or the store fails. -/
theorem storeFile {content : Option Bytes} {post : Json → Standing → Prop}
    {fails : Standing → Prop} (hs : s.HostIsRoot .content)
    (hf : content = none ∨ st.contents.failing ≠ none → fails st)
    (h : ∀ bytes, content = some bytes → st.contents.failing = none →
      post (.str (Blobs.hashOf bytes)) { st with contents := st.contents.add bytes }) :
    WP st ((Depot.remote s).storeFile content) post fun _ => fails := by
  refine .shielded ?_
  show WP st (ContentStore.remoteStore s content) _ _
  cases content with
  | none => exact .throw (hf (.inl rfl))
  | some bytes =>
    obtain ⟨e, he, hroot⟩ := hs
    obtain ⟨url, ht, hpath⟩ := target_api hroot "pi/v0/add".toList (by decide)
      (by unfold fits; decide) (by decide)
    refine .connected_bind he (.guarded ?_)
    unfold ContentStore.storing
    rw [addPath_eq]
    refine .bind (m := fun r st' =>
        (st.contents.failing = none ∧ st' = { st with contents := st.contents.add bytes } ∧
          ∃ name size, r = ⟨200, .json (.obj [("Name", .str name),
            ("Hash", .str (Blobs.hashOf bytes)), ("Size", .str size)])⟩) ∨
        (st.contents.failing ≠ none ∧ st' = st ∧ ∃ status, r = ⟨status,
          .json (.obj [("Message", .str "emulated failure"), ("Code", .int 0),
            ("Type", .str "error")])⟩))
      (.call hroot (fun hno => ?_) fun url' r c w ht' hr hw hst => ?_) fun r st' hmid => ?_
    · rcases hno with hno | hno | hno
      · exact absurd ht (hno url)
      · cases hno
      · exact absurd hno (by decide)
    · obtain ⟨hb, -, hm⟩ := Endpoint.made_of_request hr
      obtain ⟨hreply, hleft⟩ := Standing.answer_content hw
        (hb.trans (Settings.backend_of_endpoint? he)) hst
      obtain rfl : url' = url := Except.ok.inj (ht'.symm.trans ht)
      have hdecode : Text.Percent.decode r.path = "/api/v0/add" := by
        rw [hm.path, hpath]
        decide
      rw [hreply, hleft]
      rcases Blobs.answer_add (b := st.contents) hdecode hm.payload with
        ⟨hhealthy, hleft, name, size, hanswer⟩ | ⟨status, hfailing, hanswer⟩
      · rw [hanswer, hleft]
        exact .inl ⟨hhealthy, rfl, name, size, rfl⟩
      · rw [hanswer]
        exact .inr ⟨by rw [hfailing]; exact Option.some_ne_none status, rfl, status, rfl⟩
    · rcases hmid with ⟨hhealthy, rfl, name, size, rfl⟩ | ⟨hfailing, rfl, status, rfl⟩
      · exact .pure (h bytes rfl hhealthy)
      · have hfails := hf (.inr hfailing)
        split
        · exact .throw (.failWith hfails)
        · exact .ofRead_bind (fun _ _ => .failWith hfails) fun v hv => .ofRead
            (fun a ha => by cases hv; cases ha) fun _ _ => .failWith hfails

/-- An answer comes to a content only by its status. -/
theorem fetched {hash : Json} {r : Response} {post : Bytes → Standing → Prop}
    {fails : Failure → Standing → Prop} (h : r.status = 200 → post r.body.toBytes st)
    (hf : ∀ f, fails f st) : WP st (ContentStore.fetched hash r) post fails := by
  have hrest : ∀ absent : Bool, WP st (ContentStore.delivered hash r absent) post fails := by
    intro absent
    unfold ContentStore.delivered
    split
    · exact .emit_bind (.throw (hf _))
    · split
      · exact .emit_bind (.throw (hf _))
      · rename_i hstatus
        exact .pure (h (not_not.1 hstatus))
  unfold ContentStore.fetched
  dsimp only
  split
  · exact .bind (m := fun _ st' => st' = st) (.pure rfl) fun a _ h => h ▸ hrest a
  · split
    · split
      · exact .bind (m := fun _ st' => st' = st) (.pure rfl) fun a _ h => h ▸ hrest a
      · exact .throw_bind (hf _)
    · exact .bind (m := fun _ st' => st' = st) (.pure rfl) fun a _ h => h ▸ hrest a

/-- Asking for a content changes nothing. -/
theorem fileByHash (hs : s.HostIsRoot .content) (hash : Json) :
    WP st ((Depot.remote s).fileByHash hash) (fun _ st' => st' = st) (fun _ st' => st' = st) := by
  obtain ⟨e, he, hroot⟩ := hs
  refine .require_bind rfl fun _ => .shielded ?_
  show WP st (ContentStore.remoteFetch s hash) _ _
  rw [ContentStore.remoteFetch_eq, catPath_eq]
  refine .require_bind rfl fun _ => .connected_bind he ?_
  refine .bind (m := fun _ st' => st' = st) (.guarded (.call_content
    (Settings.backend_of_endpoint? he) hroot (fun _ => .failWith rfl) fun url r ht hr _ _ => ?_)) ?_
  · obtain ⟨-, -, hm⟩ := Endpoint.made_of_request hr
    rw [Blobs.answer_of_empty hm.payload]
  rintro r st rfl
  exact .fetched (fun _ => rfl) fun _ => rfl

/-- Fetching by a text gives the content that the store holds under it, and nothing else. -/
theorem fileByHash_of_text {hash : String} (hs : s.HostIsRoot .content) (h0 : hash ≠ "")
    (hout : IsOutside st.contents.failing) :
    WP st ((Depot.remote s).fileByHash (.str hash))
      (fun content st' => st.contents.Gives hash content ∧ st' = st)
      (fun f st' => (st.contents.failing = none → st.contents.Misses hash f) ∧ st' = st) := by
  obtain ⟨e, he, hroot⟩ := hs
  have hblank := isBlank_str h0
  refine .required_bind hblank (.shielded_of ?_)
  show WP st (ContentStore.remoteFetch s _) _ _
  rw [ContentStore.remoteFetch_eq]
  refine .required_bind hblank (.connected_bind he ?_)
  obtain ⟨url, ht, hpath⟩ := target_api hroot "pi/v0/cat".toList (by decide)
    (by unfold fits; decide) (by decide)
  rw [catPath_eq]
  have hquery : ContentStore.parameters "arg" (.str hash) = [("arg", hash)] := rfl
  rw [hquery]
  refine .bind (m := fun r st' => Blobs.Admits hash ∧ r = st.contents.found hash ∧ st' = st)
    (.guarded (.call hroot (fun hno => ?_) fun url' r c w ht' hr hw hst => ?_)) ?_
  · have hunfit : ¬ Blobs.Admits hash := by
      rcases hno with hno | hno | hno
      · exact absurd ht (hno url)
      · cases hno
      · exact Nat.not_le.2 hno
    refine fun _ => .failWith_of ?_
    rintro f ⟨e, rfl, hk⟩
    exact ⟨fun _ => ⟨fun hfit => absurd hfit hunfit, fun _ => ⟨e, rfl, hk⟩⟩, rfl⟩
  · obtain ⟨hb, -, hm⟩ := Endpoint.made_of_request hr
    obtain ⟨hreply, hleft⟩ := Standing.answer_content hw
      (hb.trans (Settings.backend_of_endpoint? he)) hst
    obtain rfl : url' = url := Except.ok.inj (ht'.symm.trans ht)
    rw [Endpoint.request_eq] at hr
    split at hr
    · cases hr
    rename_i hfit
    obtain ⟨rfl⟩ := Except.ok.inj hr
    rw [hreply, hleft, Blobs.answer_cat (by rw [hm.path, hpath]; decide) rfl]
    exact ⟨Nat.not_lt.1 hfit, rfl, rfl⟩
  rintro r st' ⟨hfit, rfl, rfl⟩
  rcases hf : st'.contents.failing with _ | status
  · rcases hget : Entries.get? st'.contents.blobs hash with _ | content
    · rw [Blobs.found, hf, hget, ContentStore.fetched]
      dsimp only
      rw [if_neg (by decide), if_pos rfl, ContentStore.saysAbsent_unknown]
      refine .emit_bind (.throw ⟨fun _ => ⟨fun _ => ⟨hget, rfl⟩, fun hno => absurd hfit hno⟩, rfl⟩)
    · rw [Blobs.found, hf, hget]
      exact .pure ⟨⟨hf, hfit, hget⟩, rfl⟩
  · refine .fetched (fun hstatus => ?_) fun f => ?_
    · rw [Blobs.found, hf] at hstatus
      obtain rfl : status = 200 := hstatus
      exact absurd ⟨by decide, by decide⟩ (hout 200 hf)
    · cases f <;> exact ⟨fun h => (nomatch h), rfl⟩

/-- A content can be fetched by its hash while the store is healthy. -/
theorem fileByHash_of_get? {bytes : Bytes} (hs : s.HostsAreRoots)
    (hf : st.contents.failing = none)
    (hget : Entries.get? st.contents.blobs (Blobs.hashOf bytes) = some bytes) :
    WP st ((Depot.remote s).fileByHash (.str (Blobs.hashOf bytes)))
      (fun b st' => b = bytes ∧ st' = st) (fun _ _ => False) := by
  refine (fileByHash_of_text (hs .content) (Blobs.hashOf_ne_empty bytes) ?_).mono ?_ ?_
  · rw [hf]
    exact fun _ h => by cases h
  · rintro content st' ⟨hgives, rfl⟩
    exact ⟨Option.some.inj (hgives.held.symm.trans hget), rfl⟩
  · rintro f st' ⟨hmisses, -⟩
    obtain ⟨hnone, -⟩ := (hmisses hf).absent (Blobs.queryLength_hashOf bytes)
    rw [hget] at hnone
    cases hnone

end WP

/-! ## Operations on the index -/

/-- From the standing the operation leaves these contents, however it ends. -/
abbrev Spares {ε α : Type} (b : Blobs) (st : Standing) (x : ExceptT ε Exchange α) : Prop :=
  WP st x (fun _ st' => st'.contents = b) fun _ st' => st'.contents = b

namespace Spares

open MetadataIndex

variable {b : Blobs} {st : Standing}

/-- A request to the engine leaves the contents, wherever it goes. -/
theorem call_engine {e : Endpoint} {verb : Verb} {path : String} {query : List (String × String)}
    {payload : Payload} (he : e.IsEngine) (hb : st.contents = b) :
    Spares b st (e.call verb path query payload) := by
  refine ⟨?_⟩
  rintro c w hw rfl
  rcases ht : e.address.target path with f | url
  · rw [carry_call_of_refused ht]
    exact hb
  rcases hr : e.request url verb query payload with f | r
  · rw [carry_call_of_unmade ht hr]
    exact hb
  · have hleft : (World.answer r w).2.contents = b := by
      rw [World.answer_engine hw ((Endpoint.made_of_request hr).1.trans he.backend)]
      exact hb
    rw [carry_call_of_made ht hr]
    rcases (World.answer r w).1 with resp | message | f
    · cases hscheme : url.namesScheme <;>
        simp only [Endpoint.received, hscheme, Bool.false_eq_true, if_true, if_false] <;>
        exact hleft
    · exact hleft
    · exact hleft

section Talks

variable {e : Endpoint} {name : String} {id : Json}

theorem createIfMissing (he : e.IsEngine) (trust : Bool) (hb : st.contents = b) :
    Spares b st (createIfMissing e name trust) := by
  unfold MetadataIndex.createIfMissing
  refine .context_bind fun c _ => ?_
  split
  · exact .pure hb
  refine .bind (call_engine he hb) fun r st₁ hb => ?_
  split
  · exact .markMapped hb
  refine .bind (call_engine he hb) fun r st₂ hb => .ofRead_bind (fun _ _ => hb) fun known _ => ?_
  cases known with
  | true => exact .markMapped hb
  | false => exact .check_bind (fun _ _ => hb) fun _ => .emit_bind (.markMapped hb)

theorem documentExists (he : e.IsEngine) (hb : st.contents = b) :
    Spares b st (documentExists e name id) := by
  unfold MetadataIndex.documentExists
  split
  · exact .pure hb
  refine .bind (call_engine he hb) fun r st₁ hb => ?_
  split
  · exact .pure hb
  · exact .check_bind (fun _ _ => hb) fun _ => .ofRead_bind (fun _ _ => hb) fun _ _ =>
      .ofRead_bind (fun _ _ => hb) fun _ _ => .pure hb

theorem writing (he : e.IsEngine) (source : Entries Json) (writable : Bool)
    (hb : st.contents = b) : Spares b st (writing e name id source writable) := by
  unfold MetadataIndex.writing
  refine .bind (createIfMissing he true hb) fun _ st₁ hb => .bind (documentExists he hb)
    fun isThere st₂ hb => ?_
  split
  · exact .throw_bind hb
  have hwrite : Spares b st₂ (writeDocument e name id isThere source) := by
    unfold writeDocument
    split
    · exact call_engine he hb
    · split <;> exact call_engine he hb
  exact .bind hwrite fun r st₃ hb => .check_bind (fun _ _ => hb) fun _ =>
    .ofRead_bind (fun _ _ => hb) fun _ _ => .ofRead_bind (fun _ _ => hb) fun _ _ =>
      .bind (call_engine he hb) fun r st₄ hb => .check_bind (fun _ _ => hb) fun _ => .pure hb

theorem lookingUp (he : e.IsEngine) (hb : st.contents = b) :
    Spares b st (lookingUp e name id) := by
  unfold MetadataIndex.lookingUp
  refine .bind (call_engine he hb) fun r st₁ hb => ?_
  dsimp only
  split
  · exact .throw_bind hb
  refine .check_bind (fun _ _ => hb) fun _ => .ofRead_bind (fun _ _ => hb) fun _ _ =>
    .ofRead_bind (fun _ _ => hb) fun _ _ => ?_
  split
  · exact .throw_bind hb
  · exact .ofRead (fun _ _ => hb) fun _ _ => hb

/-- What a request to search asks for, and what is read off the answer. -/
theorem asking {α : Type} {events : List Event} {body : Json} {read : Json → Except Cause α}
    (he : e.IsEngine) (hb : st.contents = b) : Spares b st (do
      Exchange.emitAll events
      let r ← e.call .post ("/" ++ name ++ "/_search") searchQuery (.json body)
      Search.check r
      let answer ← Attempt.ofRead r.json
      Attempt.ofRead (read answer) : Attempt α) :=
  .emitAll_bind (.bind (call_engine he hb) fun _ _ hb => .check_bind (fun _ _ => hb) fun _ =>
    .ofRead_bind (fun _ _ => hb) fun _ _ => .ofRead (fun _ _ => hb) fun _ _ => hb)

end Talks

variable {s : Settings} {index id hash : Json}

theorem orFail {α : Type} {x : Attempt α} {activity : Activity} {name : String}
    (h : Spares b st x) : Spares b st (x.guarded (MetadataIndex.fail activity name)) :=
  WP.guarded (h.mono (fun _ _ h => h) fun _ _ h => WP.fail h)

theorem indexUnder (hs : s.HostsAreRoots) (r : IndexRequest) (hb : st.contents = b) :
    Spares b st ((Depot.remote s).indexUnder r hash) := by
  obtain ⟨e, he, -⟩ := hs .engine
  refine .require_bind hb fun hi => .require_bind hb fun _ => .bind (.shielded ?_)
    fun _ _ hb => .ofChecked (fun _ _ => hb) fun _ => hb
  exact .require_bind hb fun _ => .require_bind hb fun _ => .lowered_bind hi hb fun t _ _ =>
    .connected_bind he (orFail (writing (hs.isEngine he) _ _ hb))

theorem metadataById (hs : s.HostsAreRoots) (hb : st.contents = b) :
    Spares b st ((Depot.remote s).metadataById index id) := by
  obtain ⟨e, he, -⟩ := hs .engine
  refine .require_bind hb fun hi => .require_bind hb fun _ => .require_bind hb fun _ =>
    .require_bind hb fun _ => .lowered_bind hi hb fun t _ _ => .connected_bind he
      (.guarded ((lookingUp (hs.isEngine he) hb).mono (fun _ _ h => h) fun t _ hb => ?_))
  cases t with
  | absent => exact .emit_bind (.throw hb)
  | _ => exact .fail hb

theorem searchFiles (hs : s.HostsAreRoots) (query : Option Query) (pageable : Option Pageable)
    (hb : st.contents = b) : Spares b st ((Depot.remote s).searchFiles index query pageable) := by
  obtain ⟨e, he, -⟩ := hs .engine
  refine .require_bind hb fun _ => ?_
  cases pageable with
  | none => exact .throw hb
  | some p =>
    refine .bind (m := fun _ st' => st'.contents = b) ?_ fun _ st₁ hb =>
      .bind (m := fun _ st' => st'.contents = b) ?_ fun _ _ hb => .pure hb
    · exact .named he hb fun t _ _ => orFail (asking (hs.isEngine he) hb)
    · exact .named he hb fun t _ _ => orFail (asking (hs.isEngine he) hb)

end Spares

/-- Storing and indexing adds the content, if it succeeds. -/
theorem WP.storeAndIndexFile {s : Settings} {st : Standing} (hs : s.HostsAreRoots) (bytes : Bytes)
    (r : IndexRequest) :
    WP st ((Depot.remote s).storeAndIndexFile (some bytes) (some r))
      (fun _ st' => st.contents.failing = none ∧ st'.contents = st.contents.add bytes)
      fun _ _ => True := by
  refine .require_bind trivial fun _ => .bind (m := fun _ st' =>
      st.contents.failing = none ∧ st'.contents = st.contents.add bytes)
    (.storeFile (hs .content) (fun _ => trivial) fun _ hbytes hf => ?_) ?_
  · cases hbytes
    exact ⟨hf, rfl⟩
  · rintro hash st' ⟨hf, hcontents⟩
    exact .reportingOrphan ((Spares.indexUnder hs r hcontents).mono (fun _ _ h => ⟨hf, h⟩)
      fun _ _ _ => trivial)

end ContentDepot
