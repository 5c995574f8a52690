import ContentDepot.Proofs.Depot.Orphans
import ContentDepot.Proofs.Index.Rewrites
import ContentDepot.Proofs.Repository.Runs

/-!
# Saves that are tried again

A save may break off at each of its requests, and be tried again with the entity that
it has left. An attempt asks nothing, or it stores the content of the entity and indexes
it (`Repository.Attempted`); what it asks changes nothing but the document under the
identifier of the entity, and adds nothing but its content. So however many attempts
have failed, after one that succeeds there is one document, with the hash of this
content (`Repository.retried_save`). Before the first of them the backends have to
work, as they do in every state of a session in which they are not switched to fail
(`Session.works_of_fresh`).

* `Repository.exists_named`: before anything else happens the entity has an identifier;
* `Repository.attempted_save`: what a save of such an entity asks, and what it leaves;
* `Repository.Attempted.touches`, `Repository.Attempted.put`: one attempt;
* `Repository.FailedSaves.undergoes`: many that fail.
-/

namespace ContentDepot

open Exchange InMemory Search MetadataIndex Text.DotSegments

/-! ## What is stored and indexed -/

section Storing

variable {s : Settings} {bytes : Bytes} {t : Traffic} {w w' : World} {index id : String}

theorem AsksToStore.touches (h : AsksToStore s bytes t) :
    ∀ m ∈ t, m.1.Touches index id bytes := by
  rcases h with ⟨m, rfl, hbackend, e, url, -, hmakes⟩ | ⟨rfl, -⟩
  · intro m' hm'
    cases List.mem_singleton.1 hm'
    exact Request.touches_of_content hbackend (Endpoint.made_of_request hmakes.request).2.2.payload
  · exact fun _ h => nomatch h

/-- A content whose hash was answered has been added. -/
theorem AsksToStore.added (h : AsksToStore s bytes t) (hu : Undergoes w t w') (hw : w.Works)
    {hash : Json} (hhash : storedHash? t = some hash) :
    hash = .str (Blobs.hashOf bytes) ∧ w'.engine = w.engine ∧
      w'.contents = w.contents.add bytes := by
  rcases h with ⟨m, rfl, hbackend, e, url, -, hmakes⟩ | ⟨rfl, -⟩
  swap
  · cases hhash
  have hfile := (Endpoint.made_of_request hmakes.request).2.2.payload
  have harg : Blobs.parameter m.1 "arg" = "" := by
    rw [Blobs.parameter, Endpoint.query_of_request (List.cons_ne_nil _ _) hmakes.request]
    rfl
  replace hhash : m.2.member? "Hash" = some hash := hhash
  rcases hreply : m.2 with resp | message | f <;> rw [hreply] at hhash
  · obtain ⟨hsuccess, answer, hj, hitem⟩ := Reply.member?_eq_some.1 hhash
    obtain ⟨hans, w₁, -, hengine, hcontents, hu⟩ :=
      hu.of_content_success hw.live hbackend hreply hsuccess
    cases hu
    obtain ⟨hhash, hadded⟩ := Blobs.answer_of_hash hfile harg hw.unnamed hans hj hitem
    exact ⟨hhash, hengine, hcontents.trans hadded⟩
  · cases hhash
  · cases hhash

end Storing

/-- The name of an index points to the index, at the engine that settings name. -/
def Settings.PointsTo (s : Settings) (name index : String) : Prop :=
  ∃ e, s.endpoint? .engine = some e ∧ e.address.PointsTo (Text.lower name) index

section Indexing

variable {s : Settings} {request : IndexRequest} {hash : Json} {t : Traffic}
  {w w' : World} {index id : String}

theorem DocumentWrite.id_ofRequest (hid : request.id = some id) :
    (DocumentWrite.ofRequest s request hash).id = .str id := congrArg Json.ofOption hid

theorem AsksToIndex.touches {receipt? : Option Receipt} {bytes : Bytes}
    (h : AsksToIndex s request hash t receipt?) (hl : s.PointsTo request.index index)
    (hid : request.id = some id) (hseg : IsSegment id) : ∀ m ∈ t, m.1.Touches index id bytes := by
  rcases h with ⟨rfl, -⟩ | ⟨e, he, ⟨known, created, isThere, written, completed, h, -⟩, -⟩
  · exact fun _ h => nomatch h
  obtain ⟨e', he', hl⟩ := hl
  cases he.symm.trans he'
  intro m hm
  obtain ⟨stage, hstage, hsends⟩ := h.sends m hm
  obtain ⟨url, hmakes⟩ := hsends
  have hbackend := (Endpoint.made_of_request hmakes.request).1
  exact Request.touches_of_engine (hbackend.trans (Settings.backend_of_endpoint? he)) <|
    DocumentWrite.touches_of_sends (i := .ofRequest s request hash) hl
      (DocumentWrite.id_ofRequest hid) hseg hstage ⟨url, hmakes⟩

/-- Where there is a receipt, a document with the hash has been put under the identifier. -/
theorem AsksToIndex.put {receipt : Receipt} (h : AsksToIndex s request hash t (some receipt))
    (hn : request.index ≠ "") (hid : request.id = some id) (hseg : IsSegment id)
    (hf : ∀ f ∈ request.allFields, f.name ≠ hashKey) (hu : Undergoes w t w') (hw : w.Works) :
    w'.contents = w.contents ∧ ∃ index, s.PointsTo request.index index ∧
      ∃ d, Entries.get? d hashKey = some hash ∧ ∀ other, w'.engine.documents other =
        if index = other then Entries.put (w.engine.documents index) id d
        else w.engine.documents other := by
  have htouches : ∀ index, s.PointsTo request.index index → ∀ m ∈ t, m.1.Touches index id [] :=
    fun index hl => h.touches hl hid hseg
  have hto := h.isToIndex hf
  rcases h with ⟨-, ⟨⟩⟩ | ⟨e, he, ⟨known, created, isThere, written, completed, h, hall⟩, -⟩
  obtain ⟨rfl, -⟩ := hall _ rfl
  have hname : (DocumentWrite.ofRequest s request hash).id = .str id :=
    DocumentWrite.id_ofRequest hid
  obtain ⟨t₁, t₂, w₁, rfl, hu₁, url, url', r, r', hcarried⟩ :=
    DocumentWrite.carriedOut_of_through (Settings.backend_of_endpoint? he) hw.live
      (Follows.iff_through.1 h) hu
  obtain ⟨index, hl⟩ := hcarried.pointsTo (Settings.resource_of_endpoint? he)
    (Text.lower_ne_empty hn) hname hseg
  obtain ⟨hw₁, htouched⟩ := hu₁.touches hw fun m hm =>
    htouches index ⟨e, he, hl⟩ m (List.mem_append_left _ hm)
  obtain ⟨d, hd, hput⟩ := hcarried.put hl hname hseg hw₁.engine
  refine ⟨?_, index, ⟨e, he, hl⟩, d, ?_, htouched.engine.put_over hput⟩
  · refine (hu.keeps (P := fun u => u.Live ∧ u.contents = w.contents) ?_ ⟨hw.live, rfl⟩).2
    rintro m hm u ⟨hu, hcontents⟩
    have hlive := World.live_answer hu m.1
    rw [World.answer_engine hu (hto m hm).backend] at hlive ⊢
    exact ⟨hlive, hcontents⟩
  · have hsource : (DocumentWrite.ofRequest s request hash).source = document s.fillAbsent hash
      (.ofOption request.contentType) (some request.resolvedFields) := rfl
    rw [hsource] at hd
    rcases hd with rfl | ⟨old, rfl⟩
    · rw [document_eq_putAll]
      exact get?_written_hash [] _ _ _ hf
    · exact get?_written_hash old _ _ _ hf

end Indexing

/-! ## One attempt -/

namespace Repository

/-- What an attempt to save an entity that has an identifier asks, and what it leaves: nothing is
asked and the entity stays; or its content is stored and indexed, without a receipt or with one, and
then the entity gets its hash. -/
inductive Attempted (r : Repository) (s : Settings) (kept : Entity) (external : Json) :
    Traffic → Entity × Option Failure → Prop
  | refused (f : Failure) : Attempted r s kept external [] (kept, some f)
  | failed {request : IndexRequest} {stored indexed : Traffic} {hash : Json}
    (hrequest : r.indexRequest kept external = .ok request)
    (hstored : AsksToStore s (EntityModel.serialize kept) stored)
    (hindexed : AsksToIndex s request hash indexed none) (f : Failure) :
    Attempted r s kept external (stored ++ indexed) (kept, some f)
  | saved {request : IndexRequest} {stored indexed : Traffic} {hash : Json} {receipt : Receipt}
    (hrequest : r.indexRequest kept external = .ok request) (hn : r.index ≠ "")
    (hstored : AsksToStore s (EntityModel.serialize kept) stored)
    (hhash : storedHash? stored = some hash)
    (hindexed : AsksToIndex s request hash indexed (some receipt)) :
    Attempted r s kept external (stored ++ indexed)
      (r.model.withHash kept (some receipt.hash), none)

variable {r : Repository} {s : Settings} {kept : Entity} {external : Json} {id : String}

/-- What a save does once the entity has an identifier. -/
def saving (r : Repository) (d : Depot) (external : Json) (kept : Entity) :
    Exchange (Entity × Option Failure) :=
  match r.indexRequest kept external with
  | .error f => pure (kept, some f)
  | .ok request => (d.storeAndIndexFile (some (EntityModel.serialize kept)) (some request)).run >>=
    fun
    | .ok receipt => pure (r.model.withHash kept (some receipt.hash), none)
    | .error f => pure (kept, some f)

theorem save_eq (r : Repository) (d : Depot) (entity : Entity) (external : Json) :
    r.save d entity external = r.identified entity >>= r.saving d external := rfl

theorem save_of_named {d : Depot} (hid : r.model.idOf kept = .str id) :
    r.save d kept external = r.saving d external kept := by
  rw [save_eq, identified, hid]
  rfl

/-- Every attempt is one of these. -/
theorem attempted_save {ω : Type} (hid : r.model.idOf kept = .str id)
    (answer : Request → ω → Reply × ω) (c : Context) (w : ω) :
    r.Attempted s kept external (traffic answer (r.save (.remote s) kept external) c w)
      (run answer (r.save (.remote s) kept external) c w).1 := by
  rw [save_of_named hid, saving]
  rcases hrequest : r.indexRequest kept external with f | request
  · exact .refused f
  have hindex := (indexRequest_ok hrequest).2.1
  dsimp only
  rw [traffic_bind, run_bind]
  by_cases hn : request.index = ""
  · have hrefused : ((Depot.remote s).storeAndIndexFile (some (EntityModel.serialize kept))
        (some request)).run = pure (.error (.error (.emptyParameter "index_name"))) := by
      unfold Depot.storeAndIndexFile
      dsimp only
      rw [hn]
      rfl
    rw [hrefused]
    exact .refused _
  obtain ⟨stored, indexed, htraffic, hstored, hrest⟩ :=
    asks_storeAndIndexFile s hn answer c w (EntityModel.serialize kept)
  rw [htraffic]
  rcases hresult : (carry answer ((Depot.remote s).storeAndIndexFile
    (some (EntityModel.serialize kept)) (some request)) c w).1 with f | receipt
  all_goals
    rw [hresult] at hrest
    rw [show (run answer ((Depot.remote s).storeAndIndexFile _ _).run c w).1 = _ from hresult]
  · have hindexed : ∃ hash, AsksToIndex s request hash indexed none := by
      split at hrest
      · exact ⟨.null, .inl ⟨hrest.1, rfl⟩⟩
      · exact ⟨_, hrest.2.2⟩
    obtain ⟨hash, hindexed⟩ := hindexed
    have hfailed := Attempted.failed hrequest hstored hindexed f
    rw [← List.append_nil (stored ++ indexed)] at hfailed
    exact hfailed
  · split at hrest
    · cases hrest.2
    · obtain ⟨hhash, -, hindexed⟩ := hrest
      have hsaved := Attempted.saved hrequest (hindex ▸ hn) hstored hhash hindexed
      rw [← List.append_nil (stored ++ indexed)] at hsaved
      exact hsaved

namespace Attempted

variable {t : Traffic} {left : Entity × Option Failure} {index : String}

/-- An attempt that failed leaves the entity as it was. -/
theorem left_eq (h : r.Attempted s kept external t left) (hf : left.2.isSome = true) :
    left.1 = kept := by
  cases h with
  | saved => cases hf
  | _ => rfl

/-- Whatever an attempt asks, nothing changes but the document of the entity and its content. -/
theorem touches (h : r.Attempted s kept external t left) (hl : s.PointsTo r.index index)
    (hid : r.model.idOf kept = .str id) (hseg : IsSegment id) :
    ∀ m ∈ t, m.1.Touches index id (EntityModel.serialize kept) := by
  have happend : ∀ {request : IndexRequest} {stored indexed : Traffic} {hash : Json}
      {receipt? : Option Receipt}, r.indexRequest kept external = .ok request →
      AsksToStore s (EntityModel.serialize kept) stored →
      AsksToIndex s request hash indexed receipt? →
      ∀ m ∈ stored ++ indexed, m.1.Touches index id (EntityModel.serialize kept) := by
    intro request stored indexed hash receipt? hrequest hstored hindexed m hm
    obtain ⟨hgiven, hindex, -⟩ := indexRequest_ok hrequest
    rcases List.mem_append.1 hm with hm | hm
    · exact hstored.touches m hm
    · exact hindexed.touches (hindex ▸ hl) (by rw [hgiven, hid]; rfl) hseg m hm
  cases h with
  | refused f => exact fun _ h => nomatch h
  | failed hrequest hstored hindexed f => exact happend hrequest hstored hindexed
  | saved hrequest hn hstored hhash hindexed => exact happend hrequest hstored hindexed

/-- An attempt that succeeded has added the content of the entity, and has put a document with its
hash. -/
theorem put {entity : Entity} {w w' : World} (h : r.Attempted s kept external t (entity, none))
    (hid : r.model.idOf kept = .str id) (hseg : IsSegment id) (hr : ¬ r.Indexes external hashKey)
    (hu : Undergoes w t w') (hw : w.Works) :
    entity = r.model.withHash kept (some (Blobs.hashOf (EntityModel.serialize kept))) ∧
      w'.contents = w.contents.add (EntityModel.serialize kept) ∧
      ∃ index, s.PointsTo r.index index ∧ ∃ d,
        Entries.get? d hashKey = some (.str (Blobs.hashOf (EntityModel.serialize kept))) ∧
        ∀ other, w'.engine.documents other =
          if index = other then Entries.put (w.engine.documents index) id d
          else w.engine.documents other := by
  cases h with
  | saved hrequest hn hstored hhash hindexed =>
  obtain ⟨hgiven, hindex, hfields⟩ := indexRequest_ok hrequest
  obtain ⟨w₁, hu₁, hu₂⟩ := Undergoes.append_iff.1 hu
  obtain ⟨hadded, hengine, hcontents⟩ := hstored.added hu₁ hw hhash
  have hw₁ := hu₁.keeps (fun m _ u hu => hu.answer m.1) hw
  have hf : ∀ f ∈ IndexRequest.allFields _, f.name ≠ hashKey := fun f hf heq =>
    hr (heq ▸ hfields f hf)
  obtain ⟨hsame, index, hl, d, hd, hput⟩ := hindexed.put (hindex.symm ▸ hn)
    (by rw [hgiven, hid]; rfl) hseg hf hu₂ hw₁
  have hreceipt := Json.str.inj (hindexed.hash_eq.symm.trans hadded)
  refine ⟨by rw [hreceipt], hsame.trans hcontents, index, hindex ▸ hl, d, hadded ▸ hd, ?_⟩
  rwa [hengine] at hput

end Attempted

/-! ## The identifier -/

/-- The entity as it is kept under an identifier: its own, or one that it is given for want of one.
-/
def Names (r : Repository) (entity kept : Entity) (id : String) : Prop :=
  r.model.idOf entity = .str id ∧ kept = entity ∨
    r.model.idOf entity = .null ∧ kept = r.model.withId entity id

/-- Before anything else happens an entity is named, and it is saved as the one with this name. -/
theorem exists_named {ω : Type} {entity : Entity} (d : Depot)
    (hid : r.model.idOf entity = .null ∨ ∃ id, r.model.idOf entity = .str id ∧ IsSegment id)
    (answer : Request → ω → Reply × ω) (c : Context) (w : ω) :
    ∃ id kept c', r.Names entity kept id ∧ r.model.idOf kept = .str id ∧ IsSegment id ∧
      ∀ external, SameFrom answer c c' w (r.save d entity external) (r.save d kept external) := by
  rcases hid with hnull | ⟨id, hid, hseg⟩
  · refine ⟨_, _, { c with issued := c.issued + 1 }, .inr ⟨hnull, rfl⟩,
      EntityModel.idOf_withId .., isSegment_fresh (c.issued + 1), fun external => ?_⟩
    rw [save_of_named (EntityModel.idOf_withId ..), save_eq]
    refine SameFrom.silent_bind ?_ ?_ _ <;> rw [identified, hnull] <;> rfl
  · exact ⟨id, entity, c, .inl ⟨hid, rfl⟩, hid, hseg, fun external => ⟨rfl, rfl⟩⟩

/-! ## Many attempts -/

/-- Saves that fail, one after the other, each of the entity that the one before has left; the list
has what each of them leaves. -/
inductive FailedSaves (r : Repository) (d : Depot) {ω : Type} (answer : Request → ω → Reply × ω) :
    List Entity → Entity → Context → ω → Entity → Context → ω → Prop
  | none {entity : Entity} {c : Context} {w : ω} : FailedSaves r d answer [] entity c w entity c w
  | more {entity left entity' : Entity} {external : Json} {f : Failure} {lefts : List Entity}
    {c c₁ c' : Context} {w w₁ w' : ω}
    (hrun : run answer (r.save d entity external) c w = ((left, some f), c₁, w₁))
    (h : FailedSaves r d answer lefts left c₁ w₁ entity' c' w') :
    FailedSaves r d answer (left :: lefts) entity c w entity' c' w'

namespace FailedSaves

variable {ω : Type} {answer : Request → ω → Reply × ω} {world : ω → World} {lefts : List Entity}
  {entity entity' : Entity} {c c' : Context} {w w' : ω}

/-- Where every save of an entity is one of another entity, the attempts are attempts with this
one. -/
theorem named {d : Depot} {c₀ : Context} (h : r.FailedSaves d answer lefts entity c w entity' c' w')
    (hsame : ∀ external, SameFrom answer c c₀ w (r.save d entity external)
      (r.save d kept external)) (external : Json) :
    ∃ kept' c₁, r.FailedSaves d answer lefts kept c₀ w kept' c₁ w' ∧
      run answer (r.save d entity' external) c' w' =
        run answer (r.save d kept' external) c₁ w' := by
  cases h with
  | none => exact ⟨kept, c₀, .none, (hsame external).run_eq⟩
  | more hrun h => exact ⟨entity', c', .more ((hsame _).run_eq.symm.trans hrun) h, rfl⟩

/-- Attempts that fail with an entity that has an identifier leave it as it is, and whatever they
ask, nothing changes but the document of the entity and its content. -/
theorem undergoes (h : r.FailedSaves (.remote s) answer lefts kept c w entity' c' w')
    (hworld : Refusing answer world) (hid : r.model.idOf kept = .str id) (hseg : IsSegment id) :
    entity' = kept ∧ (∀ left ∈ lefts, left = kept) ∧
      ∃ t, Undergoes (world w) t (world w') ∧
        ∀ index, s.PointsTo r.index index →
          ∀ m ∈ t, m.1.Touches index id (EntityModel.serialize kept) := by
  induction h with
  | none => exact ⟨rfl, fun _ h => (nomatch h), [], .nil, fun _ _ _ h => nomatch h⟩
  | @more entity left entity' external f lefts c c₁ c' w w₁ w' hrun h ih =>
    have hattempt : r.Attempted s entity external _ _ := attempted_save hid answer c w
    have hundergoes := hworld.undergoes (r.save (.remote s) entity external) c w
    rw [hrun] at hattempt hundergoes
    obtain rfl : left = entity := hattempt.left_eq rfl
    obtain ⟨rfl, hlefts, t, ht, htouches⟩ := ih hid
    refine ⟨rfl, ?_, _, Undergoes.append_iff.2 ⟨_, hundergoes, ht⟩, fun index hl m hm => ?_⟩
    · intro left' hm
      rcases List.mem_cons.1 hm with rfl | hm
      · rfl
      · exact hlefts left' hm
    · rcases List.mem_append.1 hm with hm | hm
      · exact hattempt.touches hl hid hseg m hm
      · exact htouches index hl m hm

end FailedSaves

/-- The sixth request is refused: the first to make a new document visible. -/
def refusedRefresh : Refusals :=
  [none, none, none, none, none, some ⟨.disrupted "timed out", fun _ h => nomatch h⟩]

/-- A save of a person, and one of what it leaves: how they end, and what they leave. -/
def savedTwice : Exchange ((Bool × Bool) × Entity) := do
  let first ← people.save (.remote .standard) (person "a" none "Ann" 41) .null
  let second ← people.save (.remote .standard) first.1 .null
  return ((first.2.isSome, second.2.isSome), first.1)

theorem run_savedTwice {ω : Type} (answer : Request → ω → Reply × ω) (c : Context) (w : ω) :
    run answer savedTwice c w =
      let first := run answer
        (people.save (.remote .standard) (person "a" none "Ann" 41) .null) c w
      let second := run answer (people.save (.remote .standard) first.1.1 .null) first.2.1 first.2.2
      (((first.1.2.isSome, second.1.2.isSome), first.1.1), second.2) := by
  simp only [savedTwice, run_bind, run_pure]

theorem failures_savedTwice :
    (run answerOrRefuse savedTwice .initial (World.initial true, refusedRefresh)).1.1 =
      (true, false) := by decide +kernel

end Repository

end ContentDepot
