import ContentDepot.Proofs.Repository.Runs

/-!
# Saving again what a save has left

The hash of the content is an attribute of the entity, and it is set only when the
content has been stored. So what a save has left is not what it has stored, and to save
it again is to store another content, with the first hash in it, under another hash
(`saved_again`).

What is indexed is the same field by field, but for the hash itself
(`Repository.indexRequest_withHash`), so the document keeps all its other values
(`Repository.get?_rewritten`).
-/

namespace ContentDepot

open Exchange InMemory Search MetadataIndex Address

/-! ## Fields of an entity with a hash -/

namespace EntityModel

variable {m : EntityModel} {e : Entity} {path : String} {a : Attribute}

/-- The attributes that a path leads to are as they were when the entity has got a hash, but for the
hash itself. -/
theorem attribute?_withHash (hm : m.HoldsText m.hashAttribute) (h : m.Admits e)
    (ha : e.attribute? path = some a) (hash : String) :
    (m.withHash e (some hash)).attribute? path = some a ∨
      path = m.hashAttribute ∧ (∃ v, Entries.get? e m.hashAttribute = some v ∧ a = .value v) ∧
        (m.withHash e (some hash)).attribute? path = some (.value (.str hash)) := by
  unfold Entity.attribute? at ha ⊢
  rcases hpath : path.toList.splitOn '.' with _ | ⟨name, names⟩
  · rw [hpath] at ha
    cases ha
  simp only [hpath, List.map_cons, withHash, Entries.get?_put] at ha ⊢
  by_cases hname : m.hashAttribute = String.ofList name
  · rw [if_pos hname]
    -- The entity has the attribute, and it is a text or null.
    obtain ⟨v, hv⟩ : ∃ v, Entries.get? e m.hashAttribute = some v := by
      rw [← Option.isSome_iff_exists, Entries.get?_isSome, h.keys, List.contains_iff_mem]
      exact hm.mem
    obtain ⟨b, hb, hkey, hadmits⟩ := h.of_mem (Entries.mem_of_get? hv)
    obtain ⟨t, ht⟩ := AttributeKind.eq_ofOption (hm.text b hb hkey.symm) hadmits
    rw [← hname, hv] at ha
    cases names with
    | nil =>
      cases ha
      have hwhole : ['.'].intercalate (path.toList.splitOn '.') = path.toList :=
        List.intercalate_splitOn ..
      rw [hpath, List.intercalate_singleton] at hwhole
      refine .inr ⟨?_, ⟨v, hv, rfl⟩, rfl⟩
      rw [hname, hwhole, String.ofList_toList]
    | cons n ns =>
      left
      replace ht : v = .ofOption t := ht
      subst ht
      cases t with
      | none => cases ha
      | some s => exact ha
  · rw [if_neg hname]
    exact .inl ha

end EntityModel

namespace Repository

variable {r : Repository} {e : Entity} {hash : String} {external again : Json}
  {request : IndexRequest}

/-- A field of a save, and the one of the save of the same entity with a hash: the same, or the
field of the hash, if this is indexed. -/
def Rehashes (r : Repository) (e : Entity) (hash : String) (f f' : IndexField) : Prop :=
  f' = f ∨ r.model.hashAttribute ∈ r.fields ∧ ∃ v,
    Entries.get? e r.model.hashAttribute = some v ∧ f = ⟨r.model.hashAttribute, v, true⟩ ∧
      f' = ⟨r.model.hashAttribute, .str hash, true⟩

theorem Rehashes.name {f f' : IndexField} (h : r.Rehashes e hash f f') : f'.name = f.name := by
  rcases h with rfl | ⟨-, v, -, rfl, rfl⟩ <;> rfl

theorem makeField_ok {name : String} {value : Json} {f : IndexField}
    (h : makeField name value = .ok f) :
    f = ⟨name, value, true⟩ ∧ ∀ v, makeField name v = .ok ⟨name, v, true⟩ := by
  unfold makeField at h ⊢
  split at h
  · cases h
  · rename_i hname
    cases h
    exact ⟨rfl, fun v => if_neg hname⟩

/-- The fields of an entity with a hash are those without it, one by one. -/
theorem indexFields_withHash (hm : r.model.IsSound) (h : r.model.Admits e)
    {fields : List IndexField} (hf : r.indexFields e = .ok fields) (hash : String) :
    ∃ fields', r.indexFields (r.model.withHash e (some hash)) = .ok fields' ∧
      List.Forall₂ (r.Rehashes e hash) fields fields' := by
  refine exists_mapM_of_forall₂ (forall₂_of_mapM hf) fun name hname f hmade => ?_
  rcases ha : e.attribute? name with _ | a
  · rw [ha] at hmade
    cases hmade
  rcases EntityModel.attribute?_withHash hm.hash h ha hash with
    hsame | ⟨rfl, ⟨v, hv, rfl⟩, hhash⟩
  · rw [hsame]
    rw [ha] at hmade
    exact ⟨f, hmade, .inl rfl⟩
  · rw [hhash]
    rw [ha] at hmade
    obtain ⟨rfl, hmake⟩ := makeField_ok hmade
    exact ⟨_, hmake _, .inr ⟨mem_fields hname, v, hv, rfl, rfl⟩⟩

/-- The external fields of a save, and of one that repeats it: the same ones, or none, if the others
took the place of nothing that is written without them. -/
def Repeats (r : Repository) (external again : Json) : Prop :=
  again = external ∨ again = .null ∧
    ∀ name ∈ externalNames external, name ≠ contentTypeKey ∧ name ∉ r.fields

theorem last?_of_rehashes {fields fields' : List IndexField}
    (h : List.Forall₂ (r.Rehashes e hash) fields fields') (name : String) :
    Option.Rel (r.Rehashes e hash) (fields.filter (·.name = name)).getLast?
      (fields'.filter (·.name = name)).getLast? :=
  getLast?_of_forall₂ (List.rel_filter (fun f f' hf => by simp [hf.name]) h)

/-- An entity with a hash is indexed as it is without it, field by field, but for external fields
that are not given again. -/
theorem indexRequest_withHash (hm : r.model.IsSound) (h : r.model.Admits e)
    (hr : r.indexRequest e external = .ok request) (hagain : r.Repeats external again)
    (hash : String) :
    ∃ request', r.indexRequest (r.model.withHash e (some hash)) again = .ok request' ∧
      request'.contentType = request.contentType ∧
      ∀ name, Option.Rel (r.Rehashes e hash) (request.lastField? name) (request'.lastField? name) ∨
        name ≠ contentTypeKey ∧ name ∉ r.fields ∧ name ∈ externalNames external ∧
          request'.lastField? name = none := by
  unfold indexRequest at hr ⊢
  rcases hfields : r.indexFields e with failure | fields
  · rw [hfields] at hr
    cases hr
  rcases hexternal : r.externalFields external with failure | found
  · rw [hfields, hexternal] at hr
    cases hr
  rw [hfields, hexternal] at hr
  cases hr
  obtain ⟨fields', hfields', hall⟩ := indexFields_withHash hm h hfields hash
  rw [hfields']
  rcases hagain with rfl | ⟨rfl, hapart⟩
  · rw [hexternal]
    refine ⟨_, rfl, rfl, fun name => .inl (last?_of_rehashes (List.rel_append hall ?_) name)⟩
    exact List.forall₂_same.2 fun f _ => .inl rfl
  · refine ⟨_, rfl, rfl, fun name => ?_⟩
    have hnone : ([] : List IndexField).filter (·.name = name) = [] := rfl
    by_cases hname : name ∈ externalNames external
    · obtain ⟨hkey, hfield⟩ := hapart name hname
      refine .inr ⟨hkey, hfield, hname, IndexRequest.lastField?_of_ne _ fun f hf heq => hfield ?_⟩
      rw [← heq]
      exact mem_of_indexFields hfields' (by simpa [IndexRequest.allFields] using hf)
    · -- No external field of the first save has this name.
      have hlast : (found.getD []).filter (·.name = name) = [] := by
        rw [List.filter_eq_nil_iff]
        intro f hf heq
        cases found with
        | none => cases hf
        | some found =>
          exact hname (of_decide_eq_true heq ▸ mem_of_externalFields hexternal hf)
      left
      rw [IndexRequest.lastField?, IndexRequest.allFields, List.filter_append, hlast, ← hnone,
        ← List.filter_append]
      exact last?_of_rehashes (List.rel_append hall .nil) name

section Documents

variable {request' : IndexRequest} {fill : Bool} {old : Entries Json} {contentType : Json}
  {first second : String}
  (hlast : ∀ name, Option.Rel (r.Rehashes e hash) (request.lastField? name)
      (request'.lastField? name) ∨
    name ≠ contentTypeKey ∧ name ∉ r.fields ∧ name ∈ externalNames external ∧
      request'.lastField? name = none)

include hlast

theorem hasForm_of_rehashes (h : request.HasForm fill) : request'.HasForm fill := by
  intro f hf
  have hf' := IndexRequest.mem_resolvedFields_iff _ |>.1 hf
  rcases hlast f.name with hrel | ⟨-, -, -, hnone⟩
  · rw [hf'] at hrel
    generalize hfound : request.lastField? f.name = found at hrel
    cases hrel with
    | @some f₀ _ hrehash =>
      rcases hrehash with rfl | ⟨-, v, -, rfl, rfl⟩
      · exact h f ((IndexRequest.mem_resolvedFields_iff _).2 hfound)
      · exact ⟨rfl, sendable_fillAbsent fill rfl⟩
  · rw [hnone] at hf'
    cases hf'

/-- A key of the document keeps its value, unless it is that of the hash or names an attribute that
held another hash. -/
theorem get?_rewritten (hexternal : hashKey ∉ externalNames external) {key : String}
    (hkey : key = hashKey → first = second)
    (hattribute : key ∈ r.fields → key = r.model.hashAttribute →
      Entries.get? e r.model.hashAttribute = some (.str hash)) :
    Entries.get? (Entries.putAll
        (Entries.putAll old
          (document fill (.str first) contentType (some request.resolvedFields)))
        (document fill (.str second) contentType (some request'.resolvedFields))) key =
      Entries.get? (Entries.putAll old
        (document fill (.str first) contentType (some request.resolvedFields))) key := by
  have hreserved : ∀ hash : Json,
      Entries.last? [(hashKey, hash), (contentTypeKey, contentType)] key =
        if key = contentTypeKey then some contentType
        else if key = hashKey then some hash else none := by
    intro hash
    simp only [Entries.last?, eq_comm (a := key)]
    split <;> split <;> simp_all
  have hd := get?_written old fill (.str first) contentType request key
  rw [get?_written]
  generalize Entries.get? (Entries.putAll old _) key = written at hd ⊢
  rw [hreserved] at hd ⊢
  have hnamed : ∀ f, request.lastField? key = some f → f.name = key :=
    fun _ h => (request.name_of_lastField? h).2
  rcases hlast key with hrel | ⟨htype, -, hname, hnone⟩
  · generalize request.lastField? key = last at hd hrel hnamed
    generalize request'.lastField? key = last' at hrel ⊢
    cases hrel with
    | none =>
      simp only [Option.map_none, Option.none_or] at hd ⊢
      split
      · rename_i htype
        rw [hd, if_pos htype]
        rfl
      · split
        · rename_i htype hhash
          rw [hd, if_neg htype, if_pos hhash, hkey hhash]
          rfl
        · rfl
    | some hrehash =>
      rcases hrehash with rfl | ⟨hfield, v, hv, rfl, rfl⟩
      · rw [hd]
        rfl
      · obtain rfl := hnamed _ rfl
        obtain rfl := Option.some.inj (hv.symm.trans (hattribute hfield rfl))
        rw [hd]
        rfl
  · have hne : key ≠ hashKey := fun h => hexternal (h ▸ hname)
    rw [hnone, if_neg htype, if_neg hne]
    rfl

/-- The document stays as it is if the entity had the hash already. -/
theorem putAll_rewritten (hexternal : hashKey ∉ externalNames external)
    (hattribute : Entries.get? e r.model.hashAttribute = some (.str hash)) :
    Entries.putAll
        (Entries.putAll old
          (document fill (.str first) contentType (some request.resolvedFields)))
        (document fill (.str first) contentType (some request'.resolvedFields)) =
      Entries.putAll old
        (document fill (.str first) contentType (some request.resolvedFields)) :=
  Entries.putAll_eq_self (nodup_document ..) fun _ _ =>
    get?_rewritten hlast hexternal (fun _ => rfl) fun _ _ => hattribute

end Documents

end Repository

/-! ## The second save -/

variable {s : Settings} {e : Endpoint} {σ σ' : Session} {r : Repository} {entity left : Entity}
  {external again : Json} {id index : String} {request : IndexRequest}

namespace Repository

/-- An entity that has an identifier is stored as it is. -/
theorem stored_of_id (h : r.model.idOf entity = .str id) (left : Entity) :
    r.model.stored entity left = entity := by
  rw [EntityModel.stored, h, if_neg (by simp)]

theorem talk_identified_of_id (h : r.model.idOf entity = .str id) (σ : Session) :
    σ.talk (r.identified entity) = (entity, σ) := by
  unfold identified
  rw [h]
  rfl

namespace Written

/-- The document that a save has written. -/
theorem get?_document (h : r.Written s e σ σ' entity left external id request)
    (hl : e.address.Leads (Text.lower r.index) index) :
    Entries.get? (σ'.world.engine.documents index) id = some (Entries.putAll
      ((Entries.get? (σ.world.engine.documents index) id).getD [])
      (document s.fillAbsent (.str (Blobs.hashOf (r.model.contentOf entity left)))
        (.ofOption request.contentType) (some request.resolvedFields))) := by
  rw [h.documents index hl, if_pos rfl, Entries.get?_put_self]

/-- The content that a save has stored. -/
theorem get?_content (h : r.Written s e σ σ' entity left external id request) :
    Entries.get? σ'.world.contents.blobs (Blobs.hashOf (r.model.contentOf entity left)) =
      some (r.model.contentOf entity left) := by
  rw [h.contents, Blobs.add, Entries.get?_put_self]

/-- What a save has left has the hash of what it has stored. -/
theorem get?_hash (h : r.Written s e σ σ' entity left external id request) :
    Entries.get? left r.model.hashAttribute =
      some (.str (Blobs.hashOf (r.model.contentOf entity left))) :=
  (congrArg (Entries.get? · r.model.hashAttribute) h.withHash).symm.trans
    (Entries.get?_put_self ..)

/-- What a save has left can be saved again. -/
theorem takes_again (h : r.Written s e σ σ' entity left external id request)
    (hm : r.model.IsSound) (hexternal : hashKey ∉ externalNames external)
    (hagain : r.Repeats external again) : r.Takes left again where
  admits := h.withHash ▸ h.admits.put hm.hash _
  id := by
    rw [h.idOf]
    exact fun h0 => h.id_ne (Json.str.inj h0)
  external := by
    rcases hagain with rfl | ⟨rfl, -⟩
    · exact hexternal
    · exact nofun

/-- The paths of a second save are admitted, if the document can be updated. -/
theorem admits_again (h : r.Written s e σ σ' entity left external id request) (he : e.IsEngine)
    (hl : e.address.Leads (Text.lower r.index) index)
    (hupdate : Allows e (Text.lower r.index)
      ["_update".toList, (Text.Percent.segment id).toList]) :
    Admits e (Text.lower r.index) index (some id) := by
  have hgiven : given (some id) = some id := by
    rw [given, Option.filter_some, if_pos (by simpa using h.id_ne)]
  obtain ⟨h1, h2, hdocument⟩ := h.reaches
  refine ⟨he, hl, ?_, h.refreshes, ?_, fun t ht => ?_, fun t ht => ?_⟩
  · exact target_name_of_refresh he (Text.lower_ne_empty h.name) hl h.id_ne h.reaches h.refreshes
  · rw [hgiven]
    rwa [documentPath_eq] at hdocument
  · rw [hgiven] at ht
    exact Option.some.inj ht ▸ hupdate
  · rw [hgiven] at ht
    exact Option.some.inj ht ▸ ⟨h1, h2⟩

/-- Saved again, what a save has left is stored as it is. -/
theorem contentOf_again (h : r.Written s e σ σ' entity left external id request) (left' : Entity) :
    r.model.contentOf left left' = EntityModel.serialize left := by
  rw [EntityModel.contentOf, stored_of_id h.idOf]

/-- What a save has left is found, though it may be that it cannot be read. -/
theorem find (h : r.Written s e σ σ' entity left external id request) (hs : s.HostsAreRoots)
    (he : s.endpoint? .engine = some e) (hσ : σ'.IsOver s) (ho : r.IsOrdinary e index)
    (hstore : σ'.world.contents.failing = none)
    (hexternal : hashKey ∉ externalNames external) :
    (σ'.call (.repository r (.find (.str id)))).1 =
      if left.isLegible then .entity (some left)
      else .failed (.invalid [⟨.jsonInvalid, []⟩]) :=
  find_of_present hs he hσ ho h.engine hstore h.id_ne h.reaches (h.get?_document ho.leads)
    ⟨get?_written_hash _ _ _ _ (h.name_ne ho.fields hexternal), h.admits, h.withHash⟩ h.get?_content

section Again

variable {σ'' : Session} {left' : Entity} {request' : IndexRequest}
  (h : r.Written s e σ σ' entity left external id request)
  (h' : r.Written s e σ' σ'' left left' again id request')

include h h'

/-- A second save sets the hash of what the first has left. -/
theorem withHash_again :
    r.model.withHash left (some (Blobs.hashOf (EntityModel.serialize left))) = left' := by
  have hleft := h'.withHash
  rwa [h.contentOf_again, stored_of_id h.idOf] at hleft

/-- A second save goes over the document of the first. -/
theorem documents_again (hl : e.address.Leads (Text.lower r.index) index) (other : String) :
    σ''.world.engine.documents other = if index = other then
      Entries.put (σ'.world.engine.documents index) id (Entries.putAll
        (Entries.putAll ((Entries.get? (σ.world.engine.documents index) id).getD [])
          (document s.fillAbsent (.str (Blobs.hashOf (r.model.contentOf entity left)))
            (.ofOption request.contentType) (some request.resolvedFields)))
        (document s.fillAbsent (.str (Blobs.hashOf (EntityModel.serialize left)))
          (.ofOption request'.contentType) (some request'.resolvedFields)))
      else σ'.world.engine.documents other := by
  have hdocuments := h'.documents index hl other
  rwa [h.get?_document hl, Option.getD_some, h.contentOf_again] at hdocuments

/-- A second save changes nothing if the entity held the hash of its content when it was first
stored. -/
theorem kept (hl : e.address.Leads (Text.lower r.index) index)
    (hexternal : hashKey ∉ externalNames external)
    (htype : request'.contentType = request.contentType)
    (hlast : ∀ name, Option.Rel (r.Rehashes (r.model.stored entity left)
        (Blobs.hashOf (r.model.contentOf entity left))) (request.lastField? name)
        (request'.lastField? name) ∨
      name ≠ contentTypeKey ∧ name ∉ r.fields ∧ name ∈ externalNames external ∧
        request'.lastField? name = none)
    (hfixed : r.model.stored entity left = left) :
    left' = left ∧ σ''.world.contents = σ'.world.contents ∧
      ∀ other, σ''.world.engine.documents other = σ'.world.engine.documents other := by
  have hsame : r.model.contentOf entity left = EntityModel.serialize left :=
    congrArg EntityModel.serialize hfixed
  have hleft := h.withHash
  have hhash := h.get?_hash
  have hdocument := h.get?_document hl
  have hdocuments := h.documents_again h' hl
  have hcontents := h'.contents
  rw [hfixed, hsame] at hleft hlast
  rw [hsame] at hhash hdocument hdocuments
  rw [h.contentOf_again] at hcontents
  refine ⟨(h.withHash_again h').symm.trans hleft, ?_, fun other => ?_⟩
  · rw [hcontents, h.contents, hsame, Blobs.add_add]
  · rw [hdocuments, htype, putAll_rewritten hlast hexternal hhash, Entries.put_of_get? hdocument]
    split
    · rename_i heq
      rw [heq]
    · rfl

/-- A second save leaves another hash if what the first has stored had another content, of another
digest. -/
theorem hash_ne (hm : r.model.IsSound)
    (hdigest : Blobs.hashOf (r.model.contentOf entity left) =
      Blobs.hashOf (EntityModel.serialize left) →
        r.model.contentOf entity left = EntityModel.serialize left)
    (hchanged : r.model.stored entity left ≠ left) :
    Entries.get? left' r.model.hashAttribute ≠ Entries.get? left r.model.hashAttribute := by
  intro heq
  rw [h'.get?_hash, h.get?_hash, h.contentOf_again] at heq
  refine hchanged (h.admits.serialize_inj hm ?_ (hdigest ?_))
  · rw [← h.withHash]
    exact h.admits.put hm.hash _
  · exact (Json.str.inj (Option.some.inj heq)).symm

end Again

end Written

end Repository

namespace Session

/-- Calls that do not save leave documents and contents. -/
theorem keeps_reads (hs : s.HostsAreRoots) (hσ : σ.IsOver s)
    (hn : Depot.NameLeads s (.str r.index)) {reads : List RepositoryCall}
    (hreads : ∀ c ∈ reads, c.isSave = false) :
    σ.world.Keeps (σ.runCalls (reads.map (.repository r))).2.world ∧
      (σ.runCalls (reads.map (.repository r))).2.world.contents = σ.world.contents := by
  induction reads generalizing σ with
  | nil => exact ⟨.refl hσ.live, rfl⟩
  | cons c cs ih =>
    rw [List.map_cons, runCalls_cons]
    obtain ⟨hkeeps, hcontents⟩ := keeps_read hs hσ hn (hreads c (List.mem_cons_self ..))
    obtain ⟨hrest, hleft⟩ := ih (hσ.perform _) fun c' hc => hreads c' (List.mem_cons_of_mem _ hc)
    exact ⟨hkeeps.trans hrest, hleft.trans hcontents⟩

/-- What a save has written is there after calls that do not save. -/
theorem written_after_reads (hs : s.HostsAreRoots) (hσ : σ'.IsOver s)
    (hn : Depot.NameLeads s (.str r.index)) {reads : List RepositoryCall}
    (hreads : ∀ c ∈ reads, c.isSave = false)
    (h : r.Written s e σ σ' entity left external id request) :
    r.Written s e σ (σ'.runCalls (reads.map (.repository r))).2 entity left external id
      request := by
  obtain ⟨hkeeps, hcontents⟩ := keeps_reads hs hσ hn hreads
  exact { h with
    contents := hcontents.trans h.contents
    engine := hkeeps.engine.failing.trans h.engine
    documents := fun index hl other =>
      (hkeeps.engine.documents other).trans (h.documents index hl other) }

/-- A second save succeeds, and its request is that of the first with the hash in it. -/
theorem save_again_of_written {σ₂ : Session} (hs : s.HostsAreRoots)
    (he : s.endpoint? .engine = some e) (ho : r.IsOrdinary e index)
    (h : r.Written s e σ σ' entity left external id request)
    (hexternal : hashKey ∉ Repository.externalNames external) (hagain : r.Repeats external again)
    (hupdate : Allows e (Text.lower r.index) ["_update".toList, (Text.Percent.segment id).toList])
    (hσ : σ₂.IsOver s) (hengine : σ₂.world.engine.failing = none)
    (hstore : σ₂.world.contents.failing = none) :
    ∃ left' request',
      (σ₂.call (.repository r (.save left again))).1 = .saved left' none ∧
      r.Written s e σ₂ (σ₂.call (.repository r (.save left again))).2 left left' again id request' ∧
      request'.contentType = request.contentType ∧
      ∀ name, Option.Rel (r.Rehashes (r.model.stored entity left)
          (Blobs.hashOf (r.model.contentOf entity left))) (request.lastField? name)
          (request'.lastField? name) ∨
        name ≠ contentTypeKey ∧ name ∉ r.fields ∧ name ∈ Repository.externalNames external ∧
          request'.lastField? name = none := by
  obtain ⟨request', hrequest, htype, hlast⟩ :=
    Repository.indexRequest_withHash ho.model h.admits h.asked hagain
      (Blobs.hashOf (r.model.contentOf entity left))
  rw [h.withHash] at hrequest
  obtain ⟨hrid, -, -⟩ := Repository.indexRequest_ok hrequest
  have hidentified := Repository.talk_identified_of_id h.idOf σ₂
  have hadmits : Admits e (Text.lower r.index) index request'.id := by
    rw [hrid, h.idOf]
    exact h.admits_again (hs.isEngine he) ho.leads hupdate
  obtain ⟨left', hleft⟩ := save_of_admitted hs he hσ hengine hstore
    (by rw [hidentified]; exact hrequest) ho.name hadmits
    (Repository.hasForm_of_rehashes hlast h.form)
  obtain ⟨id', request'', hw⟩ := written_of_outcome hs he hσ ho.model
    (h.takes_again ho.model hexternal hagain) hleft
  have hasked := hw.asked
  rw [Repository.stored_of_id h.idOf, hrequest] at hasked
  obtain rfl := Except.ok.inj hasked
  have hid : r.model.idOf left' = .str id := by
    rw [← hw.withHash, EntityModel.idOf_withHash ho.model.distinct,
      Repository.stored_of_id h.idOf, h.idOf]
  obtain rfl := Json.str.inj (hw.idOf.symm.trans hid)
  exact ⟨left', request', hleft, hw, htype, hlast⟩

end Session

/-- A person as a save leaves it. -/
def leftAnn : Entity := person "a" "Qm0c231efef03638729927594e3ed3f17340c4fd7aeda6" "Ann" 41

/-- A person is saved, and the session after it. -/
def Session.afterAnn : Outcome × Session :=
  (fresh .standard).call (.repository people (.save (person "a" none "Ann" 41) .null))

/-- What was left is saved again, and the session after it. -/
def Session.afterAnnAgain : Outcome × Session :=
  afterAnn.2.call (.repository people (.save leftAnn .null))

theorem left_afterAnn :
    Session.afterAnn.1.left? = some leftAnn ∧
      Blobs.hashOf (people.model.contentOf (person "a" none "Ann" 41) leftAnn) ≠
        Blobs.hashOf (EntityModel.serialize leftAnn) := by
  decide +kernel

end ContentDepot
