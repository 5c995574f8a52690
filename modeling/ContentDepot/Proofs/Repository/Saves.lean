import ContentDepot.Proofs.Depot.Contents
import ContentDepot.Proofs.Depot.FailedCalls
import ContentDepot.Proofs.Exchange.Prefixes
import ContentDepot.Proofs.Index.Document
import ContentDepot.Proofs.Index.SearchPaths
import ContentDepot.Proofs.Lists
import ContentDepot.Proofs.Repository.Entities
import ContentDepot.Proofs.Session.Steps

/-!
# What a save does

A save stores the entity as it is once it has an identifier, and indexes it under
this identifier (`EntityModel.stored`). It succeeds if both backends work and what
it asks for is admitted (`Session.save_of_admitted`).

If it succeeds then its content is in the store, the document under the identifier
has the hash of this content, and the entity that it leaves is the one it stored,
with this hash (`Session.saved_of_outcome`).
-/

namespace ContentDepot

open Exchange InMemory Search MetadataIndex Text.DotSegments

/-! ## Requests of a save -/

namespace Repository

variable {r : Repository} {e : Entity} {external : Json} {request : IndexRequest}

/-- The names of the external fields that a value holds. -/
def externalNames : Json → List String
  | .obj members => Entries.keys members
  | _ => []

/-- An identifier that an entity is given can be a segment of a path. -/
theorem isSegment_fresh (n : Nat) : IsSegment (String.ofList (Text.Hex.padded 32 n)) := by
  have hlength : (String.ofList (Text.Hex.padded 32 n)).toList.length = 32 := by
    rw [String.toList_ofList]
    simp [Text.Hex.padded]
  refine ⟨?_, ?_, ?_⟩ <;>
  · intro h
    rw [h] at hlength
    exact absurd hlength (by decide)

theorem name_of_makeField {name : String} {value : Json} {f : IndexField}
    (h : makeField name value = .ok f) : f.name = name := by
  unfold makeField at h
  split at h
  · cases h
  · cases h
    rfl

theorem mem_fields {name : String}
    (h : name ∈ Entries.keys (Entries.ofList (r.fields.map fun name => (name, ())))) :
    name ∈ r.fields := by
  obtain ⟨entry, hentry, rfl⟩ := List.mem_map.1 h
  obtain ⟨field, hfield, rfl⟩ := List.mem_map.1 (Entries.mem_ofList hentry)
  exact hfield

theorem mem_of_indexFields {fields : List IndexField} (h : r.indexFields e = .ok fields)
    {f : IndexField} (hf : f ∈ fields) : f.name ∈ r.fields := by
  obtain ⟨name, hname, hmade⟩ := exists_of_forall₂ (forall₂_of_mapM h) hf
  have hmem := mem_fields hname
  split at hmade
  · rwa [name_of_makeField hmade]
  · cases hmade
    exact hmem
  · cases hmade

theorem mem_of_externalFields {fields : List IndexField}
    (h : r.externalFields external = .ok (some fields)) {f : IndexField} (hf : f ∈ fields) :
    f.name ∈ externalNames external := by
  unfold externalFields at h
  cases external with
  | obj members =>
    split at h
    · cases h
    split at h
    · cases h
    · rcases hfields : members.mapM fun e => makeField e.1 e.2 with failure | found
      · simp only [hfields] at h
        cases h
      · simp only [hfields] at h
        cases h
        obtain ⟨m, hm, hmade⟩ := exists_of_forall₂ (forall₂_of_mapM hfields) hf
        rw [name_of_makeField hmade]
        exact List.mem_map_of_mem hm
    · cases h
  | _ =>
    dsimp only at h
    split at h
    · cases h
    · split at h <;> cases h

theorem eq_nil_of_sorted? {values : List Json} (h : Json.sorted? values = some []) :
    values = [] := by
  unfold Json.sorted? at h
  split at h
  · have hlength := congrArg List.length (Option.some.inj h)
    rw [List.length_mergeSort] at hlength
    exact List.eq_nil_of_length_eq_zero hlength
  · cases h

/-- Where a repository admits some external fields only, no name is unknown if it admits them all. -/
theorem mem_external_of_unknownNames (h : r.unknownNames external = .ok []) (hne : r.external ≠ [])
    {name : String} (hname : name ∈ externalNames external) : name ∈ r.external := by
  obtain ⟨members, rfl⟩ : ∃ members, external = .obj members := by
    cases external with
    | obj members => exact ⟨members, rfl⟩
    | _ => cases hname
  by_contra hno
  have hunknown : Json.str name ∈ ((Entries.keys members).map Json.str).filter
      fun name => !(r.external.map Json.str).contains name :=
    List.mem_filter.2 ⟨List.mem_map_of_mem hname, by simpa using hno⟩
  unfold unknownNames at h
  rw [if_neg (by simpa using hne)] at h
  dsimp only [namesIn, bind, Except.bind] at h
  split at h
  · rename_i names hsorted
    cases h
    -- what is left once repetitions are gone is not empty
    obtain ⟨first, rest, hcons⟩ := List.exists_cons_of_ne_nil (List.ne_nil_of_mem hunknown)
    rw [hcons] at hsorted
    refine foldl_ne_nil (fun kept name hkept => ?_) rest (List.cons_ne_nil first [])
      (eq_nil_of_sorted? hsorted)
    split
    · exact hkept
    · exact List.append_ne_nil_of_left_ne_nil hkept _
  · cases h

/-- The repository indexes a field of the name: an attribute, or an external field that is given and
admitted. -/
def Indexes (r : Repository) (external : Json) (name : String) : Prop :=
  name ∈ r.fields ∨ name ∈ externalNames external ∧ (r.external = [] ∨ name ∈ r.external)

instance (r : Repository) (external : Json) (name : String) :
    Decidable (r.Indexes external name) := inferInstanceAs (Decidable (_ ∨ _))

theorem admitted_of_externalFields {fields : List IndexField}
    (h : r.externalFields external = .ok (some fields)) {name : String}
    (hname : name ∈ externalNames external) : r.external = [] ∨ name ∈ r.external := by
  refine or_iff_not_imp_left.2 fun hne => mem_external_of_unknownNames ?_ hne hname
  unfold externalFields at h
  split at h
  · cases h
  · split at h
    · cases h
    · assumption
    · cases h

/-- The request of a save: its identifier, its index, and no fields but those that the repository
indexes. -/
theorem indexRequest_ok (h : r.indexRequest e external = .ok request) :
    request.id = (r.model.idOf e).str? ∧ request.index = r.index ∧
      ∀ f ∈ request.allFields, r.Indexes external f.name := by
  unfold indexRequest at h
  rcases hfields : r.indexFields e with failure | fields
  · rw [hfields] at h
    cases h
  rcases hexternal : r.externalFields external with failure | externalFields
  · rw [hfields, hexternal] at h
    cases h
  rw [hfields, hexternal] at h
  cases h
  refine ⟨rfl, rfl, fun f hf => ?_⟩
  rcases List.mem_append.1 hf with hf | hf
  · exact .inl (mem_of_indexFields hfields hf)
  · cases externalFields with
    | none => cases hf
    | some found =>
      have hname := mem_of_externalFields hexternal hf
      exact .inr ⟨hname, admitted_of_externalFields hexternal hname⟩

end Repository

/-! ## Talks -/

namespace Session

variable {α β : Type} {σ σ' : Session}

theorem talk_bind (σ : Session) (x : Exchange α) (f : α → Exchange β) :
    σ.talk (x >>= f) = (σ.talk x).2.talk (f (σ.talk x).1) := by
  unfold talk
  rw [run_bind]

/-- An action that has succeeded gives the outcome of its result. -/
theorem talk_of_ok (give : α → Outcome) {action : Action α} {a : α}
    (h : (σ.talk action.run).1 = .ok a) :
    σ.talk (Outcome.ofAction give action) = (give a, (σ.talk action.run).2) := by
  unfold Outcome.ofAction
  rw [talk_bind, h]
  rfl

end Session

/-! ## Saves -/

namespace EntityModel

/-- The entity that a save stores: the one it is given, under the identifier of the one it
leaves. -/
def stored (m : EntityModel) (e left : Entity) : Entity :=
  if m.idOf e = .null then Entries.put e m.idAttribute (m.idOf left) else e

/-- The content that a save stores. -/
def contentOf (m : EntityModel) (e left : Entity) : Bytes := serialize (m.stored e left)

end EntityModel

/-- What a save has done that left an entity under an identifier. -/
structure Repository.Saved (r : Repository) (e : Endpoint) (σ σ' : Session) (entity left : Entity)
    (id : String) : Prop where
  admits : r.model.Admits (r.model.stored entity left)
  idOf : r.model.idOf left = .str id
  withHash : r.model.withHash (r.model.stored entity left)
    (some (Blobs.hashOf (r.model.contentOf entity left))) = left
  reaches : Reaches e (Text.lower r.index) id
  name : r.index ≠ ""
  leads : ∃ index, e.address.Leads (Text.lower r.index) index
  searches : ∃ url, e.address.target ("/" ++ Text.lower r.index ++ "/_search") = .ok url
  contents : σ'.world.contents = σ.world.contents.add (r.model.contentOf entity left)
  engine : σ'.world.engine.failing = none
  documents : ∀ index, e.address.Leads (Text.lower r.index) index →
    ∃ d, Entries.get? d hashKey = some (.str (Blobs.hashOf (r.model.contentOf entity left))) ∧
      ∀ other, σ'.world.engine.documents other = if index = other then
        Entries.put (σ.world.engine.documents index) id d else σ.world.engine.documents other

/-- What a save that succeeded has done, given the request that it has made. -/
structure Repository.Written (r : Repository) (s : Settings) (e : Endpoint) (σ σ' : Session)
    (entity left : Entity) (external : Json) (id : String) (request : IndexRequest) : Prop where
  admits : r.model.Admits (r.model.stored entity left)
  idOf : r.model.idOf left = .str id
  id_ne : id ≠ ""
  withHash : r.model.withHash (r.model.stored entity left)
    (some (Blobs.hashOf (r.model.contentOf entity left))) = left
  asked : r.indexRequest (r.model.stored entity left) external = .ok request
  form : request.HasForm s.fillAbsent
  name : r.index ≠ ""
  reaches : Reaches e (Text.lower r.index) id
  leads : ∃ index, e.address.Leads (Text.lower r.index) index
  refreshes : ∃ url,
    e.address.target (Address.reference (Text.lower r.index) ["_refresh".toList]) = .ok url
  contents : σ'.world.contents = σ.world.contents.add (r.model.contentOf entity left)
  engine : σ'.world.engine.failing = none
  documents : ∀ index, e.address.Leads (Text.lower r.index) index → ∀ other,
    σ'.world.engine.documents other = if index = other then
      Entries.put (σ.world.engine.documents index) id
        (Entries.putAll ((Entries.get? (σ.world.engine.documents index) id).getD [])
          (document s.fillAbsent (.str (Blobs.hashOf (r.model.contentOf entity left)))
            (.ofOption request.contentType) (some request.resolvedFields)))
      else σ.world.engine.documents other

/-- No field that is written takes the place of the hash. -/
theorem Repository.Written.name_ne {r : Repository} {s : Settings} {e : Endpoint} {σ σ' : Session}
    {entity left : Entity} {external : Json} {id : String} {request : IndexRequest}
    (h : r.Written s e σ σ' entity left external id request) (hr : hashKey ∉ r.fields)
    (hexternal : hashKey ∉ externalNames external) :
    ∀ f ∈ request.allFields, f.name ≠ hashKey := by
  obtain ⟨-, -, hfields⟩ := indexRequest_ok h.asked
  exact fun f hf heq => (hfields f hf).elim (fun h => hr (heq ▸ h)) fun h' => hexternal (heq ▸ h'.1)

/-- An entity that a repository can save: one of its model that has no empty identifier, with
external fields that leave the hash alone. -/
structure Repository.Takes (r : Repository) (entity : Entity) (external : Json) : Prop where
  admits : r.model.Admits entity
  id : r.model.idOf entity ≠ .str ""
  external : hashKey ∉ Repository.externalNames external

namespace Session

variable {s : Settings} {σ : Session} {r : Repository} {e : Endpoint} {entity left : Entity}
  {external : Json}

theorem IsOver.talk {α : Type} (h : σ.IsOver s) (x : Exchange α) : (σ.talk x).2.IsOver s :=
  ⟨h.installation, World.live_run x _ h.live⟩

theorem call_save (hσ : σ.IsOver s) :
    σ.call (.repository r (.save entity external)) =
      σ.talk (r.save (.remote s) entity external >>= fun p => pure (.saved p.1 p.2)) := by
  unfold Session.call
  rw [hσ.installation]
  rfl

/-- No backend is asked for an identifier. -/
theorem world_identified : (σ.talk (r.identified entity)).2.world = σ.world := by
  unfold Repository.identified
  split <;> rfl

/-- A save succeeds if both backends work, its request can be made, and what this asks for is
admitted. -/
theorem save_of_admitted {request : IndexRequest} {index : String} (hs : s.HostsAreRoots)
    (he : s.endpoint? .engine = some e) (hσ : σ.IsOver s)
    (hengine : σ.world.engine.failing = none) (hstore : σ.world.contents.failing = none)
    (hrequest : r.indexRequest (σ.talk (r.identified entity)).1 external = .ok request)
    (h0 : r.index ≠ "") (ha : Admits e (Text.lower r.index) index request.id)
    (hw : request.HasForm s.fillAbsent) :
    ∃ left, (σ.call (.repository r (.save entity external))).1 = .saved left none := by
  have hover := hσ.talk (r.identified entity)
  rw [← @world_identified σ r entity] at hengine hstore
  rw [call_save hσ, talk_bind]
  unfold Repository.save
  rw [talk_bind, hrequest]
  generalize (σ.talk (r.identified entity)).2 = σ₁ at *
  generalize (σ.talk (r.identified entity)).1 = stored at *
  obtain ⟨-, hindex, -⟩ := Repository.indexRequest_ok hrequest
  have hadmitted : WP σ₁.standing ((Depot.remote s).storeAndIndexFile
      (some (EntityModel.serialize stored)) (some request)) (fun _ _ => True) fun _ _ => False :=
    .storeAndIndexFile_admitted hs he (hindex ▸ ha) (hindex ▸ h0) hw hengine hstore _
  have hstored := hadmitted.carried σ₁.context σ₁.world hover.live rfl
  dsimp only
  rw [talk_bind]
  rcases hrun : σ₁.talk ((Depot.remote s).storeAndIndexFile
    (some (EntityModel.serialize stored)) (some request)).run with ⟨f | receipt, σ'⟩
  · have hfailed : (carry World.answer ((Depot.remote s).storeAndIndexFile
        (some (EntityModel.serialize stored)) (some request)) σ₁.context σ₁.world).1 = .error f :=
      congrArg Prod.fst hrun
    generalize carry World.answer _ σ₁.context σ₁.world = all at hstored hfailed
    obtain ⟨_, _, _⟩ := all
    cases hfailed
    exact hstored.elim
  · exact ⟨_, rfl⟩

/-- Before anything else happens the entity gets an identifier, if it has none. -/
theorem talk_identified (hm : r.model.IsSound) (h : r.Takes entity external) (σ : Session) :
    ∃ id, id ≠ "" ∧ (σ.talk (r.identified entity)).2.world = σ.world ∧
      r.model.Admits (σ.talk (r.identified entity)).1 ∧
      r.model.idOf (σ.talk (r.identified entity)).1 = .str id ∧
      ∀ left, r.model.idOf left = .str id →
        r.model.stored entity left = (σ.talk (r.identified entity)).1 := by
  obtain ⟨t, ht⟩ := h.admits.exists_idOf hm
  unfold Repository.identified
  cases t with
  | none =>
    replace ht : r.model.idOf entity = .null := ht
    rw [ht]
    refine ⟨_, (Repository.isSegment_fresh (σ.context.issued + 1)).ne_empty, rfl, ?_,
      EntityModel.idOf_withId .., ?_⟩
    · exact h.admits.put hm.id _
    · intro left hleft
      rw [EntityModel.stored, if_pos ht, hleft]
      rfl
  | some id =>
    have hne : r.model.idOf entity ≠ .null := by
      rw [ht]
      exact fun h => by cases h
    rw [ht]
    refine ⟨id, ?_, rfl, h.admits, ht, fun left _ => if_neg hne⟩
    rintro rfl
    exact h.id ht

/-- A save that succeeded was a write of the entity as it was once it had an identifier, and has
left this entity with the hash that was reported. -/
theorem write_of_outcome (hσ : σ.IsOver s)
    (ho : (σ.call (.repository r (.save entity external))).1 = .saved left none) :
    ∃ (request : IndexRequest) (receipt : Receipt),
      r.indexRequest (σ.talk (r.identified entity)).1 external = .ok request ∧
      (σ.talk (r.identified entity)).2.call (.depot (.storeAndIndexFile
        (some (EntityModel.serialize (σ.talk (r.identified entity)).1)) (some request))) =
          (.receipt receipt, (σ.call (.repository r (.save entity external))).2) ∧
      r.model.withHash (σ.talk (r.identified entity)).1 (some receipt.hash) = left := by
  rw [call_save hσ, talk_bind] at ho ⊢
  replace ho : (σ.talk (r.save (.remote s) entity external)).1 = (left, none) := by
    injection ho with h₁ h₂
    exact Prod.ext h₁ h₂
  have hover := hσ.talk (r.identified entity)
  unfold Repository.save at ho ⊢
  rw [talk_bind] at ho ⊢
  generalize (σ.talk (r.identified entity)).2 = σ₁ at *
  generalize (σ.talk (r.identified entity)).1 = stored at *
  rcases hrequest : r.indexRequest stored external with f | request
  · simp only [hrequest] at ho
    cases ho
  simp only [hrequest] at ho ⊢
  rw [talk_bind] at ho ⊢
  rcases hrun : σ₁.talk ((Depot.remote s).storeAndIndexFile
    (some (EntityModel.serialize stored)) (some request)).run with ⟨f | receipt, σ'⟩
  · rw [hrun] at ho
    cases ho
  have hdepot := talk_of_ok .receipt (congrArg Prod.fst hrun)
  rw [hrun] at ho hdepot
  exact ⟨request, receipt, rfl, (hover.call_eq _).trans hdepot, congrArg Prod.fst ho⟩

/-- A save that succeeded was a write of the content under the identifier of what it left. -/
theorem write_of_saved (hσ : σ.IsOver s) (hm : r.model.IsSound) (h : r.Takes entity external)
    (ho : (σ.call (.repository r (.save entity external))).1 = .saved left none) :
    ∃ (σ₁ : Session) (id : String) (request : IndexRequest) (receipt : Receipt),
      σ₁.IsOver s ∧ σ₁.world = σ.world ∧ id ≠ "" ∧
      r.model.Admits (r.model.stored entity left) ∧ r.model.idOf left = .str id ∧
      r.model.idOf (r.model.stored entity left) = .str id ∧
      r.indexRequest (r.model.stored entity left) external = .ok request ∧
      σ₁.call (.depot (.storeAndIndexFile (some (r.model.contentOf entity left)) (some request))) =
        (.receipt receipt, (σ.call (.repository r (.save entity external))).2) ∧
      r.model.withHash (r.model.stored entity left) (some receipt.hash) = left := by
  obtain ⟨id, hid, hworld, hadmits, hidOf, hstored⟩ := talk_identified hm h σ
  obtain ⟨request, receipt, hrequest, hcall, hleft⟩ := write_of_outcome hσ ho
  have hidOfLeft : r.model.idOf left = .str id := by
    rw [← hleft, EntityModel.idOf_withHash hm.distinct, hidOf]
  rw [EntityModel.contentOf, hstored left hidOfLeft]
  exact ⟨_, id, request, receipt, hσ.talk _, hworld, hid, hadmits, hidOfLeft, hidOf, hrequest,
    hcall, hleft⟩

/-- A save that succeeded has stored what it left, but for the hash, and has written it. -/
theorem written_of_outcome (hs : s.HostsAreRoots) (he : s.endpoint? .engine = some e)
    (hσ : σ.IsOver s) (hm : r.model.IsSound) (h : r.Takes entity external)
    (ho : (σ.call (.repository r (.save entity external))).1 = .saved left none) :
    ∃ id request, r.Written s e σ (σ.call (.repository r (.save entity external))).2 entity left
      external id request := by
  -- The save as a write of the depot, of which the receipt tells what was indexed.
  obtain ⟨σ₁, id, request, receipt, hover, hworld, hid, hadmits, hidOf, hstored, hrequest, hcall,
    hleft⟩ := write_of_saved hσ hm h ho
  generalize (σ.call (.repository r (.save entity external))).2 = σ' at *
  obtain ⟨hrid, hindex, -⟩ := Repository.indexRequest_ok hrequest
  obtain ⟨_, _, hi⟩ := indexed_of_receipt hs hover (congrArg Prod.fst hcall)
  obtain rfl := Option.some.inj (hi.endpoint.symm.trans he)
  obtain rfl := Option.some.inj hi.request
  have hgiven : given request.id = some id := by
    rw [hrid, hstored, Json.str?, given, Option.filter_some, if_pos (by simpa using hid)]
  have hhash : receipt.hash = Blobs.hashOf (r.model.contentOf entity left) :=
    (Option.some.inj hi.hash).symm
  have hname : receipt.index = Text.lower r.index := by rw [hi.index, hindex]
  have hcontents : σ'.world.contents = σ.world.contents.add (r.model.contentOf entity left) := by
    rw [hover.call_eq, DepotCall.perform] at hcall
    have hstoring : WP σ₁.standing _ _ _ :=
      .storeAndIndexFile hs (r.model.contentOf entity left) request
    rcases hstoring.talk (g := .receipt) hover.live with ⟨_, -, -, hleft⟩ | ⟨f, ho, -⟩
    · rw [← hworld]
      exact (congrArg (·.2.world.contents) hcall).symm.trans hleft
    · rw [hcall] at ho
      cases ho
  have hreaches := hname ▸ hi.reaches id hgiven
  have hleads := hname ▸ hi.leads
  refine ⟨id, request, hadmits, hidOf, hid, hhash ▸ hleft, hrequest, hi.form, hindex ▸ hi.name,
    hreaches, hleads, hname ▸ hi.refreshes, hcontents, ?_, fun index hl => ?_⟩
  · obtain ⟨index, hl⟩ := hi.leads
    have hfailing := (hi.wrote index hl).failing
    rwa [hcall] at hfailing
  · have hw := hi.wrote index (hname ▸ hl)
    rw [hcall, hgiven, hworld, hhash] at hw
    have hdocuments := hw.documents
    rwa [writtenTo_document] at hdocuments

/-- A save that succeeded has stored what it left, but for the hash, and has indexed it. -/
theorem saved_of_outcome (hs : s.HostsAreRoots) (he : s.endpoint? .engine = some e)
    (hσ : σ.IsOver s) (hm : r.model.IsSound) (hr : hashKey ∉ r.fields)
    (h : r.Takes entity external)
    (ho : (σ.call (.repository r (.save entity external))).1 = .saved left none) :
    ∃ id, r.Saved e σ (σ.call (.repository r (.save entity external))).2 entity left id := by
  obtain ⟨id, request, hw⟩ := written_of_outcome hs he hσ hm h ho
  refine ⟨id, hw.admits, hw.idOf, hw.withHash, hw.reaches, hw.name, hw.leads, ?_, hw.contents,
    hw.engine, fun index hl => ⟨_, ?_, hw.documents index hl⟩⟩
  · obtain ⟨index, hl⟩ := hw.leads
    exact target_search_of_refresh (hs.isEngine he) (Text.lower_ne_empty hw.name) hl hw.id_ne
      hw.reaches hw.refreshes
  · exact get?_written_hash _ _ _ _ (hw.name_ne hr h.external)

end Session

end ContentDepot
