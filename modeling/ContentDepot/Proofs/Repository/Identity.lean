import ContentDepot.Proofs.Repository.Runs

/-!
# The identifier of what was saved

A save names the document to be written after the entity, and leaves the entity
with the identifier that it had when it was written. The engine reports under which
identifier the document is.

The two are the same, and something is found under them, unless the identifier of
the entity is the empty text (`saved_under_own_id`). An empty text is an identifier
for the save, which only makes one where there is none, but for the index it is
none, so the engine makes another; and a look-up refuses it.
-/

namespace ContentDepot

open Exchange InMemory Search MetadataIndex Address

namespace Repository

variable {s : Settings} {r : Repository} {σ : Session} {entity : Entity}

/-- Once it is identified an entity has its own identifier, or a new one that is not empty. -/
theorem idOf_identified {id : Json} (hid : r.model.idOf entity = id)
    (htext : id = .null ∨ ∃ t, id = .str t) :
    ∃ t, r.model.idOf (σ.talk (r.identified entity)).1 = .str t ∧ (t = "" ↔ id = .str "") := by
  unfold identified
  rcases htext with rfl | ⟨t, rfl⟩
  · rw [hid]
    refine ⟨_, EntityModel.idOf_withId .., fun hempty => ?_, nofun⟩
    exact absurd hempty (isSegment_fresh (σ.context.issued + 1)).ne_empty
  · rw [hid]
    exact ⟨t, hid, congrArg Json.str, Json.str.inj⟩

/-- A look-up without an identifier is refused. -/
theorem has_of_empty (hσ : σ.IsOver s) (hr : r.index ≠ "") :
    (σ.call (.repository r (.has (.str "")))).1 = .failed (.error (.emptyParameter "id")) := by
  rw [call_has hσ]
  refine outcome_of_result (.error (.error (.emptyParameter "id"))) hσ ?_
  have hrefused : WP σ.standing (r.metadata? (.remote s) (.str "")) (fun _ _ => False)
      fun f _ => f = .error (.emptyParameter "id") := by
    refine .metadata? ⟨fun c w _ _ => ?_⟩
    have hid : carry World.answer (Action.require (.str "") "id") c w =
        (.error (.error (.emptyParameter "id")), c, w) := carry_require ..
    unfold Depot.metadataById
    rw [carry_bind_of_ok (Depot.carry_require_str hr ..),
      show Json.text (.str "") = "" from rfl, carry_bind_of_error hid]
    exact rfl
  exact .bind (hrefused.mono (fun _ _ h => h) fun _ _ h => h ▸ rfl) fun _ _ h => h.elim

end Repository

/-- A save that succeeded was a write of the depot, whose receipt names the identifier that the
engine has reported. The entity is left with this identifier, and something is found under it,
unless it came with the empty text for an identifier: then it is left with the empty text, under
which nothing can be found, while the document is under an identifier that the engine has made. -/
theorem saved_under_own_id {s : Settings} (hs : s.HostsAreRoots) {σ σ' : Session}
    (hσ : σ.IsOver s) {r : Repository} (hr : r.model.idAttribute ≠ r.model.hashAttribute)
    {entity left : Entity} {external : Json}
    (hid : r.model.idOf entity = .null ∨ ∃ t, r.model.idOf entity = .str t)
    (hsave : σ.call (.repository r (.save entity external)) = (.saved left none, σ')) :
    ∃ request receipt,
      r.indexRequest (σ.talk (r.identified entity)).1 external = .ok request ∧
      (σ.talk (r.identified entity)).2.call (.depot (.storeAndIndexFile
        (some (EntityModel.serialize (σ.talk (r.identified entity)).1)) (some request))) =
          (.receipt receipt, σ') ∧
      if r.model.idOf entity = .str "" then
        receipt.id = "auto" ++ toString (σ.world.engine.issued + 1) ∧
        r.model.idOf left = .str "" ∧
        (σ'.call (.repository r (.has (.str "")))).1 = .failed (.error (.emptyParameter "id"))
      else
        r.model.idOf left = .str receipt.id ∧
        (σ'.call (.repository r (.has (.str receipt.id)))).1 = .flag true := by
  have hover : σ'.IsOver s := by
    have h := hσ.perform (.repository r (.save entity external))
    rwa [hsave] at h
  obtain ⟨request, receipt, hrequest, hcall, hleft⟩ :=
    Session.write_of_outcome hσ (congrArg Prod.fst hsave)
  obtain ⟨id, hnamed, hempty⟩ := Repository.idOf_identified (σ := σ) rfl hid
  have hworld : (σ.talk (r.identified entity)).2.world = σ.world := Session.world_identified
  have hidLeft : r.model.idOf left = .str id := by
    rw [← hleft, EntityModel.idOf_withHash hr, hnamed]
  rw [hsave] at hcall
  refine ⟨request, receipt, hrequest, hcall, ?_⟩
  obtain ⟨hrid, hindex, -⟩ := Repository.indexRequest_ok hrequest
  obtain ⟨_, e, hi⟩ := Session.indexed_of_receipt hs (hσ.talk _) (congrArg Prod.fst hcall)
  obtain rfl := Option.some.inj hi.request
  have hname : receipt.index = Text.lower r.index := by rw [hi.index, hindex]
  have hr0 : r.index ≠ "" := hindex ▸ hi.name
  have hreported := hi.id
  rw [hrid, hnamed, hworld] at hreported
  split
  · rename_i hnone
    obtain rfl := hempty.2 hnone
    exact ⟨hreported, hidLeft, Repository.has_of_empty hover hr0⟩
  · rename_i hsome
    have hgiven : given (Json.str id).str? = some id := by
      rw [Json.str?, given, Option.filter_some, if_pos]
      simpa using fun h0 => hsome (hempty.1 h0)
    rw [hgiven] at hreported
    obtain rfl : receipt.id = id := hreported
    obtain ⟨h0, h1, h2⟩ := hi.id_ne
    obtain ⟨url, ht⟩ := hi.target_of_given (by rw [hrid, hnamed]; rfl)
    obtain ⟨index, hl⟩ := hi.leads
    have hwrote := hi.wrote index hl
    rw [hcall, hrid, hnamed, hgiven] at hwrote
    rw [hname] at hl ht
    obtain ⟨d, hd⟩ : ∃ d, Entries.get? (σ'.world.engine.documents index) receipt.id = some d := by
      have hdocuments := hwrote.documents index
      rw [if_pos rfl] at hdocuments
      rw [show σ'.world.engine.documents index = _ from hdocuments]
      exact ⟨_, Entries.get?_put_self ..⟩
    exact ⟨hidLeft, Repository.has_of_present hs hi.endpoint hover hl hr0 hwrote.failing h0 h1 h2 ht
      hd⟩

/-- A person who has no identifier is saved, and the session after it. -/
def Session.afterNewcomer : Outcome × Session :=
  (fresh .standard).call (.repository people (.save (person none none "Ann" 41) .null))

/-- The first identifier that a session makes. -/
def firstId : String := "00000000000000000000000000000001"

/-- A new person is left with the identifier that was made, and found under it. -/
theorem has_of_newcomer :
    Session.afterNewcomer.1.left?.map people.model.idOf = some (.str firstId) ∧
      (Session.afterNewcomer.2.call (.repository people (.has (.str firstId)))).1 = .flag true := by
  have hid : Session.afterNewcomer.1.left?.map people.model.idOf = some (.str firstId) := by
    decide +kernel
  refine ⟨hid, ?_⟩
  obtain ⟨left, hleft, hidLeft⟩ := Option.map_eq_some_iff.1 hid
  have hsave : (Session.fresh .standard).call
      (.repository people (.save (person none none "Ann" 41) .null)) =
        (Session.afterNewcomer.1, Session.afterNewcomer.2) := (Prod.eta _).symm
  rw [Outcome.left?_eq_some.1 hleft] at hsave
  obtain ⟨request, receipt, -, -, hfound⟩ := saved_under_own_id Settings.hostsAreRoots_standard
    (Session.isOver_fresh .standard) (by decide) (.inl rfl) hsave
  rw [if_neg (show people.model.idOf (person none none "Ann" 41) ≠ .str "" from nofun)] at hfound
  obtain ⟨hreported, hhas⟩ := hfound
  rw [hidLeft] at hreported
  rwa [← Json.str.inj hreported] at hhas

/-- A person whose identifier is the empty text is saved, and the session after it. -/
def Session.afterNameless : Outcome × Session :=
  (fresh .standard).call (.repository people (.save (person (some "") none "Ann" 41) .null))

/-- A person with the empty text for an identifier is left with it, though the document is under
another, and what is left cannot be asked for. -/
theorem not_found_by_empty_id :
    Session.afterNameless.1.left?.map people.model.idOf = some (.str "") ∧
      Entries.keys (Session.afterNameless.2.world.engine.documents "person") = ["auto1"] ∧
      (Session.afterNameless.2.call (.repository people (.has (.str "")))).1 ≠ .flag true := by
  refine ⟨by decide +kernel, by decide +kernel, ?_⟩
  have hover : Session.afterNameless.2.IsOver .standard := (Session.isOver_fresh _).perform _
  rw [Repository.has_of_empty hover (by decide)]
  nofun

end ContentDepot
