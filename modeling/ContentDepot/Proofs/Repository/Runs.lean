import Mathlib.Algebra.Group.Int.Defs
import ContentDepot.Proofs.Depot.Upsert
import ContentDepot.Proofs.Repository.Reads
import ContentDepot.Proofs.Repository.Saves

/-!
# What a repository finds after a run

A repository that alone writes to its index holds there what its saves have left
(`Repository.Holds`): under each identifier a document with the hash of the entity
that was saved last, whose content is in the store. Nothing is held before the first
save (`Repository.holds_of_empty`), a save adds to it (`Repository.Holds.save`), a
read leaves it (`Session.keeps_read`), and so it holds after every run
(`Repository.Holds.run`).

Then the entity that was saved last is found as it was left, unless an integer in
it is too long to be read back, and where nothing was saved nothing is found
(`found_after_run`).
-/

namespace ContentDepot

open Exchange InMemory Search MetadataIndex Address

/-! ## What a run leaves -/

/-- The entity that a save has left that succeeded. -/
def Outcome.left? : Outcome → Option Entity
  | saved e none => some e
  | _ => none

theorem Outcome.left?_eq_some {o : Outcome} {e : Entity} :
    o.left? = some e ↔ o = .saved e none := by
  unfold left?
  split <;> simp_all

namespace RepositoryCall

/-- Whether a call saves an entity. -/
def isSave : RepositoryCall → Bool
  | save _ _ => true
  | _ => false

/-- The content that a save has stored that succeeded. -/
def content? (m : EntityModel) : RepositoryCall → Outcome → Option Bytes
  | save e _, .saved left none => some (m.contentOf e left)
  | _, _ => none

end RepositoryCall

/-- The entities that the saves of a run have left, in their order. -/
def leftBy (outcomes : List Outcome) : List Entity := outcomes.filterMap Outcome.left?

/-- The contents that the saves of a run have stored. -/
def contentsOf (m : EntityModel) (calls : List RepositoryCall) (outcomes : List Outcome) :
    List Bytes :=
  (calls.zip outcomes).filterMap fun p => p.1.content? m p.2

/-- The last of the entities under an identifier. -/
def EntityModel.last? (m : EntityModel) (saved : List Entity) (id : String) : Option Entity :=
  (saved.filter fun e => m.idOf e = .str id).getLast?

/-- The identifiers under which entities were saved, in the order in which they came. -/
def EntityModel.ids (m : EntityModel) (saved : List Entity) : List String :=
  (saved.filterMap fun e => (m.idOf e).str?).eraseDups

theorem EntityModel.ids_append (m : EntityModel) (saved : List Entity) {left : Entity} {id : String}
    (h : m.idOf left = .str id) :
    m.ids (saved ++ [left]) = if id ∈ m.ids saved then m.ids saved else m.ids saved ++ [id] := by
  have hone : [left].filterMap (fun e => (m.idOf e).str?) = [id] := by
    rw [List.filterMap_cons, h]
    rfl
  simp only [ids, List.filterMap_append, hone, eraseDups_concat, List.mem_eraseDups]

theorem EntityModel.last?_append (m : EntityModel) (saved : List Entity) (left : Entity)
    (id : String) :
    m.last? (saved ++ [left]) id =
      if m.idOf left = .str id then some left else m.last? saved id := by
  unfold last?
  rw [List.filter_append]
  by_cases h : m.idOf left = .str id
  · rw [if_pos h, List.filter_cons_of_pos (by simpa using h)]
    exact List.getLast?_concat ..
  · rw [if_neg h, List.filter_cons_of_neg (by simpa using h), List.filter_nil, List.append_nil]

/-! ## What the index holds -/

namespace Repository

/-- A document whose hash is that of a stored entity, which with this hash is what a save left. -/
structure RefersTo (r : Repository) (d : Entries Json) (stored left : Entity) : Prop where
  hash : Entries.get? d hashKey = some (.str (Blobs.hashOf (EntityModel.serialize stored)))
  admits : r.model.Admits stored
  left : r.model.withHash stored (some (Blobs.hashOf (EntityModel.serialize stored))) = left

namespace RefersTo

variable {r : Repository} {d : Entries Json} {stored left : Entity}

theorem hash_ofDocument (h : r.RefersTo d stored left) (index id : String) :
    (Metadata.ofDocument index id d).hash = some (Blobs.hashOf (EntityModel.serialize stored)) := by
  rw [Metadata.ofDocument, h.hash]
  rfl

/-- What was stored differs from what was left in the hash alone. -/
theorem isLegible_left (h : r.RefersTo d stored left) (hm : r.model.IsSound) :
    left.isLegible = stored.isLegible :=
  h.left ▸ h.admits.isLegible_put hm.hash _

end RefersTo

/-- The backends work; in the index there is a document under each identifier under which an entity
was saved, for the one that was saved last, and no other, in the order in which they were first
saved; and all contents are in the store. -/
structure Holds (r : Repository) (e : Endpoint) (index : String) (w : World) (saved : List Entity)
    (contents : List Bytes) : Prop where
  engine : w.engine.failing = none
  store : w.contents.failing = none
  keys : Entries.keys (w.engine.documents index) = r.model.ids saved
  absent : ∀ id, r.model.last? saved id = none → Entries.get? (w.engine.documents index) id = none
  present : ∀ id left, r.model.last? saved id = some left → ∃ d stored,
    Entries.get? (w.engine.documents index) id = some d ∧ r.RefersTo d stored left ∧
      EntityModel.serialize stored ∈ contents ∧ Reaches e (Text.lower r.index) id
  blobs : ∀ content ∈ contents,
    Entries.get? w.contents.blobs (Blobs.hashOf content) = some content

namespace Holds

variable {s : Settings} {r : Repository} {e : Endpoint} {index : String} {σ : Session}
  {saved : List Entity} {contents : List Bytes}

/-- Nothing changes with what changes neither documents nor contents. -/
theorem of_keeps {w w' : World} (h : r.Holds e index w saved contents) (hk : w.Keeps w')
    (hc : w'.contents = w.contents) : r.Holds e index w' saved contents where
  engine := hk.engine.failing.trans h.engine
  store := hc ▸ h.store
  keys := (hk.engine.documents index).symm ▸ h.keys
  absent id hid := (hk.engine.documents index).symm ▸ h.absent id hid
  present id left hid := (hk.engine.documents index).symm ▸ h.present id left hid
  blobs := hc ▸ h.blobs

/-- A save that succeeded adds what it has left. -/
theorem save {σ' : Session} {entity left : Entity} {id : String}
    (h : r.Holds e index σ.world saved contents) (hl : e.address.Leads (Text.lower r.index) index)
    (hs : r.Saved e σ σ' entity left id)
    (hd : ∀ content ∈ contents,
      Blobs.hashOf content = Blobs.hashOf (r.model.contentOf entity left) →
        content = r.model.contentOf entity left) :
    r.Holds e index σ'.world (saved ++ [left]) (contents ++ [r.model.contentOf entity left]) := by
  obtain ⟨d, hhash, hdocuments⟩ := hs.documents index hl
  have hindex := hdocuments index
  rw [if_pos rfl] at hindex
  refine ⟨hs.engine, hs.contents ▸ h.store, ?_, fun other ho => ?_, fun other left' ho => ?_,
    fun content hc => ?_⟩
  · rw [hindex, Entries.keys_put, h.keys, EntityModel.ids_append _ _ hs.idOf]
  · rw [EntityModel.last?_append, hs.idOf] at ho
    split at ho
    · cases ho
    · rename_i hne
      rw [hindex, Entries.get?_put, if_neg fun h => hne (congrArg Json.str h)]
      exact h.absent other ho
  · rw [EntityModel.last?_append, hs.idOf] at ho
    rw [hindex, Entries.get?_put]
    split at ho
    · rename_i heq
      cases ho
      obtain rfl := Json.str.inj heq
      rw [if_pos rfl]
      exact ⟨d, _, rfl, ⟨hhash, hs.admits, hs.withHash⟩,
        List.mem_append_right _ (List.mem_singleton_self _), hs.reaches⟩
    · rename_i hne
      rw [if_neg fun h => hne (congrArg Json.str h)]
      obtain ⟨d', stored, hget, hrefers, hmem, hreaches⟩ := h.present other left' ho
      exact ⟨d', stored, hget, hrefers, List.mem_append_left _ hmem, hreaches⟩
  · -- A content of an earlier save stays, unless the new one has its hash and so is the same.
    rw [hs.contents, Blobs.add, Entries.get?_put]
    rcases List.mem_append.1 hc with hc | hc
    · split
      · rename_i heq
        rw [hd content hc heq.symm]
      · exact h.blobs content hc
    · rw [List.mem_singleton.1 hc, if_pos rfl]

end Holds

end Repository

/-! ## Runs -/

namespace Session

variable {s : Settings} {σ : Session} {r : Repository}

theorem IsOver.perform (h : σ.IsOver s) (c : Call) : (σ.call c).2.IsOver s := h.talk _

theorem IsOver.runCalls (h : σ.IsOver s) (calls : List Call) : (σ.runCalls calls).2.IsOver s := by
  induction calls generalizing σ with
  | nil => exact h
  | cons c cs ih =>
    rw [runCalls_cons]
    exact ih (h.perform c)

/-- A call that does not save leaves no entity. -/
theorem left?_read {c : RepositoryCall} (hc : c.isSave = false) :
    (σ.call (.repository r c)).1.left? = none := by
  have hread : ∀ {α : Type} {give : α → Outcome} {action : Action α},
      (∀ a, (give a).left? = none) →
        (σ.talk (Outcome.ofAction give action)).1.left? = none := by
    intro α give action hgive
    rw [talk_ofAction]
    cases (carry World.answer action σ.context σ.world).1 with
    | ok a => exact hgive a
    | error f => rfl
  unfold Session.call
  cases c with
  | save entity external => cases hc
  | find id => exact hread fun _ => rfl
  | has id => exact hread fun _ => rfl
  | search query pageable => exact hread fun _ => rfl
  | unsupported operation => rfl

/-- A call that does not save leaves documents and contents. -/
theorem keeps_read (hs : s.HostsAreRoots) (h : σ.IsOver s)
    (hn : Depot.NameLeads s (.str r.index)) {c : RepositoryCall} (hc : c.isSave = false) :
    σ.world.Keeps (σ.call (.repository r c)).2.world ∧
      (σ.call (.repository r c)).2.world.contents = σ.world.contents := by
  have hread : ∀ {α : Type} {give : α → Outcome} {action : Action α}, Quiet action →
      Spares σ.standing.contents σ.standing action →
      σ.world.Keeps (σ.talk (Outcome.ofAction give action)).2.world ∧
        (σ.talk (Outcome.ofAction give action)).2.world.contents = σ.world.contents := by
    intro α give action hquiet hspares
    rcases hspares.talk (g := give) h.live with ⟨_, -, hleft⟩ | ⟨_, -, hleft⟩
    · exact ⟨keeps_talk hquiet h.live, hleft⟩
    · exact ⟨keeps_talk hquiet h.live, hleft⟩
  unfold Session.call
  rw [h.installation]
  cases c with
  | save entity external => cases hc
  | find id => exact hread (Repository.quiet_find? hs id) (Repository.spares_find? hs id rfl)
  | has id => exact hread (Repository.quiet_has hs id) (Repository.spares_has hs id rfl)
  | search query pageable =>
    exact hread (Repository.quiet_search hs hn query pageable)
      (Repository.spares_search hs query pageable rfl)
  | unsupported operation => exact ⟨.refl h.live, rfl⟩

end Session

namespace Repository

variable {s : Settings} {r : Repository} {e : Endpoint} {index : String} {σ : Session}

/-- A repository whose saves can be read back: its attributes are sound, it indexes nothing in the
place of the hash, and its name leads to an index. -/
structure IsOrdinary (r : Repository) (e : Endpoint) (index : String) : Prop where
  model : r.model.IsSound
  fields : hashKey ∉ r.fields
  name : r.index ≠ ""
  leads : e.address.Leads (Text.lower r.index) index

theorem IsOrdinary.nameLeads (h : r.IsOrdinary e index) (he : s.endpoint? .engine = some e) :
    Depot.NameLeads s (.str r.index) := by
  rintro t e' ht - he'
  obtain rfl := Json.str.inj ht
  obtain rfl := Option.some.inj (he.symm.trans he')
  exact ⟨index, h.leads⟩

/-- Before anything is saved there is no document in the index. -/
theorem holds_of_empty {w : World} (hengine : w.engine.failing = none)
    (hstore : w.contents.failing = none) (hempty : w.engine.documents index = []) :
    r.Holds e index w [] [] where
  engine := hengine
  store := hstore
  keys := by rw [hempty]; rfl
  absent _ _ := by rw [hempty]; rfl
  present _ _ h := by cases h
  blobs := nofun

/-- After a call the index holds what was left before it and by it. -/
theorem Holds.step (hs : s.HostsAreRoots) (he : s.endpoint? .engine = some e) (hσ : σ.IsOver s)
    (ho : r.IsOrdinary e index) {saved : List Entity} {contents : List Bytes}
    (h : r.Holds e index σ.world saved contents) {c : RepositoryCall}
    (htakes : ∀ entity external, c = .save entity external → r.Takes entity external)
    (hsucceed : c.isSave = true → (σ.call (.repository r c)).1.left?.isSome = true)
    (hd : ∀ a ∈ contents, ∀ b, c.content? r.model (σ.call (.repository r c)).1 = some b →
      Blobs.hashOf a = Blobs.hashOf b → a = b) :
    r.Holds e index (σ.call (.repository r c)).2.world
      (saved ++ (σ.call (.repository r c)).1.left?.toList)
      (contents ++ (c.content? r.model (σ.call (.repository r c)).1).toList) := by
  cases hc : c.isSave with
  | true =>
    cases c with
    | save entity external =>
      obtain ⟨left, hleft⟩ := Option.isSome_iff_exists.1 (hsucceed hc)
      have houtcome := Outcome.left?_eq_some.1 hleft
      obtain ⟨id, hsaved⟩ := Session.saved_of_outcome hs he hσ ho.model ho.fields
        (htakes entity external rfl) houtcome
      rw [houtcome] at hd ⊢
      exact h.save ho.leads hsaved fun a ha => hd a ha _ rfl
    | _ => cases hc
  | false =>
    obtain ⟨hkeeps, hcontents⟩ := Session.keeps_read hs hσ (ho.nameLeads he) hc
    have hleft := Session.left?_read (σ := σ) (r := r) hc
    have hnone : c.content? r.model (σ.call (.repository r c)).1 = none := by
      cases c with
      | save entity external => cases hc
      | _ => rfl
    rw [hleft, hnone, Option.toList_none, Option.toList_none, List.append_nil, List.append_nil]
    exact h.of_keeps hkeeps hcontents

/-- After every run the index holds what was left before it and by it. -/
theorem Holds.run (hs : s.HostsAreRoots) (he : s.endpoint? .engine = some e) (hσ : σ.IsOver s)
    (ho : r.IsOrdinary e index) {saved : List Entity} {contents : List Bytes}
    (h : r.Holds e index σ.world saved contents) {calls : List RepositoryCall}
    (htakes : ∀ entity external, .save entity external ∈ calls → r.Takes entity external)
    (hsucceed : ∀ p ∈ calls.zip (σ.runCalls (calls.map (.repository r))).1,
      p.1.isSave = true → p.2.left?.isSome = true)
    (hd : ∀ a ∈ contents ++ contentsOf r.model calls (σ.runCalls (calls.map (.repository r))).1,
      ∀ b ∈ contents ++ contentsOf r.model calls (σ.runCalls (calls.map (.repository r))).1,
        Blobs.hashOf a = Blobs.hashOf b → a = b) :
    r.Holds e index (σ.runCalls (calls.map (.repository r))).2.world
      (saved ++ leftBy (σ.runCalls (calls.map (.repository r))).1)
      (contents ++ contentsOf r.model calls (σ.runCalls (calls.map (.repository r))).1) := by
  -- What was saved before the first call grows with each, so it is general in the induction.
  induction calls generalizing σ saved contents with
  | nil => simpa [leftBy, contentsOf, Session.runCalls] using h
  | cons c cs ih =>
    rw [List.map_cons, Session.runCalls_cons] at hsucceed hd ⊢
    rw [List.zip_cons_cons] at hsucceed
    have hover := hσ.perform (.repository r c)
    have hrest := fun entity external hc => htakes entity external (List.mem_cons_of_mem c hc)
    have hlater := fun p hp => hsucceed p (List.mem_cons_of_mem _ hp)
    have hcontents : ∀ o os, contentsOf r.model (c :: cs) (o :: os) =
        (c.content? r.model o).toList ++ contentsOf r.model cs os := by
      intro o os
      rw [contentsOf, List.zip_cons_cons, List.filterMap_cons]
      cases c.content? r.model o <;> rfl
    have hleft : ∀ o os, leftBy (o :: os) = o.left?.toList ++ leftBy os := by
      intro o os
      rw [leftBy, List.filterMap_cons]
      cases o.left? <;> rfl
    rw [hcontents, ← List.append_assoc] at hd ⊢
    rw [hleft, ← List.append_assoc]
    refine ih hover (h.step hs he hσ ho ?_ (hsucceed _ (List.mem_cons_self ..)) ?_) hrest hlater hd
    · exact fun entity external hsave => htakes entity external (hsave ▸ List.mem_cons_self ..)
    · intro a ha b hb
      refine hd a (List.mem_append_left _ (List.mem_append_left _ ha)) b
        (List.mem_append_left _ (List.mem_append_right _ ?_))
      rw [hb]
      exact List.mem_singleton_self b

/-! ## What is found -/

section Finding

variable {saved : List Entity} {contents : List Bytes} {id : String} {left : Entity}

theorem call_find (hσ : σ.IsOver s) (id : Json) :
    σ.call (.repository r (.find id)) =
      σ.talk (Outcome.ofAction .entity (r.find? (.remote s) id)) := by
  unfold Session.call
  rw [hσ.installation]
  rfl

theorem call_has (hσ : σ.IsOver s) (id : Json) :
    σ.call (.repository r (.has id)) =
      σ.talk (Outcome.ofAction .flag (r.has (.remote s) id)) := by
  unfold Session.call
  rw [hσ.installation]
  rfl

/-- What an operation is known to give is what comes out of its call. -/
theorem outcome_of_result {α : Type} {give : α → Outcome} {action : Action α}
    (result : Except Failure α) (hσ : σ.IsOver s)
    (h : WP σ.standing action (fun a _ => result = .ok a) fun f _ => result = .error f) :
    (σ.talk (Outcome.ofAction give action)).1 = .ofResult give result := by
  rcases h.talk (g := give) hσ.live with ⟨a, hout, rfl⟩ | ⟨f, hout, rfl⟩ <;> exact hout

/-- A document that is there is found. -/
theorem has_of_present {d : Document} {url : Url} (hs : s.HostsAreRoots)
    (he : s.endpoint? .engine = some e) (hσ : σ.IsOver s)
    (hl : e.address.Leads (Text.lower r.index) index) (hr : r.index ≠ "")
    (hf : σ.world.engine.failing = none) (h0 : id ≠ "") (h1 : id ≠ ".") (h2 : id ≠ "..")
    (ht : e.address.target (documentPath (Text.lower r.index) (.str id)) = .ok url)
    (hd : Entries.get? (σ.world.engine.documents index) id = some d) :
    (σ.call (.repository r (.has (.str id)))).1 = .flag true := by
  have hmetadata := metadata?_of_target σ.standing hs he hl hr hf h0 h1 h2 ht
  rw [show Entries.get? (σ.standing.engine.documents index) id = some d from hd] at hmetadata
  rw [call_has hσ]
  refine outcome_of_result (.ok true) hσ (.bind (hmetadata.mono (fun _ _ h => h)
    fun _ _ h => h.elim) ?_)
  rintro _ _ ⟨rfl, -⟩
  exact .pure rfl

/-- An entity whose document and content are there is found as it was left, unless it cannot be
read. -/
theorem find_of_present {d : Document} {stored : Entity} (hs : s.HostsAreRoots)
    (he : s.endpoint? .engine = some e) (hσ : σ.IsOver s) (ho : r.IsOrdinary e index)
    (hf : σ.world.engine.failing = none) (hstore : σ.world.contents.failing = none) (h0 : id ≠ "")
    (hid : Reaches e (Text.lower r.index) id)
    (hget : Entries.get? (σ.world.engine.documents index) id = some d)
    (hrefers : r.RefersTo d stored left)
    (hblob : Entries.get? σ.world.contents.blobs
      (Blobs.hashOf (EntityModel.serialize stored)) = some (EntityModel.serialize stored)) :
    (σ.call (.repository r (.find (.str id)))).1 =
      if left.isLegible then .entity (some left)
      else .failed (.invalid [⟨.jsonInvalid, []⟩]) := by
  obtain ⟨h1, h2, url, ht⟩ := hid
  have hmetadata := metadata?_of_target σ.standing hs he ho.leads ho.name hf h0 h1 h2 ht
  rw [show Entries.get? (σ.standing.engine.documents index) id = some d from hget] at hmetadata
  have hhash := hrefers.hash_ofDocument index id
  rw [call_find hσ, hrefers.isLegible_left ho.model]
  refine (outcome_of_result (if stored.isLegible then .ok (some left)
    else .error (.invalid [⟨.jsonInvalid, []⟩])) hσ (.bind (hmetadata.mono (fun _ _ h => h)
      fun _ _ h => h.elim) ?_)).trans (by split <;> rfl)
  rintro _ st' ⟨rfl, hcontents⟩
  refine .bind ((load_of_stored hs ho.model (by rw [hcontents]; exact hstore) hrefers.admits
    hhash (by rw [hcontents]; exact hblob)).mono (fun _ _ h => h) ?_) ?_
  · rintro _ _ ⟨hread, rfl⟩
    rw [hread, if_neg Bool.false_ne_true]
  · rintro _ _ ⟨hread, rfl, -⟩
    refine .pure ?_
    rw [hread, if_pos rfl, hhash, hrefers.left]

/-- The entity that was saved last is found as it was left, unless it cannot be read. -/
theorem Holds.find_of_saved (hs : s.HostsAreRoots) (he : s.endpoint? .engine = some e)
    (hσ : σ.IsOver s) (ho : r.IsOrdinary e index) (h : r.Holds e index σ.world saved contents)
    (h0 : id ≠ "") (hid : r.model.last? saved id = some left) :
    (σ.call (.repository r (.find (.str id)))).1 =
        (if left.isLegible then .entity (some left) else .failed (.invalid [⟨.jsonInvalid, []⟩])) ∧
      (σ.call (.repository r (.has (.str id)))).1 = .flag true := by
  obtain ⟨d, stored, hget, hrefers, hmem, hreaches⟩ := h.present id left hid
  refine ⟨find_of_present hs he hσ ho h.engine h.store h0 hreaches hget hrefers
    (h.blobs _ hmem), ?_⟩
  obtain ⟨h1, h2, url, ht⟩ := hreaches
  exact has_of_present hs he hσ ho.leads ho.name h.engine h0 h1 h2 ht hget

/-- Where nothing was saved nothing is found. -/
theorem Holds.find_of_unsaved {url : Url} (hs : s.HostsAreRoots)
    (he : s.endpoint? .engine = some e) (hσ : σ.IsOver s) (ho : r.IsOrdinary e index)
    (h : r.Holds e index σ.world saved contents) (h0 : id ≠ "") (h1 : id ≠ ".") (h2 : id ≠ "..")
    (hid : r.model.last? saved id = none)
    (ht : e.address.target (documentPath (Text.lower r.index) (.str id)) = .ok url) :
    (σ.call (.repository r (.find (.str id)))).1 = .entity none ∧
      (σ.call (.repository r (.has (.str id)))).1 = .flag false := by
  have hmetadata := metadata?_of_target σ.standing hs he ho.leads ho.name h.engine h0 h1 h2 ht
  rw [show Entries.get? (σ.standing.engine.documents index) id = none from h.absent id hid]
    at hmetadata
  rw [call_find hσ, call_has hσ]
  constructor
  · refine outcome_of_result (.ok none) hσ (.bind (hmetadata.mono (fun _ _ h => h)
      fun _ _ h => h.elim) ?_)
    rintro _ _ ⟨rfl, -⟩
    exact .pure rfl
  · refine outcome_of_result (.ok false) hσ (.bind (hmetadata.mono (fun _ _ h => h)
      fun _ _ h => h.elim) ?_)
    rintro _ _ ⟨rfl, -⟩
    exact .pure rfl

/-- Where the path of the document is not admitted it cannot be told what was saved. -/
theorem find_of_refused {f : Fault} (hs : s.HostsAreRoots) (he : s.endpoint? .engine = some e)
    (hσ : σ.IsOver s) (hr : r.index ≠ "") (h0 : id ≠ "")
    (ht : e.address.target (documentPath (Text.lower r.index) (.str id)) = .error f) :
    (σ.call (.repository r (.find (.str id)))).1 =
        .failed (.error (.failed .lookingUp (.fault f))) ∧
      (σ.call (.repository r (.has (.str id)))).1 =
        .failed (.error (.failed .lookingUp (.fault f))) := by
  have hmetadata := metadata?_of_refused σ.standing hs he hr h0 ht
  rw [call_find hσ, call_has hσ]
  constructor
  · exact outcome_of_result (.error (.error (.failed .lookingUp (.fault f)))) hσ
      (.bind (hmetadata.mono (fun _ _ h => h) fun _ _ h => h ▸ rfl) fun _ _ h => h.elim)
  · exact outcome_of_result (.error (.error (.failed .lookingUp (.fault f)))) hσ
      (.bind (hmetadata.mono (fun _ _ h => h) fun _ _ h => h ▸ rfl) fun _ _ h => h.elim)

end Finding

/-- A run of calls of which every save is of an entity that can be saved, and succeeds, and of which
no two contents have the same hash. -/
structure RunsWell (r : Repository) (calls : List RepositoryCall) (outcomes : List Outcome) :
    Prop where
  takes : ∀ entity external, .save entity external ∈ calls → r.Takes entity external
  succeeds : ∀ p ∈ calls.zip outcomes, p.1.isSave = true → p.2.left?.isSome = true
  distinct : ∀ a ∈ contentsOf r.model calls outcomes, ∀ b ∈ contentsOf r.model calls outcomes,
    Blobs.hashOf a = Blobs.hashOf b → a = b

/-- After a run that began with nothing the index holds what the run has left. -/
theorem RunsWell.holds {σ' : Session} {calls : List RepositoryCall} {outcomes : List Outcome}
    (hwell : r.RunsWell calls outcomes) (hs : s.HostsAreRoots)
    (he : s.endpoint? .engine = some e) (ho : r.IsOrdinary e index) (hσ : σ.IsOver s)
    (hengine : σ.world.engine.failing = none) (hstore : σ.world.contents.failing = none)
    (hempty : σ.world.engine.documents index = [])
    (hrun : σ.runCalls (calls.map (.repository r)) = (outcomes, σ')) :
    r.Holds e index σ'.world (leftBy outcomes) (contentsOf r.model calls outcomes) := by
  have houtcomes : (σ.runCalls (calls.map (.repository r))).1 = outcomes := congrArg Prod.fst hrun
  have hafter : (σ.runCalls (calls.map (.repository r))).2 = σ' := congrArg Prod.snd hrun
  have hholds := (holds_of_empty hengine hstore hempty).run hs he hσ ho hwell.takes
    (by rw [houtcomes]; exact hwell.succeeds) (by rw [houtcomes]; exact hwell.distinct)
  rwa [houtcomes, hafter, List.nil_append, List.nil_append] at hholds

end Repository

/-- A repository of people that indexes their names. -/
def people : Repository where
  model := ⟨[("id", .optionalText), ("hash", .optionalText), ("name", .text), ("age", .integer)],
    "id", "hash"⟩
  index := "person"
  fields := ["name"]
  external := []
  defaultPageSize := 20

theorem isOrdinary_people {e : Endpoint} (he : e.IsEngine) : people.IsOrdinary e "person" where
  model := ⟨by decide, ⟨by decide, by decide⟩, ⟨by decide, by decide⟩, by decide⟩
  fields := by decide
  name := by decide
  leads := leads_of_plain he.root (by decide)

theorem lower_people : Text.lower people.index = "person" := by decide

/-- The paths of a short identifier are not too long. -/
theorem fits_person :
    fits (documentPath "person" (.str "zz")) = true ∧
      ∀ path ∈ writePaths "person" (some "a"), fits path = true := by
  decide +kernel

/-- A person. -/
def person (id hash : Option String) (name : String) (age : Int) : Entity :=
  [("id", .ofOption id), ("hash", .ofOption hash), ("name", .str name), ("age", .int age)]

theorem admits_person (id hash : Option String) (name : String) (age : Int) :
    people.model.Admits (person id hash name age) :=
  .cons ⟨rfl, id, rfl⟩ (.cons ⟨rfl, hash, rfl⟩
    (.cons ⟨rfl, name, rfl⟩ (.cons ⟨rfl, age, rfl⟩ .nil)))

theorem takes_person {id : String} (h : id ≠ "") (hash : Option String) (name : String) (age : Int)
    {external : Json} (hexternal : hashKey ∉ Repository.externalNames external) :
    people.Takes (person id hash name age) external :=
  ⟨admits_person .., fun heq => absurd (Json.str.inj heq) h, hexternal⟩

/-- Two people under one identifier, the second with the hash of something else and an external
field. -/
def twoSaves : List RepositoryCall :=
  [.save (person "x/y" none "Ann" 41) .null,
    .save (person "x/y" "stale" "Eve" (-3)) (.obj [("tag", .str "new")])]

/-- What the two saves give, and the session after them. -/
def Session.afterTwoSaves : List Outcome × Session :=
  (Session.fresh .standard).runCalls (twoSaves.map (.repository people))

theorem left_twoSaves :
    leftBy Session.afterTwoSaves.1 =
      [person "x/y" "Qmae9b5ca13ea1313b233811ed1b92381443670cf92a9d" "Ann" 41,
        person "x/y" "Qm547a56de52757d2b500362ee7b3b10d58874d736fda2" "Eve" (-3)] ∧
    (∀ p ∈ twoSaves.zip Session.afterTwoSaves.1, p.1.isSave = true → p.2.left?.isSome = true) ∧
    ((contentsOf people.model twoSaves Session.afterTwoSaves.1).map Blobs.hashOf).Nodup := by
  decide +kernel

theorem runsWell_twoSaves : people.RunsWell twoSaves Session.afterTwoSaves.1 where
  takes := by
    intro entity external h
    simp only [twoSaves, List.mem_cons, RepositoryCall.save.injEq, List.not_mem_nil,
      or_false] at h
    rcases h with ⟨rfl, rfl⟩ | ⟨rfl, rfl⟩ <;>
      exact takes_person (by decide) _ _ _ (by decide)
  succeeds := left_twoSaves.2.1
  distinct := List.inj_on_of_nodup_map left_twoSaves.2.2

theorem isLegible_person (id hash : Option String) (name : String) (age : Int) :
    Entity.isLegible (person id hash name age) = Json.Bounds.forRecords.admitsInt age := by
  cases id <;> cases hash <;> simp [person, Entity.isLegible, Json.ofOption]

theorem indexRequest_person (id hash : Option String) (name : String) (age : Int) :
    people.indexRequest (person id hash name age) .null = .ok ⟨id, "person",
      some Repository.contentType, none, [⟨"name", .str name, true⟩], none⟩ := by
  cases id <;> rfl

/-- A person is saved, however long the age is, since no request holds it. -/
theorem save_person {s : Settings} {σ : Session} (hs : s.HostsAreRoots) (hσ : σ.IsOver s)
    (hengine : σ.world.engine.failing = none) (hstore : σ.world.contents.failing = none)
    (hash : Option String) (name : String) (age : Int) :
    ∃ left, (σ.call (.repository people (.save (person "a" hash name age) .null))).1 =
      .saved left none := by
  obtain ⟨e, he, hroot⟩ := hs .engine
  have hadmits : Admits e (Text.lower people.index) "person" (some "a") := by
    rw [lower_people]
    exact admits_of_plain (hs.isEngine he) (by decide)
      (fun t ht => by cases ht; decide) fits_person.2
  refine Session.save_of_admitted hs he hσ hengine hstore (indexRequest_person ..) (by decide)
    hadmits (IndexRequest.hasForm_of_allFields _ fun f hf => ?_)
  rw [List.mem_singleton.1 hf]
  exact ⟨rfl, rfl⟩

/-- A person that was saved under an identifier is left with the hash of what was stored. -/
theorem left_of_person {e : Endpoint} {σ σ' : Session} {left : Entity} {key id name : String}
    {hash : Option String} {age : Int} (h : people.Saved e σ σ' (person key hash name age) left id) :
    left = person key (some (Blobs.hashOf (people.model.contentOf (person key hash name age) left)))
      name age := by
  have hstored : people.model.stored (person key hash name age) left = person key hash name age :=
    if_neg nofun
  have hhashed := h.withHash
  rw [hstored] at hhashed
  exact hhashed.symm

/-- An age that has as many digits as a request may hold, and a sign. -/
def longAge : Int := -10 ^ (Numeral.maxDigits - 1)

theorem admitsInt_longAge : Json.Bounds.forRecords.admitsInt longAge = false := by
  have hneg : longAge < 0 := Int.neg_neg_of_pos (Int.pow_pos (by decide))
  rw [← Bool.not_eq_true, Json.admitsInt_forRecords, if_pos hneg, longAge, Int.natAbs_neg,
    Int.natAbs_pow]
  generalize Numeral.maxDigits - 1 = k
  exact Nat.lt_irrefl _

end ContentDepot
