import ContentDepot.Proofs.Depot.Pagination
import ContentDepot.Proofs.Paging.TotalPages
import ContentDepot.Proofs.Repository.Runs

/-!
# The pages of a repository

In an index to which a repository alone writes the documents are in step with the
entities that are current: for each identifier, in the order in which they were
first saved, the one that was saved last (`EntityModel.current`,
`Repository.Holds.inStep`). A search without a query and without sort keys gives one
page of the documents and loads what they refer to (`Repository.loadAll_of_stored`),
so it gives one page of the current entities (`Repository.Holds.search_page`), and
leaves everything as it is, so the pages of a run of searches are pages of one list
(`Repository.Holds.runCalls_pages`).

Together the pages are all current entities, as long as these can be read and their
number, divided by the size of a page, is rounded without loss
(`enumerated_after_run`).
-/

namespace ContentDepot

open Exchange InMemory Search MetadataIndex Address

/-! ## The current entities -/

namespace EntityModel

variable {m : EntityModel} {saved : List Entity}

/-- For each identifier the entity that was saved last, in the order in which the identifiers were
first saved. -/
def current (m : EntityModel) (saved : List Entity) : List Entity :=
  (m.ids saved).filterMap (m.last? saved)

theorem mem_ids {id : String} : id ∈ m.ids saved ↔ ∃ e ∈ saved, m.idOf e = .str id := by
  have hstr : ∀ v : Json, v.str? = some id ↔ v = .str id := by
    intro v
    cases v <;> simp [Json.str?]
  simp only [ids, List.mem_eraseDups, List.mem_filterMap, hstr]

theorem exists_last?_of_mem_ids {id : String} (h : id ∈ m.ids saved) :
    ∃ e, m.last? saved id = some e ∧ m.idOf e = .str id := by
  obtain ⟨e, he, hid⟩ := mem_ids.1 h
  have hne : saved.filter (fun e => m.idOf e = .str id) ≠ [] :=
    List.ne_nil_of_mem (List.mem_filter.2 ⟨he, by simpa using hid⟩)
  have hlast := List.getLast_mem hne
  rw [List.mem_filter, decide_eq_true_eq] at hlast
  exact ⟨_, List.getLast?_eq_some_getLast hne, hlast.2⟩

/-- There is one current entity for each identifier. -/
theorem idOf_current (m : EntityModel) (saved : List Entity) :
    (m.current saved).map m.idOf = (m.ids saved).map .str := by
  have hstep : List.Forall₂ (fun id e => m.idOf e = .str id) (m.ids saved) (m.current saved) :=
    forall₂_filterMap fun id hid => exists_last?_of_mem_ids hid
  generalize m.current saved = es at hstep ⊢
  generalize m.ids saved = ids at hstep ⊢
  induction hstep with
  | nil => rfl
  | cons h _ ih => rw [List.map_cons, List.map_cons, h, ih]

theorem length_current (m : EntityModel) (saved : List Entity) :
    (m.current saved).length = (m.ids saved).length := by
  have h := congrArg List.length (idOf_current m saved)
  rwa [List.length_map, List.length_map] at h

end EntityModel

/-! ## What is loaded -/

namespace Repository

variable {s : Settings} {r : Repository} {e : Endpoint} {index : String} {σ : Session}
  {saved : List Entity} {contents : List Bytes} {n : Nat}

/-- A document with the hash of an entity whose content is in the store, and that is left. -/
def Yields (r : Repository) (b : Blobs) (d : String × Document) (left : Entity) : Prop :=
  ∃ stored, r.RefersTo d.2 stored left ∧
    Entries.get? b.blobs (Blobs.hashOf (EntityModel.serialize stored)) =
      some (EntityModel.serialize stored)

/-- What documents refer to is loaded, unless one of the entities cannot be read. -/
theorem loadAll_of_stored {st : Standing} {ds : List (String × Document)} {lefts : List Entity}
    (hs : s.HostsAreRoots) (hm : r.model.IsSound) (hf : st.contents.failing = none)
    (h : List.Forall₂ (r.Yields st.contents) ds lefts) (index : String) :
    WP st (r.loadAll (.remote s) (ds.map fun d => .ofDocument index d.1 d.2))
      (fun es _ => lefts.all Entity.isLegible = true ∧ es = lefts)
      fun f _ => lefts.all Entity.isLegible = false ∧ f = .invalid [⟨.jsonInvalid, []⟩] := by
  induction h with
  | nil => exact .pure ⟨rfl, rfl⟩
  | @cons d left ds lefts hd _ ih =>
    obtain ⟨stored, hrefers, hget⟩ := hd
    have hload := load_of_stored hs hm hf hrefers.admits (hrefers.hash_ofDocument index d.1) hget
    rw [← hrefers.isLegible_left hm] at hload
    refine .bind (hload.mono (fun _ _ h => h) fun f _ h => ⟨?_, h.2⟩) ?_
    · rw [List.all_cons, h.1, Bool.false_and]
    · rintro _ _ ⟨hread, rfl, rfl⟩
      refine .bind (ih.mono (fun _ _ h => h) fun f _ h => ⟨?_, h.2⟩) ?_
      · rw [List.all_cons, h.1, Bool.and_false]
      · rintro es _ ⟨hreads, rfl⟩
        refine .pure ⟨?_, ?_⟩
        · rw [List.all_cons, hread, hreads, Bool.and_true]
        · rw [hrefers.hash_ofDocument, hrefers.left]

/-- The documents are in step with the current entities. -/
theorem Holds.inStep {w : World} (h : r.Holds e index w saved contents) :
    List.Forall₂ (r.Yields w.contents) (w.engine.documents index) (r.model.current saved) := by
  have hcurrent : r.model.current saved =
      (w.engine.documents index).filterMap fun d => r.model.last? saved d.1 := by
    rw [EntityModel.current, ← h.keys, Entries.keys, List.filterMap_map]
    rfl
  have hnodup : (Entries.keys (w.engine.documents index)).Nodup := by
    rw [h.keys]
    exact nodup_eraseDups _
  rw [hcurrent]
  refine forall₂_filterMap fun d hd => ?_
  have hget := Entries.get?_of_mem hnodup hd
  rcases hlast : r.model.last? saved d.1 with _ | left
  · rw [h.absent d.1 hlast] at hget
    cases hget
  · obtain ⟨d', stored, hget', hrefers, hmem, -⟩ := h.present d.1 left hlast
    obtain rfl := Option.some.inj (hget'.symm.trans hget)
    exact ⟨left, rfl, stored, hrefers, h.blobs _ hmem⟩

/-! ## Pages -/

/-- What the request for a page gives of the entities that a repository was left with. -/
def entitiesShown (m : EntityModel) (saved : List Entity) (hn : 1 ≤ n) (p : Nat) : Outcome :=
  if p * n < Nat.pow 10 Numeral.maxDigits ∧ n < Nat.pow 10 Numeral.maxDigits then
    if (pageOf n p (m.current saved)).all Entity.isLegible then
      .entities ⟨pageOf n p (m.current saved), pageAt [] hn p, (m.ids saved).length⟩
    else .failed (.invalid [⟨.jsonInvalid, []⟩])
  else .failed (.error (.failed .searching (.fault .badValue)))

/-- Once something is saved the index is there, and can be searched. -/
theorem Holds.finds {w : World} (h : r.Holds e index w saved contents) (he : e.IsEngine)
    (hl : e.address.Leads (Text.lower r.index) index)
    (ht : ∃ url, e.address.target ("/" ++ Text.lower r.index ++ "/_search") = .ok url)
    (hsome : r.model.ids saved ≠ []) : Finds e w.engine (Text.lower r.index) index := by
  refine ⟨he, hl, ht, h.engine, ?_⟩
  have hkeys := h.keys
  unfold Engine.documents at hkeys
  unfold Entries.has
  cases hindex : Entries.get? w.engine.indices index with
  | none =>
    rw [hindex] at hkeys
    exact absurd hkeys.symm hsome
  | some ds => rfl

theorem call_search (hσ : σ.IsOver s) (query : Option Query) (pageable : Option Pageable) :
    σ.call (.repository r (.search query pageable)) =
      σ.talk (Outcome.ofAction .entities (r.search (.remote s) query pageable)) := by
  unfold Session.call
  rw [hσ.installation]
  rfl

/-- Without a query and without sort keys all documents are found as they are. -/
theorem orders_all {engine : Engine} {i : String} (he : s.endpoint? .engine = some e) (hi : i ≠ "")
    (hx : Finds e engine (Text.lower i) index) :
    Session.Orders s e engine i index none [] (engine.documents index) := by
  have hall : matched engine s.fillAbsent index none = engine.documents index :=
    List.filter_eq_self.2 fun _ _ => rfl
  have hmatching : ∀ body : Json,
      body.member? "query" = some (predicateOf s.fillAbsent none).toJson →
      Engine.keysOf body = [] → engine.matching index body = .ok (engine.documents index) := by
    intro body hq hk
    rw [matching_of_fulfils (fun _ => true) (fun _ _ => rfl) hq, hk]
    exact congrArg Except.ok hall
  refine ⟨he, hi, hx, nofun, ?_, ?_, hall ▸ .refl _⟩
  · rw [hall]
    exact hmatching _ rfl rfl
  · intro pageable hsort
    refine hmatching _ rfl ?_
    rw [Engine.keysOf_searchBody, hsort]
    rfl

/-- A search of all documents finds the page that it asks for. -/
theorem searchFiles_all {st : Standing} (hs : s.HostsAreRoots) (he : s.endpoint? .engine = some e)
    (hr : r.index ≠ "") (hx : Finds e st.engine (Text.lower r.index) index) (hn : 1 ≤ n)
    (p : Nat) :
    WP st ((Depot.remote s).searchFiles (.str r.index) none (some (pageAt [] hn p)))
      (fun page st' => Session.pageFound index (st.engine.documents index) [] hn p = .ok page ∧
        st'.contents = st.contents)
      fun f st' => Session.pageFound index (st.engine.documents index) [] hn p = .error f ∧
        st'.contents = st.contents := by
  refine WP.of_result ?_ (Spares.searchFiles hs none _ rfl)
  rintro c w hw rfl
  obtain ⟨c', w', hcarry, -⟩ := (orders_all he hr hx).carry_searchFiles hw hn p c
  rw [hcarry]

/-- A search gives the page that it asks for of the current entities. -/
theorem Holds.search_page (hs : s.HostsAreRoots) (he : s.endpoint? .engine = some e)
    (hσ : σ.IsOver s) (ho : r.IsOrdinary e index) (h : r.Holds e index σ.world saved contents)
    (hx : Finds e σ.world.engine (Text.lower r.index) index) (hn : 1 ≤ n) (p : Nat) :
    (σ.call (.repository r (.search none (some (pageAt [] hn p))))).1 =
      entitiesShown r.model saved hn p := by
  have hlength : (σ.standing.engine.documents index).length = (r.model.ids saved).length := by
    rw [← EntityModel.length_current, ← h.inStep.length_eq]
    rfl
  have hpage : List.Forall₂ (r.Yields σ.standing.contents)
      (pageOf n p (σ.standing.engine.documents index)) (pageOf n p (r.model.current saved)) :=
    List.forall₂_take n (List.forall₂_drop (p * n) h.inStep)
  have hsearched := searchFiles_all hs he ho.name (show Finds e σ.standing.engine _ _ from hx) hn p
  have hgiven : WP σ.standing (Pure.pure (pageAt [] hn p) : Action Pageable)
      (fun a st' => a = pageAt [] hn p ∧ st' = σ.standing) fun _ _ => False := .pure ⟨rfl, rfl⟩
  rw [call_search hσ]
  unfold Session.pageFound at hsearched
  unfold entitiesShown
  by_cases hp : p * n < Nat.pow 10 Numeral.maxDigits ∧ n < Nat.pow 10 Numeral.maxDigits
  · rw [if_pos hp] at hsearched ⊢
    refine (outcome_of_result (if (pageOf n p (r.model.current saved)).all Entity.isLegible
      then .ok ⟨pageOf n p (r.model.current saved), pageAt [] hn p, (r.model.ids saved).length⟩
      else .error (.invalid [⟨.jsonInvalid, []⟩])) hσ (.bind (hgiven.mono (fun _ _ h => h)
        fun _ _ h => h.elim) ?_)).trans (by split <;> rfl)
    rintro _ _ ⟨rfl, rfl⟩
    refine .bind (hsearched.mono (fun _ _ h => h) fun f _ h => by cases h.1) ?_
    rintro page st' ⟨hpageFound, hcontents⟩
    obtain rfl := Except.ok.inj hpageFound
    have hstored : List.Forall₂ (r.Yields st'.contents)
        (pageOf n p (σ.standing.engine.documents index)) (pageOf n p (r.model.current saved)) := by
      rw [hcontents]
      exact hpage
    refine .bind ((loadAll_of_stored hs ho.model (by rw [hcontents]; exact h.store) hstored
      index).mono (fun _ _ h => h) ?_) ?_
    · rintro _ _ ⟨hread, rfl⟩
      rw [hread, if_neg Bool.false_ne_true]
    · rintro _ _ ⟨hread, rfl⟩
      refine .pure ?_
      rw [hread, if_pos rfl, hlength]
  · rw [if_neg hp] at hsearched ⊢
    refine outcome_of_result (.error (.error (.failed .searching (.fault .badValue)))) hσ
      (.bind (hgiven.mono (fun _ _ h => h) fun _ _ h => h.elim) ?_)
    rintro _ _ ⟨rfl, rfl⟩
    exact .bind (hsearched.mono (fun _ _ h => h) fun f _ h =>
      congrArg Except.error (Except.error.inj h.1)) fun _ _ h => by cases h.1

/-- A run of searches gives pages of the same entities. -/
theorem Holds.runCalls_pages (hs : s.HostsAreRoots) (he : s.endpoint? .engine = some e)
    (hσ : σ.IsOver s) (ho : r.IsOrdinary e index) (h : r.Holds e index σ.world saved contents)
    (ht : ∃ url, e.address.target ("/" ++ Text.lower r.index ++ "/_search") = .ok url)
    (hsome : r.model.ids saved ≠ []) (hn : 1 ≤ n) (ps : List Nat) :
    (σ.runCalls (ps.map fun p => .repository r (.search none (some (pageAt [] hn p))))).1 =
      ps.map (entitiesShown r.model saved hn) := by
  induction ps generalizing σ with
  | nil => rfl
  | cons p ps ih =>
    have hx := h.finds (hs.isEngine he) ho.leads ht hsome
    obtain ⟨hkeeps, hcontents⟩ := Session.keeps_read (c := .search none (some (pageAt [] hn p)))
      hs hσ (ho.nameLeads he) rfl
    rw [List.map_cons, Session.runCalls_cons, h.search_page hs he hσ ho hx hn p, List.map_cons]
    exact congrArg _ (ih (hσ.perform _) (h.of_keeps hkeeps hcontents))

/-! ## Runs -/

/-- A run that has left an entity has saved one. -/
theorem exists_saved_of_run (hs : s.HostsAreRoots) (he : s.endpoint? .engine = some e)
    (hσ : σ.IsOver s) (hm : r.model.IsSound) (hr : hashKey ∉ r.fields)
    {calls : List RepositoryCall}
    (htakes : ∀ entity external, .save entity external ∈ calls → r.Takes entity external)
    {left : Entity} (hleft : left ∈ leftBy (σ.runCalls (calls.map (.repository r))).1) :
    ∃ σ₁ σ₂ entity id, r.Saved e σ₁ σ₂ entity left id := by
  induction calls generalizing σ with
  | nil => cases hleft
  | cons c cs ih =>
    rw [List.map_cons, Session.runCalls_cons, leftBy, List.mem_filterMap] at hleft
    obtain ⟨o, ho, holeft⟩ := hleft
    rcases List.mem_cons.1 ho with rfl | ho
    · cases c with
      | save entity external =>
        exact ⟨_, _, entity, Session.saved_of_outcome hs he hσ hm hr
          (htakes entity external (List.mem_cons_self ..)) (Outcome.left?_eq_some.1 holeft)⟩
      | _ =>
        rw [Session.left?_read rfl] at holeft
        cases holeft
    · exact ih (hσ.perform _)
        (fun entity external hc => htakes entity external (List.mem_cons_of_mem c hc))
        (List.mem_filterMap.2 ⟨o, ho, holeft⟩)

/-- After a run that began with nothing and has left an entity, the searches for pages give pages
of the current entities. -/
theorem RunsWell.pages {σ' : Session} {calls : List RepositoryCall} {outcomes : List Outcome}
    (hwell : r.RunsWell calls outcomes) (hs : s.HostsAreRoots)
    (he : s.endpoint? .engine = some e) (hm : r.model.IsSound) (hr : hashKey ∉ r.fields)
    (hσ : σ.IsOver s) (hengine : σ.world.engine.failing = none)
    (hstore : σ.world.contents.failing = none)
    (hempty : ∀ index, e.address.Leads (Text.lower r.index) index →
      σ.world.engine.documents index = [])
    (hrun : σ.runCalls (calls.map (.repository r)) = (outcomes, σ'))
    (hsome : leftBy outcomes ≠ []) (hn : 1 ≤ n) (ps : List Nat) :
    (σ'.runCalls (ps.map fun p => .repository r (.search none (some (pageAt [] hn p))))).1 =
      ps.map (entitiesShown r.model (leftBy outcomes) hn) := by
  obtain ⟨left, hleft⟩ := List.exists_mem_of_ne_nil _ hsome
  obtain ⟨_, _, _, id, hsaved⟩ := exists_saved_of_run hs he hσ hm hr hwell.takes
    (by rw [hrun]; exact hleft)
  obtain ⟨index, hl⟩ := hsaved.leads
  have ho : r.IsOrdinary e index := ⟨hm, hr, hsaved.name, hl⟩
  have hover := hσ.runCalls (calls.map (.repository r))
  rw [hrun] at hover
  refine (hwell.holds hs he ho hσ hengine hstore (hempty index hl) hrun).runCalls_pages hs he hover
    ho hsaved.searches ?_ hn ps
  exact List.ne_nil_of_mem (EntityModel.mem_ids.2 ⟨left, hleft, hsaved.idOf⟩)

theorem entitiesShown_of_fits {m : EntityModel} {p : Nat}
    (hlegible : (m.current saved).all Entity.isLegible = true)
    (hsize : n < Nat.pow 10 Numeral.maxDigits) (hp : p * n < Nat.pow 10 Numeral.maxDigits)
    (hn : 1 ≤ n) :
    entitiesShown m saved hn p =
      .entities ⟨pageOf n p (m.current saved), pageAt [] hn p, (m.ids saved).length⟩ := by
  have hpage : (pageOf n p (m.current saved)).all Entity.isLegible = true := by
    rw [List.all_eq_true] at hlegible ⊢
    exact fun e he => hlegible e (List.mem_of_mem_drop (List.mem_of_mem_take he))
  rw [entitiesShown, if_pos ⟨hp, hsize⟩, if_pos hpage]

theorem two_pow_le {k : Nat} (hk : k ≤ Numeral.maxDigits) :
    2 ^ k ≤ Nat.pow 10 Numeral.maxDigits := by
  generalize Numeral.maxDigits = d at hk ⊢
  exact Nat.le_trans (Nat.pow_le_pow_right (by decide) hk) (Nat.pow_le_pow_left (by decide) d)

/-- A page size that leaves something of the quotient can be written. -/
theorem lt_of_left {total : Nat} (htotal : total ≤ Binary64.significandBound)
    (hleft : n < total * (2 * Binary64.unitsOfOne)) : n < Nat.pow 10 Numeral.maxDigits := by
  obtain ⟨j, -, hmax, hunits⟩ := Binary64.unitsOfOne_eq
  have hbound : Binary64.significandBound * (2 * Binary64.unitsOfOne) = 2 ^ (53 + (j + 1)) := by
    rw [hunits, Nat.pow_add, ← Nat.pow_succ', Binary64.significandBound, Nat.pow_eq]
  have hdigits : 53 + (j + 1) ≤ Numeral.maxDigits := by
    unfold Binary64.maxShift at hmax
    unfold Numeral.maxDigits
    omega
  exact Nat.lt_of_lt_of_le hleft
    (Nat.le_trans (Nat.mul_le_mul_right _ htotal) (hbound ▸ two_pow_le hdigits))

/-- So can a number that is rounded without loss. -/
theorem lt_of_le_significandBound (hbound : n ≤ Binary64.significandBound) :
    n < Nat.pow 10 Numeral.maxDigits := by
  have hlt : Binary64.significandBound < 2 ^ 54 := Nat.pow_lt_pow_right (by decide) (by decide)
  exact Nat.lt_of_lt_of_le (Nat.lt_of_le_of_lt hbound hlt) (two_pow_le (by decide))

end Repository

theorem tenTo_lt {k : Nat} (hk : k < Numeral.maxDigits) :
    tenTo k < Nat.pow 10 Numeral.maxDigits := by
  generalize Numeral.maxDigits = d at hk ⊢
  rw [Nat.pow_eq, tenTo]
  exact Nat.pow_lt_pow_right (by decide) hk

/-- Nothing is left of so small a part of one. -/
theorem ceil?_one_tenTo : (Page.quotient (1 : Nat) (tenTo 400 : Nat)).ceil? = some 0 := by
  decide +kernel

/-- Two people, of whom the first is saved again after the second. -/
def interleavedSaves : List RepositoryCall :=
  [.save (person "a" none "Ann" 41) .null, .save (person "b" none "Bob" 7) .null,
    .save (person "a" none "Eve" (-3)) .null]

/-- What the three saves give, and the session after them. -/
def Session.afterInterleavedSaves : List Outcome × Session :=
  (Session.fresh .standard).runCalls (interleavedSaves.map (.repository people))

/-- The person that was saved again keeps its place. -/
theorem current_saved_again {h₁ h₂ h₃ : Option String} {n₁ n₂ n₃ : String} {k₁ k₂ k₃ : Int} :
    people.model.current [person "a" h₁ n₁ k₁, person "b" h₂ n₂ k₂, person "a" h₃ n₃ k₃] =
      [person "a" h₃ n₃ k₃, person "b" h₂ n₂ k₂] := by
  have hids : people.model.ids [person "a" h₁ n₁ k₁, person "b" h₂ n₂ k₂, person "a" h₃ n₃ k₃] =
      ["a", "b"] := rfl
  have hne : Json.str "a" ≠ Json.str "b" := fun h => absurd (Json.str.inj h) (by decide)
  have hfirst : people.model.last?
      [person "a" h₁ n₁ k₁, person "b" h₂ n₂ k₂, person "a" h₃ n₃ k₃] "a" =
        some (person "a" h₃ n₃ k₃) :=
    (people.model.last?_append [_, _] _ "a").trans (if_pos rfl)
  have hsecond : people.model.last?
      [person "a" h₁ n₁ k₁, person "b" h₂ n₂ k₂, person "a" h₃ n₃ k₃] "b" =
        some (person "b" h₂ n₂ k₂) :=
    (people.model.last?_append [_, _] _ "b").trans ((if_neg hne).trans
      ((people.model.last?_append [_] _ "b").trans (if_pos rfl)))
  rw [EntityModel.current, hids, List.filterMap_cons_some hfirst,
    List.filterMap_cons_some hsecond]
  rfl

theorem left_interleavedSaves :
    leftBy Session.afterInterleavedSaves.1 =
      [person "a" "Qm0c231efef03638729927594e3ed3f17340c4fd7aeda6" "Ann" 41,
        person "b" "Qmbb6899b27522f7753813d9273e9ed8072dfa28fa576e" "Bob" 7,
        person "a" "Qmcef640a355ec1d3ca30d8244d70c5bec69cb2267fc49" "Eve" (-3)] ∧
    (∀ p ∈ interleavedSaves.zip Session.afterInterleavedSaves.1,
      p.1.isSave = true → p.2.left?.isSome = true) ∧
    ((contentsOf people.model interleavedSaves Session.afterInterleavedSaves.1).map
      Blobs.hashOf).Nodup := by
  decide +kernel

theorem runsWell_interleavedSaves :
    people.RunsWell interleavedSaves Session.afterInterleavedSaves.1 where
  takes := by
    intro entity external h
    simp only [interleavedSaves, List.mem_cons, RepositoryCall.save.injEq, List.not_mem_nil,
      or_false] at h
    rcases h with ⟨rfl, rfl⟩ | ⟨rfl, rfl⟩ | ⟨rfl, rfl⟩ <;>
      exact takes_person (by decide) _ _ _ (by decide)
  succeeds := left_interleavedSaves.2.1
  distinct := List.inj_on_of_nodup_map left_interleavedSaves.2.2

namespace Repository

/-- A run of one save that succeeded. -/
theorem runsWell_singleton {r : Repository} {entity left : Entity} {external : Json}
    (htakes : r.Takes entity external) :
    r.RunsWell [.save entity external] [.saved left none] where
  takes := by
    intro entity' external' h
    obtain ⟨rfl, rfl⟩ := RepositoryCall.save.inj (List.mem_singleton.1 h)
    exact htakes
  succeeds := by
    intro p hp _
    rw [List.mem_singleton.1 hp]
    rfl
  distinct := by
    intro a ha b hb _
    rw [List.mem_singleton.1 ha, List.mem_singleton.1 hb]

end Repository

theorem EntityModel.current_singleton {m : EntityModel} {left : Entity} {id : String}
    (h : m.idOf left = .str id) : m.current [left] = [left] := by
  have hids : m.ids [left] = [id] := by
    have happend := m.ids_append [] h
    rwa [if_neg (by simp [ids])] at happend
  have hlast : m.last? [left] id = some left := by
    have happend := m.last?_append [] left id
    rwa [if_pos h] at happend
  rw [current, hids, List.filterMap_cons_some hlast]
  rfl

/-- A person that was saved, and nobody else, is what there is to show. -/
theorem pages_of_person (age : Int) :
    ∃ left, ((Session.fresh .standard).call (.repository people
        (.save (person "a" none "Ann" age) .null))).1 = .saved left none ∧
      people.model.current [left] = [left] ∧
      left.isLegible = Json.Bounds.forRecords.admitsInt age ∧
      ∀ {n : Nat} (hn : 1 ≤ n) (p : Nat),
        (((Session.fresh .standard).call (.repository people
            (.save (person "a" none "Ann" age) .null))).2.call
          (.repository people (.search none (some (pageAt [] hn p))))).1 =
          Repository.entitiesShown people.model [left] hn p := by
  obtain ⟨e, he, hroot⟩ := Settings.hostsAreRoots_standard .engine
  have ho := isOrdinary_people (Settings.hostsAreRoots_standard.isEngine he)
  have hover := Session.isOver_fresh .standard
  have htakes := takes_person (show "a" ≠ "" by decide) none "Ann" age
    (show hashKey ∉ Repository.externalNames .null by decide)
  obtain ⟨left, hleft⟩ := save_person Settings.hostsAreRoots_standard hover rfl rfl none "Ann" age
  obtain ⟨id, hsaved⟩ := Session.saved_of_outcome Settings.hostsAreRoots_standard he hover
    ho.model ho.fields htakes hleft
  refine ⟨left, hleft, EntityModel.current_singleton hsaved.idOf, ?_, fun hn p => ?_⟩
  · rw [left_of_person hsaved, isLegible_person]
  · have hrun : (Session.fresh .standard).runCalls
        ([.save (person "a" none "Ann" age) .null].map (.repository people)) =
          ([.saved left none], ((Session.fresh .standard).call (.repository people
            (.save (person "a" none "Ann" age) .null))).2) := by
      rw [List.map_singleton, Session.runCalls_singleton, hleft]
    have hpages := (Repository.runsWell_singleton htakes).pages Settings.hostsAreRoots_standard he
      ho.model ho.fields hover rfl rfl (fun _ _ => rfl) hrun nofun hn [p]
    rw [List.map_singleton, Session.runCalls_singleton, List.map_singleton] at hpages
    exact (List.cons.inj hpages).1

end ContentDepot
