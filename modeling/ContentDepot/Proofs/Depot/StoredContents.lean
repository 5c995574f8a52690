import ContentDepot.Proofs.Depot.Contents
import ContentDepot.Proofs.Session.Steps

/-!
# What a store has of a history

Contents are stored and fetched, and a backend that fails now and then loses
nothing. Every content that was stored is in the store, under the hash that was
given for it, and the store has no other (`HasKept`): no step of a history takes
one out or puts another in its place (`HasKept.step`, `HasKept.run`). So the hash
that was given for a content is what leads to it, and to no other, as long as no
two contents share one (`isStoreOf_run`).
-/

namespace ContentDepot

open Exchange InMemory

/-- A content is stored or fetched, or a backend begins to fail, with no status of success, or
works again. -/
def Session.Step.IsContentStep : Session.Step → Prop
  | call (.storeFile _) | call (.fileByHash _) => True
  | call _ => False
  | switch _ status => IsOutside status

/-- The content that a step stored, with what was given for it. -/
def Session.Step.stored? : Session.Step → Outcome → Option (Bytes × Json)
  | call (.storeFile (some content)), .value hash => some (content, hash)
  | _, _ => none

/-- The contents that a history stored, each with what was given for it. -/
def Session.stored (σ : Session) (steps : List Session.Step) : List (Bytes × Json) :=
  (steps.zip (σ.runSteps steps).1).filterMap fun p => p.1.stored? p.2

/-- No two of the contents share a hash. -/
def TellsApart (stored : List (Bytes × Json)) : Prop :=
  ∀ p ∈ stored, ∀ q ∈ stored, Blobs.hashOf p.1 = Blobs.hashOf q.1 → p.1 = q.1

/-- The calls to come find the contents that were stored, each under what was given for it, and no
other. -/
structure Session.IsStoreOf (σ : Session) (stored : List (Bytes × Json)) : Prop where
  /-- Equal contents were given equal hashes, and different contents different ones. -/
  told : ∀ p ∈ stored, ∀ q ∈ stored, p.2 = q.2 ↔ p.1 = q.1
  /-- Each content is there once. -/
  count : σ.world.contents.blobs.length = (stored.map Prod.fst).toFinset.card
  /-- What is fetched was stored, whether the store works or not. -/
  faithful : ∀ hash content, (σ.call (.depot (.fileByHash (.str hash)))).1 = .content content →
    (content, .str hash) ∈ stored
  /-- A store that works gives the hash of a content for it. -/
  stores : σ.world.contents.failing = none → ∀ content,
    (σ.call (.depot (.storeFile (some content)))).1 = .value (.str (Blobs.hashOf content))
  /-- A store that works gives every content for what was given for it. -/
  fetched : σ.world.contents.failing = none → ∀ content hash, (content, .str hash) ∈ stored →
    (σ.call (.depot (.fileByHash (.str hash)))).1 = .content content
  /-- A store that works has nothing for any other text. -/
  unknown : σ.world.contents.failing = none → ∀ hash, hash ≠ "" →
    (∀ content, (content, .str hash) ∉ stored) → Blobs.Admits hash →
    (σ.call (.depot (.fileByHash (.str hash)))).1 = .failed (.error (.noContent (.str hash)))
  /-- A text that is too long for a URL is a failure of the backend. -/
  unasked : σ.world.contents.failing = none → ∀ hash, hash ≠ "" → ¬ Blobs.Admits hash →
    ∃ f, (σ.call (.depot (.fileByHash (.str hash)))).1 = .failed f ∧ f.IsBackend

theorem Session.stored_cons (σ : Session) (step : Session.Step) (steps : List Session.Step) :
    σ.stored (step :: steps) =
      (step.stored? (σ.step step).1).toList ++ (σ.step step).2.stored steps := by
  rw [stored, runSteps_cons, List.zip_cons_cons, List.filterMap_cons]
  cases step.stored? (σ.step step).1 <;> rfl

/-- The store has the contents that were stored, as if they were put one after the other. -/
structure HasKept (stored : List (Bytes × Json)) (st : Standing) : Prop where
  blobs : st.contents.blobs = Entries.ofList (stored.map fun p => (Blobs.hashOf p.1, p.1))
  named : ∀ p ∈ stored, p.2 = .str (Blobs.hashOf p.1)
  outside : IsOutside st.contents.failing

namespace HasKept

variable {s : Settings} {stored : List (Bytes × Json)} {st : Standing} {σ : Session}

theorem fresh : HasKept [] (Session.fresh s).standing :=
  ⟨rfl, (fun _ h => by cases h), (fun _ h => by cases h)⟩

theorem add (h : HasKept stored st) (content : Bytes) :
    HasKept (stored ++ [(content, .str (Blobs.hashOf content))])
      { st with contents := st.contents.add content } where
  blobs := by
    rw [List.map_append, List.map_singleton, Entries.ofList_concat, ← h.blobs]
    rfl
  named := by
    intro p hp
    rcases List.mem_append.1 hp with hp | hp
    · exact h.named p hp
    · rw [List.mem_singleton.1 hp]
  outside := h.outside

theorem switch (h : HasKept stored st) (b : Backend) {status : Option Int}
    (hout : IsOutside status) : HasKept stored (st.switch b status) := by
  cases b with
  | content => exact ⟨h.blobs, h.named, hout⟩
  | engine => exact ⟨h.blobs, h.named, h.outside⟩

/-- A step keeps what was stored, and stores what it gives a hash for. -/
theorem step {step : Session.Step} (hs : s.HostIsRoot .content) (hσ : σ.IsOver s)
    (h : HasKept stored σ.standing) (hstep : step.IsContentStep) :
    HasKept (stored ++ (step.stored? (σ.step step).1).toList) (σ.step step).2.standing := by
  cases step with
  | switch b status =>
    rw [Session.standing_switch]
    exact (List.append_nil stored).symm ▸ h.switch b hstep
  | call c =>
    unfold Session.step
    dsimp only
    rw [hσ.call_eq]
    cases c with
    | storeFile content =>
      have hstore : WP σ.standing ((Depot.remote s).storeFile content)
          (fun hash st => ∃ bytes, content = some bytes ∧ hash = .str (Blobs.hashOf bytes) ∧
            st = { σ.standing with contents := σ.standing.contents.add bytes })
          fun _ st => st = σ.standing :=
        .storeFile hs (fun _ => rfl) fun bytes hbytes _ => ⟨bytes, hbytes, rfl, rfl⟩
      rcases hstore.talk (g := .value) hσ.live with ⟨_, ho, bytes, rfl, rfl, hst⟩ | ⟨f, ho, hst⟩
      · rw [DepotCall.perform, ho, hst]
        exact h.add bytes
      · rw [DepotCall.perform, ho, hst]
        cases content <;> exact (List.append_nil stored).symm ▸ h
    | fileByHash hash =>
      have hfetch : WP σ.standing ((Depot.remote s).fileByHash hash) _ _ := .fileByHash hs hash
      rw [show ∀ o, Session.Step.stored? (.call (.fileByHash hash)) o = none from fun _ => rfl]
      rcases hfetch.talk (g := .content) hσ.live with ⟨_, -, hst⟩ | ⟨_, -, hst⟩ <;>
      · rw [DepotCall.perform, hst]
        exact (List.append_nil stored).symm ▸ h
    | _ => exact hstep.elim

theorem run {steps : List Session.Step} (hs : s.HostIsRoot .content) (hσ : σ.IsOver s)
    (h : HasKept stored σ.standing) (hsteps : ∀ step ∈ steps, step.IsContentStep) :
    HasKept (stored ++ σ.stored steps) (σ.runSteps steps).2.standing := by
  induction steps generalizing σ stored with
  | nil => exact (List.append_nil stored).symm ▸ h
  | cons step steps ih =>
    rw [Session.stored_cons, ← List.append_assoc]
    exact ih (hσ.step step) (h.step hs hσ (hsteps step (List.mem_cons_self ..)))
      fun step hm => hsteps step (List.mem_cons_of_mem _ hm)

/-! ## What the store holds -/

variable {hash : String} {content : Bytes}

theorem mem_of_get? (h : HasKept stored st)
    (hget : Entries.get? st.contents.blobs hash = some content) :
    (content, .str hash) ∈ stored := by
  rw [h.blobs] at hget
  obtain ⟨⟨bytes, v⟩, hp, heq⟩ := List.mem_map.1 (Entries.mem_ofList (Entries.mem_of_get? hget))
  obtain rfl : v = .str (Blobs.hashOf bytes) := h.named _ hp
  cases heq
  exact hp

/-- The keys of the store are the hashes of what was stored. -/
theorem keys_named (stored : List (Bytes × Json)) :
    Entries.keys (stored.map fun p => (Blobs.hashOf p.1, p.1)) =
      (stored.map Prod.fst).map Blobs.hashOf := by
  rw [Entries.keys, List.map_map, List.map_map]
  rfl

theorem get?_of_mem (h : HasKept stored st) (ha : TellsApart stored)
    (hm : (content, .str hash) ∈ stored) :
    Entries.get? st.contents.blobs hash = some content := by
  have hhash : hash = Blobs.hashOf content := Json.str.inj (h.named _ hm)
  have hkey : hash ∈ Entries.keys st.contents.blobs := by
    rw [h.blobs, Entries.mem_keys_ofList, keys_named, hhash]
    exact List.mem_map_of_mem (List.mem_map_of_mem hm)
  rcases hget : Entries.get? st.contents.blobs hash with _ | found
  · have hsome := Entries.get?_isSome st.contents.blobs hash
    rw [hget, List.contains_eq_mem, decide_eq_true hkey] at hsome
    cases hsome
  · -- What is found under the hash was stored with it, so it is the same content.
    have hfound := h.mem_of_get? hget
    have hhash' : hash = Blobs.hashOf found := Json.str.inj (h.named _ hfound)
    rw [show found = content from ha _ hfound _ hm (hhash'.symm.trans hhash)]

theorem length_blobs (h : HasKept stored st) (ha : TellsApart stored) :
    st.contents.blobs.length = (stored.map Prod.fst).toFinset.card := by
  have himage : ((stored.map Prod.fst).map Blobs.hashOf).toFinset =
      (stored.map Prod.fst).toFinset.image Blobs.hashOf := by
    ext hash
    rw [List.mem_toFinset, List.mem_map, Finset.mem_image]
    simp only [List.mem_toFinset]
  rw [h.blobs, Entries.length_ofList, keys_named, himage]
  refine Finset.card_image_of_injOn fun x hx y hy hxy => ?_
  obtain ⟨p, hp, rfl⟩ := List.mem_map.1 (List.mem_toFinset.1 hx)
  obtain ⟨q, hq, rfl⟩ := List.mem_map.1 (List.mem_toFinset.1 hy)
  exact ha p hp q hq hxy

theorem told (h : HasKept stored st) (ha : TellsApart stored) {p q : Bytes × Json}
    (hp : p ∈ stored) (hq : q ∈ stored) : p.2 = q.2 ↔ p.1 = q.1 := by
  rw [h.named p hp, h.named q hq, Json.str.injEq]
  exact ⟨ha p hp q hq, congrArg Blobs.hashOf⟩

/-! ## The calls to come -/

/-- A call for a content gives what the store has under the text, or tells why it does not. -/
theorem call_fileByHash (h : HasKept stored σ.standing) (hs : s.HostIsRoot .content)
    (hσ : σ.IsOver s) (h0 : hash ≠ "") :
    (∃ content, (σ.call (.depot (.fileByHash (.str hash)))).1 = .content content ∧
        σ.standing.contents.Gives hash content) ∨
      ∃ f, (σ.call (.depot (.fileByHash (.str hash)))).1 = .failed f ∧
        (σ.standing.contents.failing = none → σ.standing.contents.Misses hash f) := by
  rw [hσ.call_eq]
  rcases (WP.fileByHash_of_text hs h0 h.outside).talk (g := .content) hσ.live with
    ⟨content, ho, hgives, -⟩ | ⟨f, ho, hmisses, -⟩
  · exact .inl ⟨content, ho, hgives⟩
  · exact .inr ⟨f, ho, hmisses⟩

theorem mem_of_call (h : HasKept stored σ.standing) (hs : s.HostIsRoot .content)
    (hσ : σ.IsOver s)
    (hcall : (σ.call (.depot (.fileByHash (.str hash)))).1 = .content content) :
    (content, .str hash) ∈ stored := by
  by_cases h0 : hash = ""
  · have hblank : WP σ.standing ((Depot.remote s).fileByHash (.str hash)) (fun _ _ => False)
        fun _ _ => True := .require_bind trivial fun hb => by rw [h0] at hb; cases hb
    rw [hσ.call_eq, DepotCall.perform] at hcall
    rcases hblank.talk (g := .content) hσ.live with ⟨_, -, hno⟩ | ⟨f, ho, -⟩
    · exact hno.elim
    · rw [ho] at hcall
      cases hcall
  · rcases h.call_fileByHash hs hσ h0 with ⟨found, ho, hgives⟩ | ⟨f, ho, -⟩
    · rw [ho] at hcall
      cases hcall
      exact h.mem_of_get? hgives.held
    · rw [ho] at hcall
      cases hcall

theorem call_of_mem (h : HasKept stored σ.standing) (hs : s.HostIsRoot .content)
    (hσ : σ.IsOver s) (ha : TellsApart stored) (hf : σ.standing.contents.failing = none)
    (hm : (content, .str hash) ∈ stored) :
    (σ.call (.depot (.fileByHash (.str hash)))).1 = .content content := by
  have hget := h.get?_of_mem ha hm
  have hhash : hash = Blobs.hashOf content := Json.str.inj (h.named _ hm)
  rcases h.call_fileByHash hs hσ (hhash ▸ Blobs.hashOf_ne_empty content) with
    ⟨found, ho, hgives⟩ | ⟨f, -, hmisses⟩
  · rw [ho, Option.some.inj (hgives.held.symm.trans hget)]
  · have hadmits : Blobs.Admits hash := hhash ▸ Blobs.queryLength_hashOf content
    obtain ⟨hnone, -⟩ := (hmisses hf).absent hadmits
    rw [hget] at hnone
    cases hnone

theorem isStoreOf (h : HasKept stored σ.standing) (hs : s.HostIsRoot .content)
    (hσ : σ.IsOver s) (ha : TellsApart stored) : σ.IsStoreOf stored where
  told _ hp _ hq := h.told ha hp hq
  count := h.length_blobs ha
  faithful _ _ hcall := h.mem_of_call hs hσ hcall
  stores hf content := by
    have hstore : WP σ.standing ((Depot.remote s).storeFile (some content))
        (fun hash _ => hash = .str (Blobs.hashOf content)) fun _ _ => False :=
      .storeFile hs (fun hno => hno.elim (fun h => by cases h) fun hno => hno hf)
        fun bytes hbytes _ => by rw [Option.some.inj hbytes]
    rw [hσ.call_eq]
    rcases hstore.talk (g := .value) hσ.live with ⟨_, ho, rfl⟩ | ⟨_, -, hno⟩
    · exact ho
    · exact hno.elim
  fetched hf _ _ hm := h.call_of_mem hs hσ ha hf hm
  unknown hf hash h0 hnew hadmits := by
    rcases h.call_fileByHash hs hσ h0 with ⟨content, -, hgives⟩ | ⟨f, ho, hmisses⟩
    · exact absurd (h.mem_of_get? hgives.held) (hnew content)
    · rw [ho, ((hmisses hf).absent hadmits).2]
  unasked hf hash h0 hadmits := by
    rcases h.call_fileByHash hs hσ h0 with ⟨content, -, hgives⟩ | ⟨f, ho, hmisses⟩
    · exact absurd hgives.admitted hadmits
    · exact ⟨f, ho, (hmisses hf).unasked hadmits⟩

end HasKept

/-- After every history of storing and fetching, in which the store may fail and work again at any
point, the hash that was given for a content leads to it, and to no other. -/
theorem isStoreOf_run {s : Settings} (hs : s.HostIsRoot .content) {steps : List Session.Step}
    (hsteps : ∀ step ∈ steps, step.IsContentStep)
    (hapart : TellsApart ((Session.fresh s).stored steps)) :
    ((Session.fresh s).runSteps steps).2.IsStoreOf ((Session.fresh s).stored steps) :=
  (HasKept.fresh.run hs (Session.isOver_fresh s) hsteps).isStoreOf hs
    ((Session.isOver_fresh s).runSteps steps) hapart

/-- Two contents are stored, one of them twice, and the store fails meanwhile. -/
def interruptedStoring : List Session.Step :=
  [.call (.storeFile (some [104, 105])), .switch .content (some 500),
    .call (.storeFile (some [111, 107])), .call (.fileByHash (.str "Qm")),
    .switch .content none, .call (.storeFile (some [111, 107])),
    .call (.storeFile (some [104, 105]))]

theorem stored_interruptedStoring :
    (Session.fresh .standard).stored interruptedStoring =
      [([104, 105], .str (Blobs.hashOf [104, 105])), ([111, 107], .str (Blobs.hashOf [111, 107])),
        ([104, 105], .str (Blobs.hashOf [104, 105]))] := by
  decide +kernel

/-- Each of the two contents is found in the end by its hash, a text that is none is not, and there
are two contents. -/
theorem found_interruptedStoring :
    (∀ content ∈ ([[104, 105], [111, 107]] : List Bytes),
      (((Session.fresh .standard).runSteps interruptedStoring).2.call
        (.depot (.fileByHash (.str (Blobs.hashOf content))))).1 = .content content) ∧
    (((Session.fresh .standard).runSteps interruptedStoring).2.call
      (.depot (.fileByHash (.str "Qm")))).1 = .failed (.error (.noContent (.str "Qm"))) ∧
    ((Session.fresh .standard).runSteps interruptedStoring).2.world.contents.blobs.length = 2 := by
  have hsteps : ∀ step ∈ interruptedStoring, step.IsContentStep := by
    have hstatus : IsOutside (some 500) := fun code hc => by cases hc; decide
    have hworks : IsOutside none := fun code hc => by cases hc
    simp only [interruptedStoring, List.forall_mem_cons]
    exact ⟨trivial, hstatus, trivial, trivial, hworks, trivial, trivial, fun _ h => by cases h⟩
  have hapart : TellsApart ((Session.fresh .standard).stored interruptedStoring) := by
    rw [stored_interruptedStoring, TellsApart]
    decide +kernel
  have hhealthy : ((Session.fresh .standard).runSteps interruptedStoring).2.world.contents.failing =
      none := by decide +kernel
  have hstore := isStoreOf_run (Settings.hostsAreRoots_standard .content) hsteps hapart
  rw [stored_interruptedStoring] at hstore
  refine ⟨?_, ?_, ?_⟩
  · simp only [List.forall_mem_cons]
    exact ⟨hstore.fetched hhealthy _ _ (List.mem_cons_self ..),
      hstore.fetched hhealthy _ _ (List.mem_cons_of_mem _ (List.mem_cons_self ..)),
      fun _ h => by cases h⟩
  · refine hstore.unknown hhealthy "Qm" (by decide) (fun content hm => ?_)
      (by unfold Blobs.Admits; decide)
    have hnone : ∀ p ∈ [(([104, 105] : Bytes), Json.str (Blobs.hashOf [104, 105])),
        ([111, 107], .str (Blobs.hashOf [111, 107])),
        ([104, 105], .str (Blobs.hashOf [104, 105]))], p.2 ≠ .str "Qm" := by decide +kernel
    exact hnone _ hm rfl
  · rw [hstore.count]
    decide

/-- In the beginning nothing is stored; but a text that is too long to ask for it is a failure of
the backend, not an absence. -/
theorem not_absent_overlong :
    String.ofList (List.replicate 65533 'x') ≠ "" ∧
    (Session.fresh .standard).stored [] = [] ∧
    ((Session.fresh .standard).runSteps []).2.world.contents.failing = none ∧
    (((Session.fresh .standard).runSteps []).2.call
        (.depot (.fileByHash (.str (String.ofList (List.replicate 65533 'x')))))).1 ≠
      .failed (.error (.noContent (.str (String.ofList (List.replicate 65533 'x'))))) := by
  have hlist : (String.ofList (List.replicate 65533 'x')).toList.length = 65533 := by
    rw [String.toList_ofList, List.length_replicate]
  have h0 : String.ofList (List.replicate 65533 'x') ≠ "" := by
    intro h
    rw [h] at hlist
    cases hlist
  refine ⟨h0, rfl, rfl, ?_⟩
  obtain ⟨f, ho, e, rfl, hk⟩ := (HasKept.fresh.isStoreOf (Settings.hostsAreRoots_standard .content)
    (Session.isOver_fresh .standard) fun _ h => by cases h).unasked rfl _ h0
    (Blobs.not_admits (by rw [hlist]; decide))
  rw [show ((Session.fresh .standard).runSteps []).2 = Session.fresh .standard from rfl, ho]
  rintro ⟨⟩
  cases hk

end ContentDepot
