import ContentDepot.Proofs.Depot.Histories

/-!
# No dangling documents

A content is stored before it is indexed, so that a document can only name a
content that is there: a call that fails between the two leaves a content without
a document, never a document without a content. Contents stay, whatever comes
later, so every record that was ever given leads to its content
(`no_dangling_documents`).
-/

namespace ContentDepot

open InMemory Search

/-- The store holds a content with the hash. -/
def Stored (b : Blobs) (hash : String) : Prop :=
  ∃ content, Entries.get? b.blobs hash = some content ∧ Blobs.hashOf content = hash

/-- A content replaces at most one with the same hash. -/
theorem grows_stored : Grows Stored where
  kept b content hash h := by
    by_cases heq : Blobs.hashOf content = hash
    · exact ⟨content, heq ▸ Entries.get?_put_self .., heq⟩
    · obtain ⟨old, hold, hhash⟩ := h
      exact ⟨old, (Entries.get?_put ..).trans ((if_neg heq).trans hold), hhash⟩
  added b content := ⟨content, Entries.get?_put_self .., rfl⟩
  switched _ _ _ h := h

/-- Steps that index nothing but what they store, in indices without a slash in their names. -/
def Session.Step.StoresFirst (step : Session.Step) : Prop :=
  step.IsProper ∧ ∀ request, step ≠ .call (.indexFile request)

theorem Session.Step.StoresFirst.indexed? {step : Session.Step} (h : step.StoresFirst) :
    step.indexed? = none := by
  cases step with
  | switch b status => rfl
  | call c =>
    cases c with
    | indexFile request => exact absurd rfl (h.2 request)
    | _ => rfl

/-- After every history each document of each index has a hash under which the content store holds
a content with that hash; and whatever records a call of the history gave, their contents can be
fetched after it by their hashes, once the content store is healthy. -/
theorem no_dangling_documents {s : Settings} (hs : s.HostsAreRoots) {steps : List Session.Step}
    (hsteps : ∀ step ∈ steps, step.StoresFirst) :
    (∀ index, ∀ d ∈ ((Session.fresh s).runSteps steps).2.world.engine.documents index,
      ∃ hash content, Entries.get? d.2 hashKey = some (.str hash) ∧
        Entries.get? ((Session.fresh s).runSteps steps).2.world.contents.blobs hash = some content ∧
        Blobs.hashOf content = hash) ∧
    ∀ before c after, steps = before ++ .call c :: after →
      ((Session.fresh s).runSteps steps).2.world.contents.failing = none →
      ∀ m ∈ (((Session.fresh s).runSteps before).2.call (.depot c)).1.shown,
        ∃ hash content, m.hash = some hash ∧ Blobs.hashOf content = hash ∧
          (((Session.fresh s).runSteps steps).2.call (.depot (.fileByHash (.str hash)))).1 =
            .content content := by
  obtain ⟨e, he, -⟩ := hs .engine
  have hover : (Session.fresh s).IsOver s := Session.isOver_fresh s
  -- Nothing is promised in the beginning, since no call indexes a hash of its own.
  have hfresh : InOrder e Stored (fun _ => False) (Session.fresh s).standing :=
    .fresh fun _ => False.elim
  have hproper : ∀ step ∈ steps, step.IsProper := fun step hm => (hsteps step hm).1
  have hindexed : ∀ step ∈ steps, ∀ hash, step.indexed? = some hash → False := by
    intro step hm hash hh
    rw [(hsteps step hm).indexed?] at hh
    cases hh
  constructor
  · intro index d hd
    obtain ⟨hash, hget, content, hcontent, hhash⟩ :=
      (hfresh.run hs he grows_stored hover hproper hindexed).hashed.hashes index d hd
    exact ⟨hash, content, hget, hcontent, hhash⟩
  · rintro before c after rfl hhealthy m hm
    have hbefore : InOrder e Stored (fun _ => False)
        ((Session.fresh s).runSteps before).2.standing :=
      hfresh.run hs he grows_stored hover (fun step h => hproper step (List.mem_append_left _ h))
        fun step h => hindexed step (List.mem_append_left _ h)
    obtain ⟨hash, hhash, content, hget, rfl⟩ := hbefore.shown hs he grows_stored
      (hover.runSteps before) (fun step h => hproper step (List.mem_append_right _ h))
      (fun step h => hindexed step (List.mem_append_right _ h)) hm
    rw [Session.runSteps_append] at hhealthy ⊢
    refine ⟨_, content, hhash, rfl, ?_⟩
    have hafter := (hover.runSteps before).runSteps (.call c :: after)
    rw [hafter.call_eq]
    rcases (WP.fileByHash_of_get? hs hhealthy hget).talk (g := .content) hafter.live with
      ⟨bytes, ho, rfl, -⟩ | ⟨f, -, hno⟩
    · exact ho
    · exact hno.elim

/-- A content for a document, which is indexed while the engine fails, and once more when it
works. -/
def secondAttempt : List Session.Step :=
  let write := Session.Step.call (.storeAndIndexFile (some [104, 105])
    (some ⟨some "a", "Docs", none, none, [], none⟩))
  [.switch .engine (some 404), write, .switch .engine none, write]

theorem storesFirst_secondAttempt : ∀ step ∈ secondAttempt, step.StoresFirst := by
  have hwrite : ∀ content r, r.index = "Docs" → r.allFields = [] →
      Session.Step.StoresFirst (.call (.storeAndIndexFile content (some r))) := by
    refine fun content r hi hf => ⟨⟨(fun _ h => by cases h), fun _ h => ?_, fun _ h => ?_⟩,
      (fun _ h => by cases h)⟩
    · cases h
      rw [hi]
      decide
    · cases h
      rw [hf]
      exact fun _ h => by cases h
  have hswitch : ∀ status, status ∈ [some 404, none] →
      Session.Step.StoresFirst (.switch .engine status) := by
    refine fun status hs => ⟨fun code hc => ?_, fun _ h => by cases h⟩
    subst hc
    obtain rfl : code = 404 := by simpa using hs
    decide
  simp only [secondAttempt, List.forall_mem_cons]
  exact ⟨hswitch _ (by decide), hwrite _ _ rfl rfl, hswitch _ (by decide), hwrite _ _ rfl rfl,
    fun _ h => by cases h⟩

/-- The record that is found in the end leads to the content. -/
theorem content_of_secondAttempt :
    ∃ m hash content,
      (((Session.fresh .standard).runSteps secondAttempt).2.call
        (.depot (.metadataById (.str "docs") (.str "a")))).1.shown = [m] ∧
      m.hash = some hash ∧ Blobs.hashOf content = hash ∧
      (((Session.fresh .standard).runSteps
          (secondAttempt ++ [.call (.metadataById (.str "docs") (.str "a"))])).2.call
        (.depot (.fileByHash (.str hash)))).1 = .content content := by
  have hsteps : ∀ step ∈ secondAttempt ++ [.call (.metadataById (.str "docs") (.str "a"))],
      Session.Step.StoresFirst step := by
    intro step hm
    rcases List.mem_append.1 hm with hm | hm
    · exact storesFirst_secondAttempt step hm
    · rw [List.mem_singleton.1 hm]
      refine ⟨⟨(fun _ h => by cases h), (fun _ h => by cases h), (fun _ h => by cases h)⟩,
        (fun _ h => by cases h)⟩
  have hlength : (((Session.fresh .standard).runSteps secondAttempt).2.call
      (.depot (.metadataById (.str "docs") (.str "a")))).1.shown.length = 1 := by decide +kernel
  obtain ⟨m, hm⟩ := List.length_eq_one_iff.1 hlength
  obtain ⟨hash, content, hhash, hcontent, hfetched⟩ :=
    (no_dangling_documents Settings.hostsAreRoots_standard hsteps).2 secondAttempt _ [] rfl
      (by decide +kernel) m (hm ▸ List.mem_cons_self ..)
  exact ⟨m, hash, content, hm, hhash, hcontent, hfetched⟩

/-- Under a name that leads to a document, creating an index writes its mapping there, and the
document has no hash. -/
theorem unhashed_document_of_slashed_name :
    ∃ d ∈ ((Session.fresh .standard).runSteps
        [.call (.createIndex (.str "docs/_doc/x"))]).2.world.engine.documents "docs",
      Entries.get? d.2 hashKey = none := by
  have hdocuments : ((Session.fresh .standard).runSteps
      [.call (.createIndex (.str "docs/_doc/x"))]).2.world.engine.documents "docs" =
        [("x", [("mappings", .obj [("properties", .obj [(hashKey, .obj [("type", .str "keyword")]),
          (contentTypeKey, .obj [("type", .str "keyword")])])])])] := by decide +kernel
  rw [hdocuments]
  exact ⟨_, List.mem_singleton_self _, by decide⟩

end ContentDepot
