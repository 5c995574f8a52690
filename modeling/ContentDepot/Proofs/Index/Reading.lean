import ContentDepot.Proofs.Index.Searching
import ContentDepot.Proofs.InMemory.Answers

/-!
# What is read from the engine

Whatever is asked of the engine in memory, a response holds one document, or some
documents of one index as the hits of a search, or none at all (`response_cases`).
So the records that are read off a response are made of documents:

* `record_of_found`: the record of a look-up;
* `records_of_hits`: the records of a search.
-/

namespace ContentDepot

open Search InMemory

namespace InMemory

variable {ds ds' : List (String × Document)} {d : String × Document}

theorem mem_of_select {keywords : List String} {p : Predicate}
    (h : select keywords p ds = .ok ds') (hd : d ∈ ds') : d ∈ ds := by
  induction ds generalizing ds' with
  | nil =>
    cases h
    exact hd
  | cons x xs ih =>
    unfold select at h
    simp only [Bind.bind, Except.bind, Pure.pure, Except.pure] at h
    rcases hx : fulfils keywords x.2 p with f | b <;> rw [hx] at h
    · cases h
    rcases hs : select keywords p xs with f | rest <;> rw [hs] at h
    · cases b <;> cases h
    · cases b with
      | false =>
        cases h
        exact List.mem_cons_of_mem _ (ih hs hd)
      | true =>
        cases h
        rcases List.mem_cons.1 hd with rfl | hd
        · exact List.mem_cons_self ..
        · exact List.mem_cons_of_mem _ (ih hs hd)

theorem mem_of_pass {key : Key} (h : pass key ds = .ok ds') (hd : d ∈ ds') : d ∈ ds := by
  unfold pass at h
  dsimp only at h
  split at h
  · cases h
    rcases List.mem_append.1 hd with hd | hd
    · exact (List.mem_filter.1 ((List.mergeSort_perm _ _).mem_iff.1 hd)).1
    · exact (List.mem_filter.1 hd).1
  · cases h

theorem mem_of_sortBy {keys : List Key} (h : sortBy keys ds = .ok ds') (hd : d ∈ ds') :
    d ∈ ds := by
  induction keys generalizing ds' with
  | nil =>
    cases h
    exact hd
  | cons key keys ih =>
    rw [sortBy] at h
    simp only [Bind.bind, Except.bind] at h
    rcases hs : sortBy keys ds with f | sorted <;> rw [hs] at h
    · cases h
    · exact ih hs (mem_of_pass h hd)

namespace Engine

variable {e : Engine} {r : Request} {index id : String} {resp : Response}

theorem mem_of_matching {body : Json} (h : e.matching index body = .ok ds) (hd : d ∈ ds) :
    d ∈ e.documents index := by
  unfold matching at h
  split at h
  · cases h
  · simp only [Bind.bind, Except.bind] at h
    split at h
    · cases h
    · rename_i selected hs
      exact mem_of_select hs (mem_of_sortBy h hd)

/-- A body in which there is no document. -/
def IsBare (b : Body) : Prop :=
  b = .empty ∨ ∃ ms, b = .json (.obj ms) ∧ Entries.get? ms "hits" = none ∧
    ∀ v, Entries.get? ms "found" = some v → v.truthy = false

/-- What a response holds: no document, one document, or documents of one index. -/
def Shows (e : Engine) (b : Body) : Prop :=
  IsBare b ∨ (∃ index, ∃ d ∈ e.documents index, b = .json (found index d.1 d.2)) ∨
    ∃ index total page, (∀ d ∈ page, d ∈ e.documents index) ∧
      b = .json (hitsAnswer index total page)

theorem Shows.of_idle {e' : Engine} {b : Body} (h : e.Shows b) (hi : e.Idle e') : e'.Shows b := by
  obtain ⟨refreshes, rfl⟩ := hi
  exact h

theorem isBare_error (status : Int) (type : String) :
    IsBare (.json (.obj [("error", .obj [("type", .str type)]), ("status", .int status)])) :=
  .inr ⟨_, rfl, rfl, fun v h => by cases h⟩

theorem mem_documents {ds : Entries Document} (h : Entries.get? e.indices index = some ds)
    (hd : d ∈ ds) : d ∈ e.documents index := by
  rw [documents, h]
  exact hd

theorem shows_getDocument (h : e.getDocument index id = .response resp) : e.Shows resp.body := by
  unfold getDocument at h
  split at h
  · cases h
    exact .inl (isBare_error ..)
  · rename_i ds hds
    dsimp only at h
    split at h
    · cases h
      exact .inl (.inr ⟨_, rfl, rfl, fun v h => Option.some.inj h ▸ rfl⟩)
    · rename_i d hd
      cases h
      exact .inr (.inl ⟨index, (id, d), mem_documents hds (Entries.mem_of_get? hd), rfl⟩)

theorem shows_searchDocuments {body : Json} (h : e.searchDocuments index body = .response resp) :
    e.Shows resp.body := by
  unfold searchDocuments at h
  split at h
  · cases h
    exact .inl (isBare_error ..)
  · split at h
    · cases h
    · rename_i ds hds
      cases h
      exact .inr (.inr ⟨index, ds.length, _, fun d hd =>
        mem_of_matching hds (List.mem_of_mem_drop (List.mem_of_mem_take hd)), rfl⟩)

theorem shows_writeDocument {given : Option String}
    (h : (e.writeDocument r index given).1 = .response resp) : e.Shows resp.body := by
  unfold writeDocument at h
  split at h
  · cases given <;> cases h <;> exact .inl (.inr ⟨_, rfl, rfl, fun v h => by cases h⟩)
  · cases h

theorem shows_updateDocument (h : (e.updateDocument r index id).1 = .response resp) :
    e.Shows resp.body := by
  unfold updateDocument at h
  split at h
  · cases h
    exact .inl (isBare_error ..)
  · cases h
    exact .inl (.inr ⟨_, rfl, rfl, fun v h => by cases h⟩)
  · cases h

theorem shows_answerIndex (h : (e.answerIndex r index).1 = .response resp) :
    e.Shows resp.body := by
  unfold answerIndex at h
  split at h
  · cases h
    exact .inl (.inl rfl)
  · split at h
    · cases h
      exact .inl (isBare_error ..)
    · cases h
      exact .inl (.inr ⟨_, rfl, rfl, fun v h => by cases h⟩)
  · cases h

/-- Whatever is asked, a response holds no document or some that are there. -/
theorem shows_of_response (h : (e.answer r).1 = .response resp) : e.Shows resp.body := by
  have hbare : ∀ {ms : Entries Json}, Entries.get? ms "hits" = none →
      Entries.get? ms "found" = none → e.Shows (.json (.obj ms)) := fun hh hf =>
    .inl (.inr ⟨_, rfl, hh, fun v h => by rw [hf] at h; cases h⟩)
  unfold answer at h
  split at h
  · cases h
    exact hbare rfl rfl
  split at h
  · cases h
    exact hbare rfl rfl
  · exact shows_answerIndex h
  · unfold answerWithin at h
    split at h
    · cases h
      exact hbare rfl rfl
    split at h
    · split at h
      · exact shows_getDocument h
      · exact shows_writeDocument h
      · exact shows_writeDocument h
      · cases h
      · cases h
        exact hbare rfl rfl
    split at h
    · split at h
      · exact shows_updateDocument h
      · cases h
    split at h
    · exact shows_searchDocuments h
    · cases h
      exact hbare rfl rfl
  · cases h

end Engine

end InMemory

variable {e : Engine} {b : Body} {resp : Response} {v : Json} {m : Metadata}

/-- A record is made of a document that is there. -/
def Metadata.IsOf (m : Metadata) (e : Engine) : Prop :=
  ∃ index, ∃ d ∈ e.documents index, m = .ofDocument index d.1 d.2

/-- The record of a hit that is found is made of a document. -/
theorem isOf_of_found {found : Json} (hs : e.Shows resp.body) (hv : resp.json = .ok v)
    (hf : v.memberOrFault "found" = .ok (some found)) (ht : found.truthy = true)
    (hm : readHit v = .ok m) : m.IsOf e := by
  unfold Response.json at hv
  rcases hs with (hb | ⟨ms, hb, -, hnot⟩) | ⟨index, d, hd, hb⟩ | ⟨index, total, page, -, hb⟩ <;>
    rw [hb] at hv <;> cases hv
  · rw [hnot found (Except.ok.inj hf)] at ht
    cases ht
  · cases hm
    exact ⟨index, d, hd, rfl⟩
  · cases hf

/-- The records of hits are made of documents. -/
theorem isOf_of_hits {ms : List Metadata} (hs : e.Shows resp.body) (hv : resp.json = .ok v)
    (hm : hitsOf v = .ok ms) : ∀ m ∈ ms, m.IsOf e := by
  unfold Response.json at hv
  rcases hs with (hb | ⟨ms', hb, hno, -⟩) | ⟨index, d, hd, hb⟩ | ⟨index, total, page, hpage, hb⟩ <;>
    rw [hb] at hv <;> cases hv
  · have hnone : hitsOf (.obj ms') = .ok [] := by
      simp only [hitsOf, hitsMember, Json.memberOrFault, hno]
      rfl
    rw [hnone] at hm
    cases hm
    exact fun m h => by cases h
  · cases hm
    exact fun m h => by cases h
  · rw [Engine.hitsOf_hitsAnswer] at hm
    cases hm
    intro m hm
    obtain ⟨d, hd, rfl⟩ := List.mem_map.1 hm
    exact ⟨index, d, hpage d hd, rfl⟩

end ContentDepot
