import ContentDepot.Index.Metadata
import ContentDepot.Proofs.InMemory.Answers

/-!
# What single requests leave behind

The requests of a write, each with the engine that it leaves, whatever other requests
came before it:

* `answer_createIndex`, `answer_existing`: creating an index;
* `answer_store`: a whole document goes in the place of what is there;
* `answer_overlay`: an update goes over the document that is there.

Every request changes one document at most (`exists_touches_answer`), and none takes a
document away (`hasDocument_answer`).
-/

namespace ContentDepot.InMemory.Engine

open MetadataIndex

variable {e : Engine} {r : Request} {index id : String} {source : Document}

/-- The engine with an index that has no document yet, under the mapping of the reserved keys. -/
def withIndex (e : Engine) (index : String) : Engine :=
  { e with
    indices := Entries.put e.indices index []
    mappings := Entries.put e.mappings index
      ((reservedKeysMapping.member? "mappings").getD (.obj [])) }

/-- The engine after it has made an identifier. -/
def issue (e : Engine) : Engine := { e with issued := e.issued + 1 }

/-! ## Indices -/

theorem answer_createIndex (hf : e.failing = none) (hv : r.verb = .put)
    (hs : segments r.path = [index]) (hp : r.payload = .json reservedKeysMapping)
    (hno : Entries.has e.indices index = false) :
    e.answer r = (respond 200 (.obj [("acknowledged", .bool true), ("index", .str index)]),
      e.withIndex index) := by
  rw [answer_index hf hs, answerIndex, hv]
  dsimp only
  rw [if_neg (by rw [hno]; exact Bool.false_ne_true), payloadOf, hp]
  rfl

theorem answer_existing (hf : e.failing = none) (hv : r.verb = .put)
    (hs : segments r.path = [index]) (hx : Entries.has e.indices index = true) :
    e.answer r = (respondError 400 "resource_already_exists_exception", e) := by
  rw [answer_index hf hs, answerIndex, hv]
  dsimp only
  rw [if_pos hx]

/-- A new index has no document, and as many had one that was not there. -/
theorem documents_withIndex (hno : Entries.has e.indices index = false) (other : String) :
    (e.withIndex index).documents other = e.documents other := by
  simp only [withIndex, documents, Entries.get?_put]
  split
  · rename_i h
    subst h
    rw [Entries.has, Option.isSome_eq_false_iff, Option.isNone_iff_eq_none] at hno
    rw [hno]
    rfl
  · rfl

/-! ## Documents -/

/-- A whole document is put in the place of what is there, under the identifier that is given or
under a new one. -/
theorem answer_store {given : Option String} (hf : e.failing = none)
    (hv : r.verb = .put ∨ r.verb = .post) (hs : segments r.path = index :: "_doc" :: given.toList)
    (hp : r.payload = .json (.obj source)) :
    idOf? (e.answer r).1 = some (.str (e.idFor given)) ∧
      (e.answer r).2 =
        (if given.isSome then e else e.issue).putDocument index (e.idFor given) source := by
  have hpay : payloadOf r = .obj source := by rw [payloadOf, hp]
  have hans : e.answer r = e.writeDocument r index given := by
    rw [answer_within hf hs (by decide)]
    unfold answerWithin
    rw [if_neg (by decide), if_pos rfl]
    rcases hv with hv | hv <;> rw [hv] <;> cases given <;> rfl
  rw [hans]
  unfold writeDocument
  rw [hpay]
  cases given with
  | none =>
    refine ⟨?_, rfl⟩
    dsimp only
    split <;> rfl
  | some id =>
    refine ⟨?_, rfl⟩
    dsimp only
    split <;> rfl

/-- An update is put over the document that is there. -/
theorem answer_overlay {d : Document} (hf : e.failing = none)
    (hs : segments r.path = [index, "_update", id])
    (hp : r.payload = .json (.obj [("doc", .obj source)]))
    (hd : Entries.get? (e.documents index) id = some d) :
    idOf? (e.answer r).1 = some (.str id) ∧
      (e.answer r).2 = e.putDocument index id (Entries.putAll d source) := by
  have hpay : (payloadOf r).member? "doc" = some (.obj source) := by rw [payloadOf, hp]; rfl
  have hans : e.answer r = e.updateDocument r index id := by
    rw [answer_within hf hs (by decide)]
    unfold answerWithin
    rw [if_neg (by decide), if_neg (by decide), if_pos rfl]
  rw [hans]
  unfold updateDocument
  rw [hd, hpay]
  exact ⟨rfl, rfl⟩

/-- An update of a document that is not there is answered without an identifier. -/
theorem idOf?_overlay_of_none (hf : e.failing = none)
    (hs : segments r.path = [index, "_update", id])
    (hd : Entries.get? (e.documents index) id = none) : idOf? (e.answer r).1 = none := by
  rw [answer_within hf hs (by decide)]
  unfold answerWithin
  rw [if_neg (by decide), if_neg (by decide), if_pos rfl]
  show idOf? (e.updateDocument r index id).1 = none
  rw [updateDocument, hd]
  rfl

/-! ## One document at most -/

/-- No document has changed but the one under an identifier, if at all. -/
structure Touches (index id : String) (e e' : Engine) : Prop where
  documents : (∀ other, e'.documents other = e.documents other) ∨
    ∃ d, ∀ other, e'.documents other =
      if index = other then Entries.put (e.documents index) id d else e.documents other
  failing : e'.failing = e.failing

namespace Touches

variable {e' e'' : Engine}

theorem of_unwritten (h : Unwritten e e') : Touches index id e e' := ⟨.inl h.documents, h.failing⟩

theorem refl (e : Engine) : Touches index id e e := .of_unwritten (.refl e)

theorem put (e : Engine) (index id : String) (d : Document) :
    Touches index id e (e.putDocument index id d) :=
  ⟨.inr ⟨d, documents_putDocument e index id d⟩, rfl⟩

/-- A document that is put goes over what was there, and so over what was put there before. -/
theorem put_over (h : Touches index id e e') {d : Document}
    (hd : ∀ other, e''.documents other =
      if index = other then Entries.put (e'.documents index) id d else e'.documents other)
    (other : String) : e''.documents other =
      if index = other then Entries.put (e.documents index) id d else e.documents other := by
  rw [hd other]
  rcases h.documents with h | ⟨d', h⟩
  · rw [h, h]
  · by_cases hi : index = other
    · rw [if_pos hi, if_pos hi, h index, if_pos rfl, Entries.put_put_self]
    · rw [if_neg hi, if_neg hi, h other, if_neg hi]

theorem trans (h : Touches index id e e') (h' : Touches index id e' e'') :
    Touches index id e e'' := by
  refine ⟨?_, h'.failing.trans h.failing⟩
  rcases h'.documents with hsame | ⟨d, hd⟩
  · rcases h.documents with h | ⟨d, h⟩
    · exact .inl fun other => (hsame other).trans (h other)
    · exact .inr ⟨d, fun other => (hsame other).trans (h other)⟩
  · exact .inr ⟨d, h.put_over hd⟩

/-- Identifiers that occur once in each index still do. -/
theorem nodup (h : Touches index id e e') (hd : ∀ other, (Entries.keys (e.documents other)).Nodup)
    (other : String) : (Entries.keys (e'.documents other)).Nodup := by
  rcases h.documents with h | ⟨d, h⟩
  · rw [h]
    exact hd other
  · rw [h]
    split
    · exact Entries.nodup_put (hd index) id d
    · exact hd other

/-- No document is taken away. -/
theorem has (h : Touches index id e e') {other key : String}
    (hd : Entries.has (e.documents other) key = true) :
    Entries.has (e'.documents other) key = true := by
  rcases h.documents with h | ⟨d, h⟩
  · rw [h]
    exact hd
  · rw [h]
    split
    · rename_i hi
      exact has_put (hi ▸ hd)
    · exact hd

end Touches

theorem touches_writeDocument (given : Option String) :
    Touches index (e.idFor given) e (e.writeDocument r index given).2 := by
  unfold writeDocument
  split
  · cases given with
    | none =>
      exact ⟨.inr ⟨_, documents_putDocument e.issue index _ _⟩, rfl⟩
    | some id => exact .put ..
  · exact .refl e

theorem touches_updateDocument : Touches index id e (e.updateDocument r index id).2 := by
  unfold updateDocument
  split
  · exact .refl e
  · exact .put ..
  · exact .refl e

/-- A whole document is put under the identifier that the path names, or nothing happens. -/
theorem touches_store (hv : r.verb = .put ∨ r.verb = .post)
    (hs : segments r.path = [index, "_doc", id]) : Touches index id e (e.answer r).2 := by
  rcases hf : e.failing with _ | status
  · rw [answer_within hf hs (by decide)]
    unfold answerWithin
    rw [if_neg (by decide), if_pos rfl]
    rcases hv with hv | hv <;> rw [hv] <;> exact touches_writeDocument (some id)
  · rw [answer_of_failing hf]
    exact .refl e

/-- An update is put over the document under the identifier that the path names, or nothing
happens. -/
theorem touches_overlay (hs : segments r.path = [index, "_update", id]) :
    Touches index id e (e.answer r).2 := by
  rcases hf : e.failing with _ | status
  · rw [answer_within hf hs (by decide)]
    unfold answerWithin
    rw [if_neg (by decide), if_neg (by decide), if_pos rfl]
    exact touches_updateDocument
  · rw [answer_of_failing hf]
    exact .refl e

/-- Every request changes one document at most. -/
theorem exists_touches_answer (e : Engine) (r : Request) :
    ∃ index id, Touches index id e (e.answer r).2 := by
  have hsame : ∃ index id, Touches index id e e := ⟨"", "", .refl e⟩
  unfold answer
  split
  · exact hsame
  split
  · exact hsame
  · exact ⟨"", "", .of_unwritten (answerIndex_unwritten ..)⟩
  · unfold answerWithin
    split
    · exact ⟨"", "", .of_unwritten ⟨fun _ => rfl, rfl, rfl⟩⟩
    split
    · split
      · exact hsame
      · exact ⟨_, _, touches_writeDocument _⟩
      · exact ⟨_, _, touches_writeDocument _⟩
      · exact hsame
      · exact hsame
    split
    · split
      · exact ⟨_, _, touches_updateDocument⟩
      · exact hsame
    split <;> exact hsame
  · exact hsame

/-- Whether there is a document under an identifier. -/
def hasDocument (e : Engine) (index id : String) : Bool := Entries.has (e.documents index) id

/-- No request takes a document away. -/
theorem hasDocument_answer (h : e.hasDocument index id = true) (r : Request) :
    (e.answer r).2.hasDocument index id = true := by
  obtain ⟨_, _, htouches⟩ := exists_touches_answer e r
  exact htouches.has h

end ContentDepot.InMemory.Engine
