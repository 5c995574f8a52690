import ContentDepot.Exchange.Connection
import ContentDepot.InMemory.Engine

/-!
# What the engine in memory keeps

Of the state of an engine only the documents of each index are seen from outside
(`Engine.documents`); an index without documents looks like one that is not there.

* `Unwritten`: a step that leaves all documents as they are.
* `answer_unwritten`: requests to read leave them so, whatever their path.
* `segments_of_written`: an answer with an identifier comes from a write of a
  document, and then the same path refuses a request without a payload.
-/

namespace ContentDepot.InMemory.Engine

variable {e e' e'' : Engine} {r : Request} {index action id : String} {rest : List String}

/-- The documents are as before, and so is what decides where the next one goes. -/
structure Unwritten (e e' : Engine) : Prop where
  documents : ∀ index, e'.documents index = e.documents index
  failing : e'.failing = e.failing
  issued : e'.issued = e.issued

theorem Unwritten.refl (e : Engine) : Unwritten e e := ⟨fun _ => rfl, rfl, rfl⟩

theorem Unwritten.trans (h : Unwritten e e') (h' : Unwritten e' e'') : Unwritten e e'' :=
  ⟨fun index => (h'.documents index).trans (h.documents index), h'.failing.trans h.failing,
    h'.issued.trans h.issued⟩

/-! ## Documents -/

theorem documents_putDocument (e : Engine) (index id : String) (d : Document) (other : String) :
    (e.putDocument index id d).documents other =
      if index = other then Entries.put (e.documents index) id d else e.documents other := by
  simp only [putDocument, documents, Entries.get?_put]
  split <;> rfl

/-! ## Steps that write no document -/

theorem answerIndex_unwritten (e : Engine) (r : Request) (index : String) :
    Unwritten e (e.answerIndex r index).2 := by
  unfold answerIndex
  split
  · exact .refl e
  · split
    · exact .refl e
    · rename_i hno
      refine ⟨fun other => ?_, rfl, rfl⟩
      simp only [documents, Entries.get?_put]
      split
      · rename_i h
        subst h
        simp only [Entries.has, Bool.not_eq_true, Option.isSome_eq_false_iff,
          Option.isNone_iff_eq_none] at hno
        rw [hno]; rfl
      · rfl
  · exact .refl e

theorem updateDocument_unwritten (h : (payloadOf r).member? "doc" = none) :
    (e.updateDocument r index id).2 = e := by
  unfold updateDocument
  split
  · rfl
  · rename_i h'
    rw [h] at h'
    cases h'
  · rfl

/-- Without a payload and unless a document is to be created, no action writes. -/
theorem answerWithin_unwritten (hp : r.payload = .empty) (hv : r.verb = .get ∨ r.verb = .head) :
    Unwritten e (e.answerWithin r index action rest).2 := by
  have hd : (payloadOf r).member? "doc" = none := by rw [payloadOf, hp]; rfl
  unfold answerWithin
  split
  · exact ⟨fun _ => rfl, rfl, rfl⟩
  split
  · rcases hv with hv | hv <;> rw [hv] <;> cases rest <;> exact .refl e
  split
  · cases rest with
    | nil => exact .refl e
    | cons id ids =>
      show Unwritten e (e.updateDocument r index id).2
      rw [updateDocument_unwritten hd]
      exact .refl e
  split <;> exact .refl e

/-- A request to read leaves all documents as they are. -/
theorem answer_unwritten (hp : r.payload = .empty) (hv : r.verb = .get ∨ r.verb = .head) :
    Unwritten e (e.answer r).2 := by
  unfold answer
  split
  · exact .refl e
  split
  · exact .refl e
  · exact answerIndex_unwritten e r _
  · exact answerWithin_unwritten hp hv
  · exact .refl e

/-! ## Answers by the segments of the path -/

theorem answer_index (hf : e.failing = none) (hs : segments r.path = [index]) :
    e.answer r = e.answerIndex r index := by
  simp only [answer, hf, hs]

/-- A request that leads to an index as a whole leaves all documents as they are. -/
theorem answer_unwritten_of_index (hs : segments r.path = [index]) :
    Unwritten e (e.answer r).2 := by
  rcases hf : e.failing with _ | status
  · rw [answer_index hf hs]
    exact answerIndex_unwritten e r index
  · rw [answer, hf]
    exact .refl e

theorem answer_within (hf : e.failing = none) (hs : segments r.path = index :: action :: rest)
    (ha : action ≠ "health") : e.answer r = e.answerWithin r index action rest := by
  simp only [answer, hf, hs]
  split
  · rename_i h
    simp only [List.cons.injEq] at h
    exact absurd h.2.1 ha
  · rename_i h; simp at h
  · rename_i h
    simp only [List.cons.injEq] at h
    obtain ⟨rfl, rfl, rfl⟩ := h
    rfl
  · rename_i h; simp at h

/-- A search leaves all documents as they are. -/
theorem answer_unwritten_of_search (hs : segments r.path = [index, "_search"]) :
    Unwritten e (e.answer r).2 := by
  rcases hf : e.failing with _ | status
  · rw [answer_within hf hs (by decide)]
    unfold answerWithin
    rw [if_neg (by decide), if_neg (by decide), if_neg (by decide), if_pos rfl]
    exact .refl e
  · rw [answer, hf]
    exact .refl e

/-! ## Documents that are asked for -/

theorem answer_get (hf : e.failing = none) (hv : r.verb = .get)
    (hs : segments r.path = [index, "_doc", id]) : e.answer r = (e.getDocument index id, e) := by
  rw [answer_within hf hs (by decide)]
  unfold answerWithin
  rw [if_neg (by decide), if_pos rfl, hv]

/-- Without an identifier no document can be asked for. -/
theorem answer_get_bare (hf : e.failing = none) (hv : r.verb = .get)
    (hs : segments r.path = [index] ∨ segments r.path = [index, "_doc"]) :
    (e.answer r).1 = .fault .noSuchItem := by
  rcases hs with hs | hs
  · rw [answer_index hf hs, answerIndex, hv]
  · rw [answer_within hf hs (by decide)]
    unfold answerWithin
    rw [if_neg (by decide), if_pos rfl, hv]

/-- The answer with a document. -/
def found (index id : String) (d : Document) : Json :=
  .obj [("_index", .str index), ("_id", .str id), ("found", .bool true), ("_source", .obj d)]

theorem getDocument_of_some {d : Document} (h : Entries.get? (e.documents index) id = some d) :
    e.getDocument index id = respond 200 (found index id d) := by
  unfold getDocument
  unfold documents at h
  rcases hi : Entries.get? e.indices index with _ | ds
  · rw [hi] at h; cases h
  · rw [hi] at h
    simp only [Option.getD_some] at h
    simp only [h]
    rfl

theorem getDocument_of_none (h : Entries.get? (e.documents index) id = none) :
    ∃ body, e.getDocument index id = respond 404 body := by
  unfold getDocument
  unfold documents at h
  rcases hi : Entries.get? e.indices index with _ | ds
  · exact ⟨_, rfl⟩
  · rw [hi] at h
    simp only [Option.getD_some] at h
    simp only [h]
    exact ⟨_, rfl⟩

/-! ## Writes of documents -/

/-- The identifier of a document that is written: the one that is given, or the next of the
engine's own. -/
def idFor (e : Engine) (given : Option String) : String :=
  given.getD ("auto" ++ toString (e.issued + 1))

/-- The document that a write leaves: one that is there is kept under the new fields. -/
def writtenTo (e : Engine) (index : String) (given : Option String) (source : Document) :
    Document :=
  match given.bind (Entries.get? (e.documents index)) with
  | some d => Entries.putAll d source
  | none => source

/-- A write changes one document of one index. -/
structure Wrote (e : Engine) (index : String) (given : Option String) (source : Document)
    (e' : Engine) : Prop where
  documents : ∀ other, e'.documents other = if index = other then
    Entries.put (e.documents index) (e.idFor given) (e.writtenTo index given source)
    else e.documents other
  issued : e'.issued = if given.isSome then e.issued else e.issued + 1
  failing : e'.failing = none

theorem Wrote.of_unwritten {given : Option String} {source : Document} {e₁ e₂ : Engine}
    (h : Unwritten e e₁) (hw : Wrote e₁ index given source e₂) (h' : Unwritten e₂ e') :
    Wrote e index given source e' := by
  have hid : e₁.idFor given = e.idFor given := by rw [idFor, idFor, h.issued]
  have hto : e₁.writtenTo index given source = e.writtenTo index given source := by
    rw [writtenTo, writtenTo, h.documents]
  refine ⟨fun other => ?_, ?_, h'.failing.trans hw.failing⟩
  · rw [h'.documents, hw.documents, h.documents, h.documents, hid, hto]
  · rw [h'.issued, hw.issued, h.issued]

/-- The identifier that a reply names. -/
def idOf? : Reply → Option Json
  | .response resp => match resp.json with
    | .ok v => v.member? "_id"
    | .error _ => none
  | _ => none

theorem idOf?_of_itemAt {resp : Response} {v x : Json} (hr : resp.json = .ok v)
    (hx : v.itemAt "_id" = .ok x) : idOf? (.response resp) = some x := by
  simp only [idOf?, hr]
  unfold Json.itemAt at hx
  split at hx
  · split at hx
    · rename_i h
      cases hx
      exact h
    · cases hx
  · cases hx

theorem failing_writeDocument (e : Engine) (r : Request) (index : String) (id : Option String) :
    (e.writeDocument r index id).2.failing = e.failing := by
  unfold writeDocument
  split
  · cases id <;> rfl
  · rfl

theorem failing_answer (e : Engine) (r : Request) : (e.answer r).2.failing = e.failing := by
  unfold answer
  split
  · rfl
  split
  · rfl
  · unfold answerIndex
    split
    · rfl
    · split <;> rfl
    · rfl
  · unfold answerWithin
    split
    · rfl
    split
    · split
      · rfl
      · exact failing_writeDocument e r _ _
      · exact failing_writeDocument e r _ _
      · rfl
      · rfl
    split
    · split
      · unfold updateDocument
        split <;> rfl
      · rfl
    split <;> rfl
  · rfl

/-- A document is created under the identifier that is given, or under a new one. -/
theorem answer_create {given : Option String} {source : Document} (hf : e.failing = none)
    (hv : r.verb = .put ∨ r.verb = .post) (hs : segments r.path = index :: "_doc" :: given.toList)
    (hp : r.payload = .json (.obj source))
    (hno : given.bind (Entries.get? (e.documents index)) = none) :
    idOf? (e.answer r).1 = some (.str (e.idFor given)) ∧
      Wrote e index given source (e.answer r).2 := by
  have hpay : payloadOf r = .obj source := by rw [payloadOf, hp]
  have hans : e.answer r = e.writeDocument r index given := by
    rw [answer_within hf hs (by decide)]
    unfold answerWithin
    rw [if_neg (by decide), if_pos rfl]
    rcases hv with hv | hv <;> rw [hv] <;> cases given <;> rfl
  have hto : e.writtenTo index given source = source := by rw [writtenTo, hno]
  rw [hans]
  unfold writeDocument
  rw [hpay]
  cases given with
  | none =>
    refine ⟨?_, fun other => ?_, rfl, hf⟩
    · dsimp only
      split <;> rfl
    · rw [hto]
      exact documents_putDocument { e with issued := e.issued + 1 } index _ source other
  | some id =>
    refine ⟨?_, fun other => ?_, rfl, hf⟩
    · dsimp only
      split <;> rfl
    · rw [hto]
      exact documents_putDocument e index id source other

/-- A document that is there is kept under the new fields. -/
theorem answer_update {source d : Document} (hf : e.failing = none)
    (hs : segments r.path = [index, "_update", id])
    (hp : r.payload = .json (.obj [("doc", .obj source)]))
    (hd : Entries.get? (e.documents index) id = some d) :
    idOf? (e.answer r).1 = some (.str id) ∧ Wrote e index (some id) source (e.answer r).2 := by
  have hpay : (payloadOf r).member? "doc" = some (.obj source) := by rw [payloadOf, hp]; rfl
  have hans : e.answer r = e.updateDocument r index id := by
    rw [answer_within hf hs (by decide)]
    unfold answerWithin
    rw [if_neg (by decide), if_neg (by decide), if_pos rfl]
  have hto : e.writtenTo index (some id) source = Entries.putAll d source := by
    rw [writtenTo, Option.bind_some, hd]
  rw [hans]
  unfold updateDocument
  rw [hd, hpay]
  refine ⟨rfl, fun other => ?_, rfl, hf⟩
  rw [hto]
  exact documents_putDocument e index id _ other

theorem answer_refresh (hf : e.failing = none) (hs : segments r.path = [index, "_refresh"]) :
    Unwritten e (e.answer r).2 := by
  rw [answer_within hf hs (by decide)]
  unfold answerWithin
  rw [if_pos rfl]
  exact ⟨fun _ => rfl, rfl, rfl⟩

/-- A reply with an identifier comes from a write of a document. -/
theorem segments_of_written (hv : r.verb = .put ∨ r.verb = .post)
    (hid : (idOf? (e.answer r).1).isSome) :
    e.failing = none ∧ ∃ index action rest, segments r.path = index :: action :: rest ∧
      (action = "_doc" ∨ action = "_update") := by
  unfold answer at hid
  split at hid
  · cases hid
  · rename_i hf
    refine ⟨hf, ?_⟩
    split at hid
    · cases hid
    · unfold answerIndex at hid
      rcases hv with hv | hv <;> rw [hv] at hid
      · dsimp only at hid
        split at hid <;> cases hid
      · cases hid
    · rename_i index action rest _ hs
      refine ⟨index, action, rest, hs, ?_⟩
      unfold answerWithin at hid
      split at hid
      · cases hid
      split at hid
      · rename_i h
        exact .inl h
      split at hid
      · rename_i h
        exact .inr h
      split at hid
      · unfold searchDocuments at hid
        split at hid
        · cases hid
        · split at hid <;> cases hid
      · cases hid
    · cases hid

/-- Where documents are written, a request without a payload is refused. -/
theorem not_success_of_empty (hp : r.payload = .empty) (hv : r.verb = .post)
    (hs : segments r.path = index :: action :: rest) (ha : action = "_doc" ∨ action = "_update")
    (hf : e.failing = none) {resp : Response} (h : (e.answer r).1 = .response resp) :
    resp.isSuccess = false := by
  have hpay : payloadOf r = .null := by rw [payloadOf, hp]
  have hh : action ≠ "health" := by rcases ha with rfl | rfl <;> decide
  rw [answer_within hf hs hh] at h
  unfold answerWithin at h
  rcases ha with rfl | rfl
  · rw [if_neg (by decide), if_pos rfl, hv] at h
    simp [writeDocument, hpay] at h
  · rw [if_neg (by decide), if_neg (by decide), if_pos rfl] at h
    cases rest with
    | nil => cases h
    | cons id ids =>
      simp only [updateDocument, hpay] at h
      split at h
      · cases h; rfl
      · rename_i h'; cases h'
      · cases h

end ContentDepot.InMemory.Engine
