import ContentDepot.InMemory.Blobs
import ContentDepot.Proofs.InMemory.Engine
import ContentDepot.Index.Metadata
import ContentDepot.Proofs.Entries
import ContentDepot.Proofs.Session.Live

/-!
# What an answer leaves behind

An answer of the engine in memory that is no response leaves it as it is, and so
does every answer while it fails. A request to read leaves at most a mark that an
index was refreshed (`Idle`), and what is read comes from the documents.

* `answer_of_error`, `answer_of_failing`: answers that change nothing;
* `idle_of_read`: requests to read;
* `mem_documents_of_found`, `mem_documents_of_hits`: what is read is a document;
* `Hashed`: every document has a hash, and every index matches it as a whole;
* `hashed_create`, `hashed_write`: the two requests that change this.
-/

namespace ContentDepot.InMemory

open Search

/-- The statuses with which a backend fails are none of success. -/
def IsOutside (failing : Option Int) : Prop :=
  ∀ status, failing = some status → ¬ (200 ≤ status ∧ status ≤ 299)

namespace Engine

variable {e e' e'' : Engine} {r : Request} {index id : String} {rest : List String}

/-! ## Answers that change nothing -/

/-- An answer that is no response leaves the engine as it is. -/
theorem answer_of_error {t : Trouble} (h : (e.answer r).1.result = .error t) :
    (e.answer r).2 = e := by
  revert h
  unfold answer
  split
  · exact fun _ => rfl
  split
  · exact fun _ => rfl
  · unfold answerIndex
    split
    · exact fun _ => rfl
    · split
      · exact fun _ => rfl
      · intro h
        cases h
    · exact fun _ => rfl
  · unfold answerWithin
    split
    · intro h
      cases h
    split
    · have hwrite : ∀ index id, (e.writeDocument r index id).1.result = .error t →
          (e.writeDocument r index id).2 = e := by
        intro index id
        unfold writeDocument
        split
        · intro h
          cases h
        · exact fun _ => rfl
      split
      · exact fun _ => rfl
      · exact hwrite _ _
      · exact hwrite _ _
      · exact fun _ => rfl
      · exact fun _ => rfl
    split
    · split
      · unfold updateDocument
        split
        · exact fun _ => rfl
        · intro h
          cases h
        · exact fun _ => rfl
      · exact fun _ => rfl
    split <;> exact fun _ => rfl
  · exact fun _ => rfl

/-- What an engine that fails answers to every request. -/
def failure (status : Int) : Response :=
  ⟨status, .json (.obj [("error", .obj [("type", .str "emulated_exception")]),
    ("status", .int status)])⟩

theorem isSuccess_failure {status : Int} (h : ¬ (200 ≤ status ∧ status ≤ 299)) :
    (failure status).isSuccess = false := by
  rw [Response.isSuccess, Bool.and_eq_false_iff, decide_eq_false_iff_not, decide_eq_false_iff_not]
  simp only [failure]
  omega

theorem answer_of_failing {status : Int} (h : e.failing = some status) (r : Request) :
    e.answer r = (.response (failure status), e) := by
  rw [answer, h]
  rfl

/-! ## Success -/

/-- An answer to a write that names an identifier is one of success. -/
theorem success_of_written {x : Json} (hv : r.verb = .put ∨ r.verb = .post)
    (hid : idOf? (e.answer r).1 = some x) :
    ∃ resp v, (e.answer r).1 = .response resp ∧ resp.isSuccess = true ∧ resp.json = .ok v ∧
      v.itemAt "_id" = .ok x := by
  have hwritten : ∀ {status : Int} {ms : Entries Json}, (status = 200 ∨ status = 201) →
      idOf? (respond status (.obj ms)) = some x → ∃ resp v, respond status (.obj ms) =
        .response resp ∧ resp.isSuccess = true ∧ resp.json = .ok v ∧ v.itemAt "_id" = .ok x := by
    intro status ms hstatus hx
    have hget : Entries.get? ms "_id" = some x := hx
    refine ⟨_, .obj ms, rfl, ?_, rfl, ?_⟩
    · rcases hstatus with rfl | rfl <;> rfl
    · simp only [Json.itemAt, hget]
  obtain ⟨hf, index, action, rest, hs, haction⟩ := segments_of_written hv (by rw [hid]; rfl)
  have hh : action ≠ "health" := by rcases haction with rfl | rfl <;> decide
  rw [answer_within hf hs hh] at hid ⊢
  unfold answerWithin at hid ⊢
  rcases haction with rfl | rfl
  · have hdoc : ∀ given, idOf? (e.writeDocument r index given).1 = some x →
        ∃ resp v, (e.writeDocument r index given).1 = .response resp ∧ resp.isSuccess = true ∧
          resp.json = .ok v ∧ v.itemAt "_id" = .ok x := by
      intro given hx
      unfold writeDocument at hx ⊢
      split at hx
      · exact hwritten (ite_eq_or_eq ..) hx
      · cases hx
    rw [if_neg (by decide), if_pos rfl] at hid ⊢
    rcases hv with hv | hv <;> rw [hv] at hid ⊢ <;> exact hdoc _ hid
  · rw [if_neg (by decide), if_neg (by decide), if_pos rfl] at hid ⊢
    cases rest with
    | nil => cases hid
    | cons id ids =>
      dsimp only at hid ⊢
      unfold updateDocument at hid ⊢
      split at hid
      · cases hid
      · exact hwritten (.inl rfl) hid
      · cases hid

/-! ## Reading -/

/-- At most it is known of more indices that they were refreshed. -/
def Idle (e e' : Engine) : Prop := ∃ refreshes, e' = { e with refreshes := refreshes }

theorem Idle.refl (e : Engine) : Idle e e := ⟨e.refreshes, rfl⟩

theorem idle_answerIndex (h : r.verb = .get ∨ r.verb = .head) :
    (e.answerIndex r index).2 = e := by
  unfold answerIndex
  rcases h with h | h <;> rw [h]

/-- A request to read changes nothing below an index and a document. -/
theorem answer_of_get (hv : r.verb = .get) (hs : segments r.path = index :: "_doc" :: rest) :
    (e.answer r).2 = e := by
  rcases hf : e.failing with _ | status
  · rw [answer_within hf hs (by decide)]
    unfold answerWithin
    rw [if_neg (by decide), if_pos rfl, hv]
    cases rest <;> rfl
  · rw [answer_of_failing hf]

theorem idle_answerWithin {action : String} (hp : r.payload = .empty)
    (hv : r.verb = .get ∨ r.verb = .head) : Idle e (e.answerWithin r index action rest).2 := by
  have hd : (payloadOf r).member? "doc" = none := by rw [payloadOf, hp]; rfl
  unfold answerWithin
  split
  · exact ⟨_, rfl⟩
  split
  · rcases hv with hv | hv <;> rw [hv] <;> cases rest <;> exact .refl e
  split
  · cases rest with
    | nil => exact .refl e
    | cons id ids =>
      show Idle e (e.updateDocument r index id).2
      rw [updateDocument_unwritten hd]
      exact .refl e
  split <;> exact .refl e

/-- Whatever the path, a request to read changes at most the marks of refreshes. -/
theorem idle_of_read (hp : r.payload = .empty) (hv : r.verb = .get ∨ r.verb = .head) :
    Idle e (e.answer r).2 := by
  unfold answer
  split
  · exact .refl e
  split
  · exact .refl e
  · rw [idle_answerIndex hv]
    exact .refl e
  · exact idle_answerWithin hp hv
  · exact .refl e

/-- A search changes nothing, and neither does a request to an index as a whole. -/
theorem answer_of_search (hv : r.verb = .post)
    (hs : segments r.path = [] ∨ segments r.path = [index] ∨
      segments r.path = [index, "_search"]) : (e.answer r).2 = e := by
  rcases hf : e.failing with _ | status
  · rcases hs with hs | hs | hs
    · simp only [answer, hf, hs]
    · rw [answer_index hf hs, answerIndex, hv]
    · rw [answer_within hf hs (by decide)]
      unfold answerWithin
      rw [if_neg (by decide), if_neg (by decide), if_neg (by decide), if_pos rfl]
  · rw [answer_of_failing hf]

/-- A request to refresh changes at most the marks of refreshes. -/
theorem idle_of_refresh (hv : r.verb = .post)
    (hs : segments r.path = [index] ∨ segments r.path = [index, "_refresh"]) :
    Idle e (e.answer r).2 := by
  rcases hf : e.failing with _ | status
  · rcases hs with hs | hs
    · rw [answer_index hf hs, answerIndex, hv]
      exact .refl e
    · rw [answer_within hf hs (by decide)]
      unfold answerWithin
      rw [if_pos rfl]
      exact ⟨_, rfl⟩
  · rw [answer_of_failing hf]
    exact .refl e

/-! ## Indices only come -/

theorem has_put {α : Type} {m : Entries α} {k key : String} {v : α}
    (h : Entries.has m key = true) : Entries.has (Entries.put m k v) key = true := by
  rw [Entries.has, Entries.get?_put]
  split
  · rfl
  · exact h

theorem has_writeDocument {given : Option String} {other : String}
    (h : Entries.has e.indices other = true) :
    Entries.has (e.writeDocument r index given).2.indices other = true := by
  unfold writeDocument
  split
  · cases given <;> exact has_put h
  · exact h

/-- No request takes an index away. -/
theorem has_answer {other : String} (h : Entries.has e.indices other = true) (r : Request) :
    Entries.has (e.answer r).2.indices other = true := by
  unfold answer
  split
  · exact h
  split
  · exact h
  · unfold answerIndex
    split
    · exact h
    · split
      · exact h
      · exact has_put h
    · exact h
  · unfold answerWithin
    split
    · exact h
    split
    · split
      · exact h
      · exact has_writeDocument h
      · exact has_writeDocument h
      · exact h
      · exact h
    split
    · split
      · unfold updateDocument
        split
        · exact h
        · exact has_put h
        · exact h
      · exact h
    split <;> exact h
  · exact h

/-! ## Hashes -/

/-- Every document has a hash of which `P` holds, and every index matches hashes as a whole. -/
structure Hashed (P : String → Prop) (e : Engine) : Prop where
  hashes : ∀ index, ∀ d ∈ e.documents index, ∃ h, Entries.get? d.2 hashKey = some (.str h) ∧ P h
  keywords : ∀ index, Entries.has e.indices index = true → hashKey ∈ e.keywordFields index

variable {P P' : String → Prop}

theorem Hashed.initial : Hashed P Engine.initial :=
  ⟨(fun _ _ h => by cases h), (fun _ h => by cases h)⟩

theorem Hashed.mono (h : Hashed P e) (hp : ∀ hash, P hash → P' hash) : Hashed P' e where
  hashes index d hd := by
    obtain ⟨hash, hget, hhash⟩ := h.hashes index d hd
    exact ⟨hash, hget, hp hash hhash⟩
  keywords := h.keywords

theorem Hashed.of_eq (h : Hashed P e) (hi : e'.indices = e.indices)
    (hm : e'.mappings = e.mappings) : Hashed P e' := by
  refine ⟨fun index d hd => h.hashes index d ?_, fun index hx => ?_⟩
  · rwa [documents, hi] at hd
  · rw [hi] at hx
    rw [keywordFields, hm]
    exact h.keywords index hx

/-- A new index matches hashes as a whole. -/
theorem Hashed.create (h : Hashed P e) (hv : r.verb = .put)
    (hp : r.payload = .json MetadataIndex.reservedKeysMapping) (index : String) :
    Hashed P (e.answerIndex r index).2 ∧
      Entries.has (e.answerIndex r index).2.indices index = true := by
  unfold answerIndex
  rw [hv]
  dsimp only
  split
  · rename_i hx
    exact ⟨h, hx⟩
  · rename_i hx
    refine ⟨⟨fun other d hd => h.hashes other d ?_, fun other hother => ?_⟩, ?_⟩
    · simp only [documents, Entries.get?_put] at hd ⊢
      split at hd
      · cases hd
      · exact hd
    · have hpay : payloadOf r = MetadataIndex.reservedKeysMapping := by rw [payloadOf, hp]
      simp only [Entries.has, Entries.get?_put] at hother
      simp only [keywordFields, Entries.get?_put, hpay]
      by_cases heq : index = other
      · rw [if_pos heq]
        decide +kernel
      · rw [if_neg heq] at hother ⊢
        exact h.keywords other hother
    · simp only [Entries.has, Entries.get?_put_self, Option.isSome_some]

/-- Documents with hashes can be put into an index that is there. -/
theorem Hashed.putDocument (h : Hashed P e) (hx : Entries.has e.indices index = true) (id : String)
    {d : Document} {hash : String} (hd : Entries.get? d hashKey = some (.str hash))
    (hhash : P hash) :
    Hashed P (e.putDocument index id d) ∧
      Entries.has (e.putDocument index id d).indices index = true := by
  refine ⟨⟨fun other d' hd' => ?_, fun other hother => ?_⟩, ?_⟩
  · rw [documents_putDocument] at hd'
    split at hd'
    · rcases Entries.mem_put hd' with hd' | rfl
      · exact h.hashes index d' hd'
      · exact ⟨hash, hd, hhash⟩
    · exact h.hashes other d' hd'
  · refine h.keywords other ?_
    simp only [Engine.putDocument, Entries.has, Entries.get?_put] at hother
    split at hother
    · rename_i heq
      exact heq ▸ hx
    · exact hother
  · simp only [Engine.putDocument, Entries.has, Entries.get?_put_self, Option.isSome_some]

/-- Where a write of a document leads: to its index, or to what is below the index by its word. -/
inductive Targets (index : String) (source : Entries Json) (path : List String)
    (payload : Payload) : Prop where
  | index (h : path = [index])
  | whole (rest : List String) (h : path = index :: "_doc" :: rest)
      (hp : payload = .json (.obj source))
  | update (rest : List String) (h : path = index :: "_update" :: rest)
      (hp : payload = .json (.obj [("doc", .obj source)]))

/-- A write of a document with a hash to an index that is there. -/
theorem Hashed.write (h : Hashed P e) (hx : Entries.has e.indices index = true)
    {source : Entries Json} {hash : String}
    (hd : ∀ old, Entries.get? (Entries.putAll old source) hashKey = some (.str hash))
    (hself : Entries.get? source hashKey = some (.str hash)) (hhash : P hash)
    (hv : r.verb = .put ∨ r.verb = .post) (ht : Targets index source (segments r.path) r.payload) :
    Hashed P (e.answer r).2 ∧ Entries.has (e.answer r).2.indices index = true := by
  rcases hf : e.failing with _ | status
  swap
  · rw [answer_of_failing hf]
    exact ⟨h, hx⟩
  rcases ht with hs | ⟨rest, hs, hp⟩ | ⟨rest, hs, hp⟩
  · rw [answer_index hf hs]
    unfold answerIndex
    rcases hv with hv | hv <;> rw [hv]
    · dsimp only
      rw [if_pos hx]
      exact ⟨h, hx⟩
    · exact ⟨h, hx⟩
  · have hpay : payloadOf r = .obj source := by rw [payloadOf, hp]
    have hans : e.answer r = e.writeDocument r index rest.head? := by
      rw [answer_within hf hs (by decide)]
      unfold answerWithin
      rw [if_neg (by decide), if_pos rfl]
      rcases hv with hv | hv <;> rw [hv]
    rw [hans]
    unfold writeDocument
    rw [hpay]
    cases rest.head? with
    | some id => exact h.putDocument hx id hself hhash
    | none =>
      have hissued : Hashed P { e with issued := e.issued + 1 } := h.of_eq rfl rfl
      exact hissued.putDocument hx _ hself hhash
  · have hpay : (payloadOf r).member? "doc" = some (.obj source) := by rw [payloadOf, hp]; rfl
    rw [answer_within hf hs (by decide)]
    unfold answerWithin
    rw [if_neg (by decide), if_neg (by decide), if_pos rfl]
    cases rest with
    | nil => exact ⟨h, hx⟩
    | cons id ids =>
      dsimp only
      rw [updateDocument, hpay]
      rcases Entries.get? (e.documents index) id with _ | d
      · exact ⟨h, hx⟩
      · exact h.putDocument hx id (hd d) hhash

end Engine

/-! ## Contents -/

namespace Blobs

variable {b : Blobs} {r : Request}

/-- An answer that is no response leaves the contents as they are. -/
theorem answer_of_error {t : Trouble} (h : (b.answer r).1.result = .error t) :
    (b.answer r).2 = b := by
  revert h
  unfold answer
  split
  · exact fun _ => rfl
  · dsimp only
    split
    · exact fun _ => rfl
    split
    · split
      · intro h
        cases h
      · exact fun _ => rfl
    split
    · split <;> exact fun _ => rfl
    · exact fun _ => rfl

/-- Only a request that carries a content changes the contents. -/
theorem answer_of_empty (h : r.payload = .empty) : (b.answer r).2 = b := by
  unfold answer
  split
  · rfl
  · dsimp only
    split
    · rfl
    split
    · rw [h]
    split
    · split <;> rfl
    · rfl

/-- The contents with one more under its hash. -/
def add (b : Blobs) (content : Bytes) : Blobs :=
  { b with blobs := Entries.put b.blobs (hashOf content) content }

theorem add_add (b : Blobs) (content : Bytes) : (b.add content).add content = b.add content := by
  simp only [add, Entries.put_put_self]

/-- A request adds the content that it carries, or it changes nothing. -/
theorem answer_left (b : Blobs) (r : Request) : (b.answer r).2 = b ∨
    ∃ content, r.payload = .file content ∧ (b.answer r).2 = b.add content := by
  unfold answer
  split
  · exact .inl rfl
  · rename_i hf
    dsimp only
    split
    · exact .inl rfl
    split
    · split
      · rename_i content hp
        exact .inr ⟨content, hp, by rw [add, hf]⟩
      · exact .inl rfl
    split
    · split <;> exact .inl rfl
    · exact .inl rfl

theorem failing_answer (b : Blobs) (r : Request) : (b.answer r).2.failing = b.failing := by
  rcases answer_left b r with h | ⟨content, -, h⟩ <;> rw [h]
  rfl

/-- A content is added, and the answer names its hash, or nothing happens and it names none. -/
theorem answer_add {content : Bytes} (hp : Text.Percent.decode r.path = "/api/v0/add")
    (hc : r.payload = .file content) :
    (b.failing = none ∧ (b.answer r).2 = b.add content ∧
        ∃ name size, (b.answer r).1 = respond 200 (.obj [("Name", .str name),
          ("Hash", .str (hashOf content)), ("Size", .str size)])) ∨
      ∃ status, b.failing = some status ∧
        b.answer r = (respondError status "emulated failure", b) := by
  unfold answer
  rcases hf : b.failing with _ | status
  · refine .inl ⟨rfl, ?_⟩
    dsimp only
    rw [hp, if_neg (by decide), if_pos rfl, hc]
    exact ⟨by rw [add, hf], _, _, rfl⟩
  · exact .inr ⟨status, rfl, rfl⟩

/-- Only where a content is added a hash is named, if nothing is kept under the empty hash. -/
theorem answer_of_hash {content : Bytes} {resp : Response} {answer hash : Json}
    (hc : r.payload = .file content) (harg : parameter r "arg" = "")
    (hempty : Entries.get? b.blobs "" = none) (h : (b.answer r).1 = .response resp)
    (hj : resp.json = .ok answer) (hhash : answer.itemAt "Hash" = .ok hash) :
    hash = .str (hashOf content) ∧ (b.answer r).2 = b.add content := by
  by_cases hp : Text.Percent.decode r.path = "/api/v0/add"
  · rcases answer_add (b := b) hp hc with ⟨-, hadded, name, size, hgiven⟩ | ⟨status, -, hgiven⟩
    · cases hgiven.symm.trans h
      cases hj
      cases hhash
      exact ⟨rfl, hadded⟩
    · rw [hgiven] at h
      cases h
      cases hj
      cases hhash
  · have hnone : ∀ {members : Entries Json} {status : Int}, Entries.get? members "Hash" = none →
        (b.answer r).1 ≠ respond status (.obj members) := by
      intro members status hm heq
      cases heq.symm.trans h
      cases hj
      rw [Json.itemAt, hm] at hhash
      cases hhash
    unfold Blobs.answer at hnone
    rcases hf : b.failing with _ | status <;> rw [hf] at hnone
    · simp only [hp, harg, hempty, if_false] at hnone
      split at hnone
      · exact absurd rfl (hnone (by decide))
      · split at hnone
        · exact absurd rfl (hnone (by decide))
        · exact absurd rfl (hnone (by decide))
    · exact absurd rfl (hnone (by decide))

/-- The answer to the question for a hash. -/
def found (b : Blobs) (hash : String) : Response :=
  match b.failing, Entries.get? b.blobs hash with
  | some status, _ => ⟨status, .json (.obj [("Message", .str "emulated failure"),
      ("Code", .int 0), ("Type", .str "error")])⟩
  | none, some content => ⟨200, .bytes content⟩
  | none, none => ⟨500, .json (.obj
      [("Message", .str ("block was not found locally (offline): " ++ hash)),
        ("Code", .int 0), ("Type", .str "error")])⟩

theorem answer_cat {hash : String} (hp : Text.Percent.decode r.path = "/api/v0/cat")
    (hq : r.query = [("arg", hash)]) : b.answer r = (.response (b.found hash), b) := by
  have hparameter : parameter r "arg" = hash := by rw [parameter, hq]; rfl
  unfold answer found
  rcases hf : b.failing with _ | status
  · dsimp only
    rw [hp, if_neg (by decide), if_neg (by decide), if_pos rfl, hparameter]
    rcases Entries.get? b.blobs hash with _ | content <;> rfl
  · rfl

/-! ### Hashes -/

theorem toList_hashOf (content : Bytes) : (hashOf content).toList =
    'Q' :: 'm' :: (Digest.Sha256.hexDigest content).toList.take 44 := by
  have hmark : "Qm".toList = ['Q', 'm'] := by decide
  rw [hashOf, String.toList_append, hmark]
  exact congrArg (fun cs => 'Q' :: 'm' :: cs) String.toList_ofList

theorem isAlphanum_of_mem_hashOf {content : Bytes} {c : Char} (h : c ∈ (hashOf content).toList) :
    c.isAlphanum = true := by
  have hdigit : ∀ n < 16, (Text.Hex.digit n).isAlphanum = true := by decide
  rw [toList_hashOf, List.mem_cons, List.mem_cons] at h
  rcases h with rfl | rfl | h
  · decide
  · decide
  · have h := List.mem_of_mem_take h
    rw [Digest.Sha256.hexDigest, Text.Hex.ofBytes, String.toList_ofList, List.mem_flatMap] at h
    obtain ⟨byte, -, hc⟩ := h
    have hbyte := byte.toNat_lt
    rcases List.mem_cons.1 hc with rfl | hc
    · exact hdigit _ (by omega)
    · rw [List.mem_singleton.1 hc]
      exact hdigit _ (by omega)

theorem length_hashOf (content : Bytes) : (hashOf content).toList.length ≤ 46 := by
  rw [toList_hashOf, List.length_cons, List.length_cons, List.length_take]
  omega

theorem hashOf_ne_empty (content : Bytes) : hashOf content ≠ "" := by
  intro h
  have hlist := toList_hashOf content
  rw [h] at hlist
  cases hlist

/-- Nothing is ever kept under the empty hash. -/
theorem get?_empty_answer (h : Entries.get? b.blobs "" = none) :
    Entries.get? (b.answer r).2.blobs "" = none := by
  rcases answer_left b r with hleft | ⟨content, -, hleft⟩ <;> rw [hleft]
  · exact h
  · rw [add, Entries.get?_put, if_neg (hashOf_ne_empty content)]
    exact h

/-- The question for a content is never too long. -/
theorem queryLength_hashOf (content : Bytes) :
    Address.queryLength [("arg", hashOf content)] ≤ Url.maxLength := by
  have hhash : Text.Percent.escapeUnless Address.isShort (hashOf content).toList =
      (hashOf content).toList := by
    refine Text.Percent.escapeUnless_of_kept fun c hc => ?_
    rw [Address.isShort, Text.Percent.isUnreserved, isAlphanum_of_mem_hashOf hc]
    rfl
  have harg : (Text.Percent.escapeUnless Address.isShort "arg".toList).length = 3 := by decide
  have hlength := length_hashOf content
  rw [Address.queryLength, List.foldl_cons, List.foldl_nil]
  simp only [hhash, harg, Url.maxLength, List.length_cons, List.length_nil]
  omega

end Blobs

end ContentDepot.InMemory
