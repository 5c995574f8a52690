import ContentDepot.Proofs.Depot.Contents
import ContentDepot.Proofs.Index.Taxonomy
import ContentDepot.Session.World

/-!
# What leaves the depot as a failure

The operations of the depot are to fail with errors of the depot only. They do, but
for one way: a write makes its receipt of what the backends have reported
after everything that could go wrong was taken for a failure of theirs, and an
identifier or a hash that is no text is not a receipt.

* `always_writing`: a write ends with the identifier that the engine has reported;
* `closed_depotCall`: exactly where an identifier or a hash is reported that is no
  text, a call fails otherwise than with an error of the depot.
-/

namespace ContentDepot

/-! ## What answers report -/

def Json.IsText (v : Json) : Prop := ∃ text, v = .str text

/-- The member of an answer that tells of success, where it is an object. -/
def Reply.member? (reply : Reply) (key : String) : Option Json :=
  match reply with
  | .response r =>
    match r.isSuccess, r.body.json? with
    | true, .ok (.obj members) => Entries.get? members key
    | _, _ => none
  | _ => none

theorem Reply.member?_eq_some {r : Response} {v : Json} {key : String} :
    (Reply.response r).member? key = some v ↔
      r.isSuccess = true ∧ ∃ answer, r.json = .ok answer ∧ answer.itemAt key = .ok v := by
  simp only [Response.json_eq_ok, member?]
  constructor
  · intro h
    split at h
    · rename_i members hs hj
      exact ⟨hs, .obj members, hj, by rw [Json.itemAt, h]⟩
    · cases h
  · rintro ⟨hs, answer, hj, hv⟩
    cases answer with
    | obj members =>
      rw [hs, hj]
      rcases hm : Entries.get? members key with _ | w <;> simp only [Json.itemAt, hm] at hv
      · cases hv
      · cases hv
        exact hm
    | _ => cases hv

/-- The hash that the content store has reported in answer to the first request. -/
def storedHash? (t : Traffic) : Option Json := t.head?.bind fun e => e.2.member? "Hash"

/-- The first answer stays the first. -/
theorem storedHash?_of_grows {t t' : Traffic} {hash : Json} (h : t <+: t')
    (ht : storedHash? t = some hash) : storedHash? t' = some hash := by
  obtain ⟨u, rfl⟩ := h
  cases t with
  | nil => cases ht
  | cons e t => exact ht

/-- Whether the request makes the changes of an index visible. -/
def Request.refreshes (r : Request) : Bool := r.verb == .post && r.payload == .empty

/-- The identifier of a written document: what the engine has reported before it made the change
visible. -/
def writtenId? (t : Traffic) : Option Json :=
  match t.reverse with
  | (refresh, .response done) :: (_, reply) :: _ =>
    if refresh.refreshes && done.isSuccess then reply.member? "_id" else none
  | _ => none

theorem writtenId?_append {t : Traffic} {r : Request} {reply : Reply} (h : r.refreshes = false) :
    writtenId? (t ++ [(r, reply)]) = none := by
  rw [writtenId?, List.reverse_append]
  rcases reply with resp | message | f
  · rcases t.reverse with _ | ⟨e, u⟩
    · rfl
    · simp [h]
  · rfl
  · rfl

theorem writtenId?_append_append {t : Traffic} {r refresh : Request} {reply : Reply}
    {done : Response} (h : refresh.refreshes = true) :
    writtenId? (t ++ [(r, reply)] ++ [(refresh, .response done)]) =
      if done.isSuccess then reply.member? "_id" else none := by
  rw [writtenId?, List.append_assoc, List.reverse_append]
  simp [h]

theorem writtenId?_of_broken {t : Traffic} {r : Request} {reply : Reply}
    (h : ∀ resp, reply ≠ .response resp) : writtenId? (t ++ [(r, reply)]) = none := by
  rw [writtenId?, List.reverse_append]
  rcases reply with resp | message | f
  · exact absurd rfl (h resp)
  · rfl
  · rfl

theorem writtenId?_of_length_le {t : Traffic} (h : t.length ≤ 1) : writtenId? t = none := by
  rcases t with _ | ⟨⟨r, reply⟩, _ | ⟨e, u⟩⟩
  · rfl
  · rcases reply <;> rfl
  · simp at h

/-! ## Writes -/

namespace MetadataIndex

variable {e : Endpoint} {t : Traffic}

/-- A request of a write that does not end it. -/
theorem always_step {verb : Verb} {path : String} {query : List (String × String)}
    {payload : Payload} (he : e.address.base.scheme ≠ []) (ht : writtenId? t = none)
    (hp : (verb == .post && payload == .empty) = false) :
    Always t (e.call verb path query payload)
      (fun resp t' => writtenId? t' = none ∧ ∃ u r, t' = u ++ [(r, .response resp)])
      fun _ t' => writtenId? t' = none := by
  refine .call he (fun _ => ht) fun url r reply _ hm => ?_
  have hr : r.refreshes = false := by rw [Request.refreshes, hm.verb, hm.payload, hp]
  cases reply with
  | response resp => exact ⟨writtenId?_append hr, t, r, rfl⟩
  | _ => exact writtenId?_append hr

theorem always_createIfMissing (he : e.address.base.scheme ≠ []) (ht : writtenId? t = none)
    (name : String) (trust : Bool) :
    Always t (createIfMissing e name trust) (fun _ t' => writtenId? t' = none)
      fun _ t' => writtenId? t' = none := by
  unfold createIfMissing
  refine .context_bind fun c => ?_
  split
  · exact .pure ht
  refine .bind (always_step he ht rfl) ?_
  rintro r t ⟨ht, -⟩
  split
  · exact .modify ht
  refine .bind (always_step he ht rfl) ?_
  rintro r t ⟨ht, -⟩
  refine .ofRead_bind (fun _ _ => ht) fun known _ => ?_
  split
  · exact .modify ht
  refine .check_bind (fun _ => ⟨fun _ => ht, fun _ => ht⟩) fun _ => ?_
  exact .emit_bind (.modify ht)

theorem always_documentExists (he : e.address.base.scheme ≠ []) (ht : writtenId? t = none)
    (name : String) (id : Json) :
    Always t (documentExists e name id) (fun _ t' => writtenId? t' = none)
      fun _ t' => writtenId? t' = none := by
  unfold documentExists
  split
  · exact .pure ht
  refine .bind (always_step he ht rfl) ?_
  rintro r t ⟨ht, -⟩
  split
  · exact .pure ht
  refine .check_bind (fun _ => ⟨fun _ => ht, fun _ => ht⟩) fun _ => ?_
  exact .ofRead_bind (fun _ _ => ht) fun _ _ => .ofRead_bind (fun _ _ => ht) fun _ _ => .pure ht

theorem always_writeDocument (he : e.address.base.scheme ≠ []) (ht : writtenId? t = none)
    (name : String) (id : Json) (isThere : Bool) (source : Entries Json) :
    Always t (writeDocument e name id isThere source)
      (fun resp t' => writtenId? t' = none ∧ ∃ u r, t' = u ++ [(r, .response resp)])
      fun _ t' => writtenId? t' = none := by
  unfold writeDocument
  split
  · exact always_step he ht rfl
  split
  · exact always_step he ht rfl
  · exact always_step he ht rfl

/-- A write that comes to its end gives the identifier that the engine has reported; one that
breaks off does not come to its end. -/
theorem always_writing (he : e.address.base.scheme ≠ []) (ht : writtenId? t = none)
    (name : String) (id : Json) (source : Entries Json) (writable : Bool) :
    Always t (writing e name id source writable) (fun written t' => writtenId? t' = some written)
      fun _ t' => writtenId? t' = none := by
  unfold writing
  refine .bind (always_createIfMissing he ht ..) fun _ t ht => ?_
  refine .bind (always_documentExists he ht ..) fun isThere t ht => ?_
  split
  · exact .throw_bind ht
  refine .bind (always_writeDocument he ht ..) ?_
  rintro resp t ⟨ht, u, w, rfl⟩
  refine .check_bind (fun _ => ⟨fun _ => ht, fun _ => ht⟩) fun hs => ?_
  refine .ofRead_bind (fun _ _ => ht) fun answer hj => ?_
  refine .ofRead_bind (fun _ _ => ht) fun written hw => ?_
  have hmember : (Reply.response resp).member? "_id" = some written :=
    Reply.member?_eq_some.2 ⟨hs, answer, hj, hw⟩
  refine .bind (m := fun done t' => writtenId? t' =
    if done.isSuccess then some written else none) (.call he (fun _ => ht) ?_) fun done t ht => ?_
  · intro url refresh reply _ hm
    have hr : refresh.refreshes = true := by rw [Request.refreshes, hm.verb, hm.payload]; rfl
    cases reply with
    | response done => exact (writtenId?_append_append hr).trans (by rw [hmember])
    | _ => exact writtenId?_of_broken fun resp h => nomatch h
  refine .check_bind (fun hs => ?_) fun hs => ?_
  · rw [hs] at ht
    exact ⟨fun _ => ht, fun _ => ht⟩
  · rw [hs] at ht
    exact .pure ht

end MetadataIndex

/-! ## Operations -/

/-- A failure with an error of the depot, other than that an operation is not supported. -/
def Failure.IsOrdinary (f : Failure) : Prop :=
  ∃ e, f = .error e ∧ e.kind ∈ [ErrorKind.validation, .notFound, .backend]

theorem Failure.IsBackend.ordinary {f : Failure} (h : f.IsBackend) : f.IsOrdinary := by
  obtain ⟨e, rfl, hk⟩ := h
  exact ⟨e, rfl, by rw [hk]; decide⟩

theorem Failure.isOrdinary_emptyParameter (name : String) :
    (Failure.error (.emptyParameter name)).IsOrdinary := ⟨_, rfl, .head _⟩

theorem ordinary_of_settled {α : Type} {lacks : Bool} {absent : Traffic → Prop}
    {post : α → Traffic → Prop} {action : Action α} (h : IsSettled lacks absent post action)
    (t : Traffic) : Always t action (fun _ _ => True) fun f _ => f.IsOrdinary := by
  refine (Always.after h t).mono (fun _ _ _ => trivial) ?_
  rintro f t' ⟨u, -, ⟨-, -, name, rfl⟩ | ⟨-, e, rfl, he⟩⟩
  · exact Failure.isOrdinary_emptyParameter name
  · refine ⟨e, rfl, ?_⟩
    rcases he with ⟨-, hk⟩ | ⟨-, hk⟩ <;> rw [hk] <;> decide

section Operations

variable {s : Settings} {t : Traffic}

theorem always_remoteWrite (hs : s.HostsAreValid) (ht : writtenId? t = none) {index : String}
    {hash : Json} (hi : (Json.str index).isBlank = false) (hh : hash.isBlank = false)
    (id contentType : Json) (fields : Option (List IndexField)) :
    Always t (MetadataIndex.remoteWrite s (.str index) id hash contentType fields)
      (fun written t' => writtenId? t' = some written)
      fun f t' => f.IsBackend ∧ writtenId? t' = none := by
  refine .require_bind (fun hb => by rw [hi] at hb; cases hb) fun _ => ?_
  refine .require_bind (fun hb => by rw [hh] at hb; cases hb) fun _ => ?_
  refine .opened_bind hs (.inr ⟨index, rfl⟩) hi fun name e _ he => .guarded ?_
  exact (MetadataIndex.always_writing he ht ..).mono (fun _ _ h => h)
    fun trouble t' ht => .fail fun e he => ⟨⟨e, rfl, he⟩, ht⟩

/-- A content that is stored has the hash that the store has reported, and where none was reported
it is not stored. -/
theorem always_remoteStore (hs : s.HostsAreValid) (content : Bytes) :
    Always [] (ContentStore.remoteStore s (some content))
      (fun hash t => t.length = 1 ∧ storedHash? t = some hash)
      fun f t => f.IsBackend ∧ t.length ≤ 1 ∧ storedHash? t = none := by
  have hbroken : ∀ (t : Traffic) (trouble : Trouble), t.length ≤ 1 → storedHash? t = none →
      Always t (ContentStore.failWith .storingContent "store_content_failed" trouble : Action Json)
        (fun hash t => t.length = 1 ∧ storedHash? t = some hash)
        fun f t => f.IsBackend ∧ t.length ≤ 1 ∧ storedHash? t = none :=
    fun t _ hlen hnone => .failWith fun e he => ⟨⟨e, rfl, he⟩, hlen, hnone⟩
  refine .connected_bind hs fun e _ he => .guarded ?_
  unfold ContentStore.storing
  refine .bind (m := fun resp t => ∃ r, t = [(r, .response resp)])
    (.call he (fun _ => hbroken [] _ (Nat.zero_le 1) rfl) ?_) ?_
  · intro url r reply _ _
    cases reply with
    | response resp => exact ⟨r, rfl⟩
    | _ => exact hbroken _ _ (Nat.le_refl 1) rfl
  rintro resp t ⟨r, rfl⟩
  have hread : ∀ trouble, (∀ hash, ¬ (resp.isSuccess = true ∧ ∃ answer, resp.json = .ok answer ∧
      answer.itemAt "Hash" = .ok hash)) → Always [(r, .response resp)]
        (ContentStore.failWith .storingContent "store_content_failed" trouble : Action Json) _ _ :=
    fun trouble hno => hbroken _ trouble (Nat.le_refl 1)
      (Option.eq_none_iff_forall_ne_some.2 fun hash h => hno hash (Reply.member?_eq_some.1 h))
  split
  · rename_i hfailed
    rw [Bool.not_eq_true'] at hfailed
    exact .throw (hread _ fun hash ⟨h, _⟩ => by rw [hfailed] at h; cases h)
  rename_i hsuccess
  rw [Bool.not_eq_true', Bool.not_eq_false] at hsuccess
  refine .ofRead_bind (fun cause hj => hread _ ?_) fun answer hj =>
    .ofRead (fun cause hh => hread _ ?_) fun hash hh =>
      ⟨rfl, Reply.member?_eq_some.2 ⟨hsuccess, answer, hj, hh⟩⟩
  · rintro hash ⟨-, answer, hj', -⟩
    rw [hj] at hj'
    cases hj'
  · rintro hash ⟨-, answer', hj', hh'⟩
    obtain rfl : answer' = answer := Except.ok.inj (hj'.symm.trans hj)
    rw [hh] at hh'
    cases hh'

/-- Fetching fails with errors of the depot, but for an answer that has no members to ask for. -/
theorem always_remoteFetch (hs : s.HostsAreValid) (hash : Json) :
    Always t (ContentStore.remoteFetch s hash) (fun _ _ => True)
      fun f _ => ∀ e, f = .error e → f.IsOrdinary := by
  rw [ContentStore.remoteFetch_eq]
  refine .require_bind (fun _ _ _ => Failure.isOrdinary_emptyParameter _) fun _ => ?_
  refine .connected_bind hs fun e _ _ => ?_
  refine .bind (m := fun _ _ => True) (.guarded ((Always.trivially _ t).mono
    (fun _ _ _ => trivial) fun _ _ _ => .failWith fun e he _ _ =>
      Failure.IsBackend.ordinary ⟨e, rfl, he⟩)) fun r t' _ => ?_
  have hend : ∀ absent : Bool, Always t' (ContentStore.delivered hash r absent) (fun _ _ => True)
      fun f _ => ∀ e, f = .error e → f.IsOrdinary := by
    intro absent
    unfold ContentStore.delivered
    split
    · refine .emit_bind (.throw ?_)
      rintro e ⟨⟩
      exact ⟨_, rfl, .tail _ (.head _)⟩
    split
    · refine .emit_bind (.throw ?_)
      rintro e ⟨⟩
      exact Failure.IsBackend.ordinary ⟨_, rfl, rfl⟩
    · exact .pure trivial
  unfold ContentStore.fetched
  dsimp only
  split
  · exact ⟨(hend true).ends⟩
  split
  · split
    · exact ⟨(hend _).ends⟩
    · exact .throw_bind fun e h => nomatch h
  · exact ⟨(hend false).ends⟩

end Operations

/-! ## Receipts -/

/-- A receipt is made of texts, and of nothing else. -/
theorem Receipt.ofParts_eq_ok {index : String} {id hash : Json} {r : Receipt} :
    ofParts (.str index) id hash = .ok r ↔
      r.index = index ∧ id = .str r.id ∧ hash = .str r.hash := by
  constructor
  · intro h
    cases id with
    | str id =>
      cases hash with
      | str hash =>
        cases h
        exact ⟨rfl, rfl, rfl⟩
      | _ => cases h
    | _ => cases hash <;> cases h
  · rintro ⟨rfl, rfl, rfl⟩
    rfl

/-- What the backends have reported makes no receipt. -/
def Misreports (id hash : Json) : Prop := ¬ (id.IsText ∧ hash.IsText)

theorem misreports_of_error {index : String} {id hash : Json} {issues : List Issue}
    (h : Receipt.ofParts (.str index) id hash = .error issues) : Misreports id hash := by
  rintro ⟨⟨id, rfl⟩, hash, rfl⟩
  cases h

/-- How indexing under a hash fails. -/
inductive IndexingFails (index : String) (hash : Json) : Failure → Traffic → Prop
  | unnamed {t : Traffic} (hi : index = "") (ht : writtenId? t = none) :
    IndexingFails index hash (.error (.emptyParameter "index_name")) t
  | unhashed {t : Traffic} (hh : hash.isBlank = true) (ht : writtenId? t = none) :
    IndexingFails index hash (.error (.emptyParameter "hash")) t
  | broken {t : Traffic} {f : Failure} (hh : hash.isBlank = false) (hf : f.IsBackend)
    (ht : writtenId? t = none) : IndexingFails index hash f t
  /-- The write has come to its end, but what was reported makes no receipt. -/
  | misreported {t : Traffic} {id : Json} {issues : List Issue} (hh : hash.isBlank = false)
    (ht : writtenId? t = some id) (hm : Misreports id hash) :
    IndexingFails index hash (.invalid issues) t

section Depot

variable {s : Settings} {t : Traffic}

theorem always_indexUnder (hs : s.HostsAreValid) (ht : writtenId? t = none) (r : IndexRequest)
    (hash : Json) :
    Always t ((Depot.remote s).indexUnder r hash)
      (fun receipt t' => writtenId? t' = some (.str receipt.id) ∧ hash = .str receipt.hash ∧
        hash.isBlank = false)
      (IndexingFails r.index hash) := by
  refine .require_bind (fun hi => .unnamed ?_ ht) fun hi => ?_
  · exact String.isEmpty_iff.1 hi
  refine .require_bind (fun hh => .unhashed hh ht) fun hh => ?_
  refine .bind (m := fun id t' => writtenId? t' = some id) (.shielded ?_) fun id t' hid => ?_
  · refine (always_remoteWrite hs ht hi hh ..).mono (fun _ _ h => h) ?_
    rintro f t' ⟨⟨e, rfl, hk⟩, hno⟩
    exact .broken hh ⟨e, rfl, hk⟩ hno
  rcases hr : Receipt.ofParts (.str (Text.lower r.index)) id hash with issues | receipt
  · exact .throw (.misreported hh hid (misreports_of_error hr))
  · obtain ⟨-, rfl, rfl⟩ := Receipt.ofParts_eq_ok.1 hr
    exact .pure ⟨hid, rfl, hh⟩

end Depot

/-! ## Calls -/

namespace DepotCall

/-- The index is asked for by a text or null. -/
def NamesIndex : DepotCall → Prop
  | metadataById index _ | metadataByHash index _ | searchFiles index .. | createIndex index =>
    index.IsTextOrNull
  | _ => True

/-- The hash under which a call indexes: the one of the request, or the one that was reported. -/
def indexedHash? : DepotCall → Traffic → Option Json
  | indexFile (some r), _ => some (.ofOption r.hash)
  | storeAndIndexFile _ (some _), t => storedHash? t
  | _, _ => none

/-- Whether a call that indexes is given all it needs. -/
def isComplete : DepotCall → Bool
  | indexFile (some r) => !r.index.isEmpty && !(Json.ofOption r.hash).isBlank
  | storeAndIndexFile (some _) (some r) => !r.index.isEmpty
  | _ => false

/-- The backends have reported an identifier and a hash of which no receipt can be made. -/
def IsMisreported (call : DepotCall) (t : Traffic) : Prop :=
  ∃ id hash, writtenId? t = some id ∧ call.indexedHash? t = some hash ∧ Misreports id hash

/-- How a call on the depot ends, given the requests it has sent and the answers to them. -/
structure Closed (call : DepotCall) (outcome : Outcome) (t : Traffic) : Prop where
  /-- Every failure is an error of the depot, unless what was reported makes no receipt. -/
  ordinary : (∀ f, outcome = .failed f → f.IsOrdinary) ↔ ¬ call.IsMisreported t
  misreported : call.IsMisreported t → ∃ issues, outcome = .failed (.invalid issues)
  /-- What goes wrong with a write that is complete is the backends' fault. -/
  backend : call.isComplete = true → (∀ hash, call.indexedHash? t = some hash → hash.isBlank = false) →
    ¬ call.IsMisreported t → ∀ f, outcome = .failed f → f.IsBackend
  blank : call.isComplete = true → ∀ hash, call.indexedHash? t = some hash → hash.isBlank = true →
    outcome = .failed (.error (.emptyParameter "hash"))
  receipt : ∀ r, outcome = .receipt r →
    writtenId? t = some (.str r.id) ∧ call.indexedHash? t = some (.str r.hash)

variable {call : DepotCall} {t : Traffic}

theorem not_isMisreported (h : writtenId? t = none) : ¬ call.IsMisreported t := by
  rintro ⟨id, hash, hid, -⟩
  rw [h] at hid
  cases hid

/-- A failure with an error of the depot. -/
theorem closed_of_ordinary {f : Failure} (hf : f.IsOrdinary) (hno : ¬ call.IsMisreported t)
    (hbackend : call.isComplete = true →
      (∀ hash, call.indexedHash? t = some hash → hash.isBlank = false) → f.IsBackend)
    (hblank : call.isComplete = true → ∀ hash, call.indexedHash? t = some hash → hash.isBlank = true →
      f = .error (.emptyParameter "hash")) : call.Closed (.failed f) t where
  ordinary := by
    refine iff_of_true ?_ hno
    rintro _ ⟨⟩
    exact hf
  misreported h := absurd h hno
  backend hc hh _ := by
    rintro _ ⟨⟩
    exact hbackend hc hh
  blank hc hash hh hb := by rw [hblank hc hash hh hb]
  receipt _ h := nomatch h

/-- A result. -/
theorem closed_of_result {o : Outcome} (ho : ∀ f, o ≠ .failed f) (hno : ¬ call.IsMisreported t)
    (hblank : call.isComplete = true → ∀ hash, call.indexedHash? t = some hash → hash.isBlank = false)
    (hreceipt : ∀ r, o = .receipt r →
      writtenId? t = some (.str r.id) ∧ call.indexedHash? t = some (.str r.hash)) : call.Closed o t where
  ordinary := iff_of_true (fun f h => absurd h (ho f)) hno
  misreported h := absurd h hno
  backend _ _ _ f h := absurd h (ho f)
  blank hc hash hh hb := by
    rw [hblank hc hash hh] at hb
    cases hb
  receipt := hreceipt

/-- A failure of indexing under the hash of the call. -/
theorem closed_of_indexingFails {index : String} {hash : Json} {f : Failure}
    (h : IndexingFails index hash f t) (hh : call.indexedHash? t = some hash)
    (hi : call.isComplete = true → index ≠ "") : call.Closed (.failed f) t := by
  have hhash : ∀ hash', call.indexedHash? t = some hash' → hash' = hash :=
    fun _ h' => Option.some.inj (h'.symm.trans hh)
  cases h with
  | unnamed hempty ht =>
    exact closed_of_ordinary (Failure.isOrdinary_emptyParameter _) (not_isMisreported ht)
      (fun hc => absurd hempty (hi hc)) fun hc => absurd hempty (hi hc)
  | unhashed hb ht =>
    refine closed_of_ordinary (Failure.isOrdinary_emptyParameter _) (not_isMisreported ht)
      (fun _ hnot => ?_) fun _ _ _ _ => rfl
    rw [hnot hash hh] at hb
    cases hb
  | broken hb hf ht =>
    refine closed_of_ordinary hf.ordinary (not_isMisreported ht) (fun _ _ => hf) ?_
    intro _ hash' hh' hb'
    rw [hhash hash' hh', hb] at hb'
    cases hb'
  | @misreported _ id issues hb ht hm =>
    have hmis : call.IsMisreported t := ⟨id, hash, ht, hh, hm⟩
    refine ⟨iff_of_false (fun h => ?_) (not_not_intro hmis), fun _ => ⟨issues, rfl⟩,
      fun _ _ hno => absurd hmis hno, fun _ hash' hh' hb' => ?_, fun _ h => nomatch h⟩
    · obtain ⟨e, he, -⟩ := h _ rfl
      cases he
    · rw [hhash hash' hh', hb] at hb'
      cases hb'

/-- A receipt of indexing under the hash of the call. -/
theorem closed_of_receipt {r : Receipt} (hid : writtenId? t = some (.str r.id))
    (hh : call.indexedHash? t = some (.str r.hash)) (hb : (Json.str r.hash).isBlank = false) :
    call.Closed (.receipt r) t := by
  refine closed_of_result (fun _ h => nomatch h) ?_ ?_ ?_
  · rintro ⟨id, hash, hid', hh', hm⟩
    obtain rfl := Option.some.inj (hid'.symm.trans hid)
    obtain rfl := Option.some.inj (hh'.symm.trans hh)
    exact hm ⟨⟨r.id, rfl⟩, r.hash, rfl⟩
  · intro _ hash hh'
    obtain rfl := Option.some.inj (hh'.symm.trans hh)
    exact hb
  · rintro r' ⟨⟩
    exact ⟨hid, hh⟩

/-- An operation that does not index and fails with errors of the depot only. -/
theorem ends_of_ordinary {α : Type} {action : Action α} {give : α → Outcome}
    (hh : ∀ t, call.indexedHash? t = none) (hc : call.isComplete = false)
    (h : Always [] action (fun _ _ => True) fun f _ => f.IsOrdinary)
    (hgive : ∀ a, (∀ f, give a ≠ .failed f) ∧ ∀ r, give a ≠ .receipt r) :
    Exchange.Ends call.Closed (Outcome.ofAction give action) [] := by
  have hno : ∀ t, ¬ call.IsMisreported t := by
    rintro t ⟨id, hash, -, hhash, -⟩
    rw [hh t] at hhash
    cases hhash
  have hcomplete : call.isComplete ≠ true := by
    rw [hc]
    exact Bool.false_ne_true
  refine Always.outcome (h.mono (fun a t _ => ?_) fun f t hf => ?_)
  · exact closed_of_result (hgive a).1 (hno t) (fun h => absurd h hcomplete)
      fun r h => absurd h ((hgive a).2 r)
  · exact closed_of_ordinary hf (hno t) (fun h => absurd h hcomplete) fun h => absurd h hcomplete

end DepotCall

section Calls

variable {s : Settings} {index : Json}

theorem ordinary_storeFile (hs : s.HostsAreValid) (content : Option Bytes) :
    Always [] ((Depot.remote s).storeFile content) (fun _ _ => True) fun f _ => f.IsOrdinary := by
  refine .shielded ?_
  cases content with
  | none => exact .throw ⟨_, rfl, .head _⟩
  | some content =>
    refine (always_remoteStore hs content).mono (fun _ _ _ => trivial) ?_
    rintro f t ⟨⟨e, rfl, hk⟩, -⟩
    exact Failure.IsBackend.ordinary ⟨e, rfl, hk⟩

theorem ordinary_fileByHash (hs : s.HostsAreValid) (hash : Json) :
    Always [] ((Depot.remote s).fileByHash hash) (fun _ _ => True) fun f _ => f.IsOrdinary := by
  refine .require_bind (fun _ => Failure.isOrdinary_emptyParameter _) fun _ => .shielded ?_
  refine (always_remoteFetch hs hash).mono (fun _ _ h => h) fun f t hf => ?_
  cases f with
  | error e => exact hf e rfl
  | fault f => exact Failure.IsBackend.ordinary ⟨_, rfl, rfl⟩
  | invalid issues => exact Failure.IsBackend.ordinary ⟨_, rfl, rfl⟩

theorem ordinary_metadataById (hs : s.HostsAreValid) (hi : index.IsTextOrNull) (id : Json) :
    Always [] ((Depot.remote s).metadataById index id) (fun _ _ => True)
      fun f _ => f.IsOrdinary :=
  .require_bind (fun _ => Failure.isOrdinary_emptyParameter _) fun _ =>
    .require_bind (fun _ => Failure.isOrdinary_emptyParameter _) fun _ =>
      ordinary_of_settled (settled_remoteLookUp hs hi id) []

theorem ordinary_metadataByHash (hs : s.HostsAreValid) (hi : index.IsTextOrNull) (hash : Json) :
    Always [] ((Depot.remote s).metadataByHash index hash) (fun _ _ => True)
      fun f _ => f.IsOrdinary := by
  refine .require_bind (fun _ => Failure.isOrdinary_emptyParameter _) fun _ => ?_
  refine .require_bind (fun _ => Failure.isOrdinary_emptyParameter _) fun _ => ?_
  have hsearch := ordinary_of_settled (settled_remoteSearch hs hi
    (some (.single .equals Search.hashKey hash)) (some Depot.firstResult)) []
  refine .bind hsearch fun ms t _ => ?_
  cases ms with
  | nil => exact .emit_bind (.throw ⟨_, rfl, .tail _ (.head _)⟩)
  | cons m ms => exact .pure trivial

theorem ordinary_searchFiles (hs : s.HostsAreValid) (hi : index.IsTextOrNull)
    (query : Option Query) (pageable : Option Pageable) :
    Always [] ((Depot.remote s).searchFiles index query pageable) (fun _ _ => True)
      fun f _ => f.IsOrdinary := by
  refine .require_bind (fun _ => Failure.isOrdinary_emptyParameter _) fun _ => ?_
  cases pageable with
  | none => exact .throw (Failure.isOrdinary_emptyParameter _)
  | some pageable =>
    have hsearch := ordinary_of_settled (settled_remoteSearch hs hi query (some pageable)) []
    refine .bind hsearch fun ms t _ => ?_
    exact .bind (ordinary_of_settled (settled_remoteCount hs hi query) t) fun _ _ _ => .pure trivial

theorem ordinary_createIndex (hs : s.HostsAreValid) (hi : index.IsTextOrNull) :
    Always [] ((Depot.remote s).createIndex index) (fun _ _ => True) fun f _ => f.IsOrdinary :=
  .require_bind (fun _ => Failure.isOrdinary_emptyParameter _) fun _ =>
    ordinary_of_settled (settled_remoteCreateIndex hs hi) []

end Calls

namespace DepotCall

variable {s : Settings}

theorem ends_indexFile (hs : s.HostsAreValid) (request : Option IndexRequest) :
    Exchange.Ends (indexFile request).Closed
      ((indexFile request).perform (.remote s)) [] := by
  cases request with
  | none =>
    exact closed_of_ordinary (Failure.isOrdinary_emptyParameter _) (not_isMisreported rfl)
      (fun h => nomatch h) fun h => nomatch h
  | some r =>
    refine Always.outcome ((always_indexUnder hs rfl r (.ofOption r.hash)).mono ?_ ?_)
    · rintro receipt t ⟨hid, hh, hb⟩
      exact closed_of_receipt hid (congrArg some hh) (hh ▸ hb)
    · intro f t hf
      refine closed_of_indexingFails hf rfl fun hc hi => ?_
      rw [isComplete, hi] at hc
      cases hc

theorem not_isComplete_of_isBlank {content : Option Bytes} {r : IndexRequest}
    (h : (Json.str r.index).isBlank = true) :
    (storeAndIndexFile content (some r)).isComplete = false := by
  cases content with
  | none => rfl
  | some content =>
    rw [isComplete, show r.index.isEmpty = true from h]
    rfl

theorem ends_storeAndIndexFile (hs : s.HostsAreValid) (content : Option Bytes)
    (request : Option IndexRequest) :
    Exchange.Ends (storeAndIndexFile content request).Closed
      ((storeAndIndexFile content request).perform (.remote s)) [] := by
  cases request with
  | none =>
    exact closed_of_ordinary (Failure.isOrdinary_emptyParameter _) (not_isMisreported rfl)
      (fun h => by cases content <;> cases h) fun h => by cases content <;> cases h
  | some r =>
    refine Always.outcome (.require_bind (fun hi => ?_) fun hi => ?_)
    · refine closed_of_ordinary (Failure.isOrdinary_emptyParameter _) (not_isMisreported rfl)
        (fun hc => ?_) fun hc => ?_
      all_goals
        rw [not_isComplete_of_isBlank hi] at hc
        cases hc
    cases content with
    | none =>
      exact .throw_bind (closed_of_ordinary ⟨_, rfl, .head _⟩ (not_isMisreported rfl)
        (fun h => nomatch h) fun h => nomatch h)
    | some content =>
      refine .bind (m := fun hash t => t.length = 1 ∧ storedHash? t = some hash) (.shielded ?_) ?_
      · refine (always_remoteStore hs content).mono (fun _ _ h => h) ?_
        rintro f t ⟨⟨e, rfl, hk⟩, hlen, hnone⟩
        refine closed_of_ordinary (Failure.IsBackend.ordinary ⟨e, rfl, hk⟩)
          (not_isMisreported (writtenId?_of_length_le hlen)) (fun _ _ => ⟨e, rfl, hk⟩) ?_
        intro _ hash hh
        cases hnone.symm.trans hh
      rintro hash t ⟨hlen, hhash⟩
      have hno := writtenId?_of_length_le hlen.le
      refine .reportingOrphan (((always_indexUnder hs hno r hash).and (.grows _ t)).mono ?_ ?_)
      · rintro receipt t' ⟨⟨hid, rfl, hb⟩, hgrows⟩
        exact closed_of_receipt hid (storedHash?_of_grows hgrows hhash) hb
      · rintro f t' ⟨hf, hgrows⟩
        refine closed_of_indexingFails hf (storedHash?_of_grows hgrows hhash) fun hc hi => ?_
        rw [isComplete, hi] at hc
        cases hc

theorem ends_perform {s : Settings} (hs : s.HostsAreValid) (call : DepotCall)
    (hi : call.NamesIndex) : Exchange.Ends call.Closed (call.perform (.remote s)) [] := by
  cases call with
  | indexFile request => exact ends_indexFile hs request
  | storeAndIndexFile content request => exact ends_storeAndIndexFile hs content request
  | storeFile content =>
    exact ends_of_ordinary (fun _ => rfl) rfl (ordinary_storeFile hs content)
      fun a => ⟨fun _ h => (nomatch h), fun _ h => (nomatch h)⟩
  | fileByHash hash =>
    exact ends_of_ordinary (fun _ => rfl) rfl (ordinary_fileByHash hs hash)
      fun a => ⟨fun _ h => (nomatch h), fun _ h => (nomatch h)⟩
  | metadataById index id =>
    exact ends_of_ordinary (fun _ => rfl) rfl (ordinary_metadataById hs hi id)
      fun a => ⟨fun _ h => (nomatch h), fun _ h => (nomatch h)⟩
  | metadataByHash index hash =>
    exact ends_of_ordinary (fun _ => rfl) rfl (ordinary_metadataByHash hs hi hash)
      fun a => ⟨fun _ h => (nomatch h), fun _ h => (nomatch h)⟩
  | searchFiles index query pageable =>
    exact ends_of_ordinary (fun _ => rfl) rfl (ordinary_searchFiles hs hi query pageable)
      fun a => ⟨fun _ h => (nomatch h), fun _ h => (nomatch h)⟩
  | createIndex index =>
    exact ends_of_ordinary (fun _ => rfl) rfl (ordinary_createIndex hs hi)
      fun a => ⟨fun _ h => (nomatch h), fun _ h => (nomatch h)⟩

end DepotCall

/-- A request for a content that is stored under a hash. -/
def hashedRequest : IndexRequest := ⟨some "x", "docs", none, some "Qm1", [], none⟩

/-- Backends that let an index be, know no document and answer the write of one with a value. -/
def answeringWrite (v : Json) : World :=
  (World.initial false).prepare
    [.response ⟨200, .empty⟩, .response ⟨404, .empty⟩, .response ⟨201, .json v⟩,
      .response ⟨200, .empty⟩] []

end ContentDepot
