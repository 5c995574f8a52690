import ContentDepot.Proofs.Depot.Contents
import ContentDepot.Proofs.Index.Taxonomy
import ContentDepot.Proofs.Index.WriteOrder

/-!
# Errors and their bodies

A response that tells of an error has a body, which is searched for the text of the
error. That is possible of an object, and of a body that is no JSON at all, for then
there is nothing to search (`Body.isReadable`). Any other JSON value has no members,
and that fault takes the place of the error:

* `checked_bind`: a talk breaks off at a response for its status, or for its body;
* `breaksOff_writing`, `breaksOff_lookingUp`, `breaksOff_searching`: the first
  response that had to be a success and is none ends the talk;
* `errors_unmasked_iff_readable`: a failed call carries the status of that response
  exactly where its body can be searched, and so it is with fetching.
-/

namespace ContentDepot

open Search

/-! ## What can be searched for an error -/

/-- Whether a body can be searched for an error: it is an object, or it is not read as JSON. -/
def Body.isReadable (b : Body) : Bool :=
  match b.json? with
  | .ok (.obj _) => true
  | .ok _ => false
  | .error f => f.isValueFault

theorem errorType_eq_ok {r : Response} :
    (∃ type, errorType r = .ok type) ↔ r.body.isReadable = true := by
  unfold errorType Body.isReadable
  rcases r.body.json? with f | v
  · by_cases hf : f.isValueFault = true <;> simp [hf]
  · cases v with
    | obj members =>
      refine iff_of_true ?_ rfl
      simp only [Json.memberOrFault, Bind.bind, Except.bind]
      split <;> exact ⟨_, rfl⟩
    | _ =>
      refine iff_of_false ?_ Bool.false_ne_true
      rintro ⟨_, h⟩
      cases h

theorem saysAbsent_eq_ok {r : Response} :
    (∃ absent, ContentStore.saysAbsent r = .ok absent) ↔ r.body.isReadable = true := by
  unfold ContentStore.saysAbsent Body.isReadable
  rcases r.body.json? with f | v
  · by_cases hf : f.isValueFault = true <;> simp [hf]
  · cases v with
    | obj members => exact iff_of_true ⟨_, rfl⟩ rfl
    | _ =>
      refine iff_of_false ?_ Bool.false_ne_true
      rintro ⟨_, h⟩
      cases h

/-- What a talk breaks off for at a response that had to be a success: the status, or what went
wrong with the body. -/
inductive Trouble.IsOf (r : Response) : Trouble → Prop
  | status {detail : String} (h : r.body.isReadable = true) : IsOf r (.status r.status detail)
  | cause {c : Cause} (h : r.body.isReadable = false) : IsOf r (.cause c)

/-! ## Talks with the engine -/

/-- The response to the request has to be a success. A question whether an index is there may be
answered in any way, one for a document by its absence, and an index that is to be created may be
there. -/
def Request.Demands (r : Request) (resp : Response) : Prop :=
  r.verb ≠ .head ∧ ¬ (r.verb = .get ∧ resp.status = 404) ∧
    ¬ (r.payload = .json MetadataIndex.reservedKeysMapping ∧ DocumentWrite.IsCreated resp)

/-- Every response that had to be a success was one. -/
def IsSmooth (t : Traffic) : Prop :=
  ∀ r resp, (r, .response resp) ∈ t → r.Demands resp → resp.isSuccess = true

/-- A response that had to be a success and was none is what the talk broke off for. -/
def BreaksOff (trouble : Trouble) (t : Traffic) : Prop :=
  ∀ r resp, (r, .response resp) ∈ t → r.Demands resp → resp.isSuccess = false → trouble.IsOf resp

/-- After a smooth talk a request was answered with a response. -/
structure Hears (verb : Verb) (payload : Payload) (resp : Response) (t : Traffic) : Prop where
  heard : ∃ before r, IsSmooth before ∧ r.verb = verb ∧ r.payload = payload ∧
    t = before ++ [(r, .response resp)]

section Talks

variable {t : Traffic} {verb : Verb} {payload : Payload} {resp : Response} {trouble : Trouble}

theorem isSmooth_nil : IsSmooth [] := fun _ _ h => nomatch h

theorem IsSmooth.breaksOff (h : IsSmooth t) (trouble : Trouble) : BreaksOff trouble t := by
  intro r resp hm hd hno
  rw [h r resp hm hd] at hno
  cases hno

theorem IsSmooth.append {r : Request} {reply : Reply} (h : IsSmooth t)
    (hr : ∀ resp, reply = .response resp → r.Demands resp → resp.isSuccess = true) :
    IsSmooth (t ++ [(r, reply)]) := by
  intro r' resp hm hd
  rcases List.mem_append.1 hm with hm | hm
  · exact h r' resp hm hd
  · cases List.mem_singleton.1 hm
    exact hr resp rfl hd

namespace Hears

theorem smooth_of (h : Hears verb payload resp t)
    (hr : ∀ r : Request, r.verb = verb → r.payload = payload → r.Demands resp →
      resp.isSuccess = true) : IsSmooth t := by
  obtain ⟨before, r, hsmooth, hv, hp, rfl⟩ := h.heard
  refine hsmooth.append ?_
  rintro _ ⟨⟩ hd
  exact hr r hv hp hd

theorem breaksOff (h : Hears verb payload resp t) (htrouble : trouble.IsOf resp) :
    BreaksOff trouble t := by
  obtain ⟨before, r, hsmooth, -, -, rfl⟩ := h.heard
  intro r' resp' hm hd hno
  rcases List.mem_append.1 hm with hm | hm
  · rw [hsmooth r' resp' hm hd] at hno
    cases hno
  · cases List.mem_singleton.1 hm
    exact htrouble

end Hears

variable {e : Endpoint} {α : Type} {post : α → Traffic → Prop}

/-- One request after a smooth talk. -/
theorem hears_call {path : String} {query : List (String × String)}
    (he : e.address.base.scheme ≠ []) (ht : IsSmooth t) :
    Always t (e.call verb path query payload) (Hears verb payload) BreaksOff := by
  refine .call he (fun f => ht.breaksOff _) fun url r reply _ hm => ?_
  cases reply with
  | response resp => exact ⟨⟨t, r, ht, hm.verb, hm.payload, rfl⟩⟩
  | _ =>
    refine IsSmooth.breaksOff (ht.append ?_) _
    rintro _ ⟨⟩

/-- A talk that goes on only after a success breaks off at any other response for its status, or
for its body. -/
theorem checked_bind {f : Unit → Attempt α} (h : Hears verb payload resp t)
    (hf : resp.isSuccess = true → IsSmooth t → Always t (f ()) post BreaksOff) :
    Always t (check resp >>= f) post BreaksOff := by
  refine .bind (m := fun _ t' => resp.isSuccess = true ∧ t' = t) ?_ fun _ t' hmid => by
    obtain ⟨hs, rfl⟩ := hmid
    exact hf hs (h.smooth_of fun _ _ _ _ => hs)
  unfold check
  split
  · rename_i hs
    exact .pure ⟨hs, rfl⟩
  · refine .ofRead_bind (fun cause hc => h.breaksOff (.cause ?_)) fun type htype =>
      .throw (h.breaksOff (.status (errorType_eq_ok.1 ⟨type, htype⟩)))
    rw [← Bool.not_eq_true, ← errorType_eq_ok, hc]
    rintro ⟨_, ⟨⟩⟩

theorem not_isReadable_of_alreadyExists {r : Response} {cause : Cause}
    (h : MetadataIndex.alreadyExists r = .error cause) : r.body.isReadable = false := by
  unfold MetadataIndex.alreadyExists at h
  split at h
  · rw [← Bool.not_eq_true, ← errorType_eq_ok]
    rintro ⟨type, htype⟩
    rw [htype] at h
    cases h
  · cases h

theorem breaksOff_createIfMissing (he : e.address.base.scheme ≠ []) (ht : IsSmooth t)
    (name : String) (trust : Bool) :
    Always t (MetadataIndex.createIfMissing e name trust) (fun _ => IsSmooth) BreaksOff := by
  unfold MetadataIndex.createIfMissing
  refine .context_bind fun c => ?_
  split
  · exact .pure ht
  refine .bind (hears_call he ht) fun r t h => ?_
  have ht : IsSmooth t := h.smooth_of fun _ hv _ hd => absurd hv hd.1
  split
  · exact .modify ht
  refine .bind (hears_call he ht) fun r t h => ?_
  refine .ofRead_bind (fun cause hc => h.breaksOff (.cause (not_isReadable_of_alreadyExists hc)))
    fun known hknown => ?_
  split
  · rename_i hk
    rw [hk] at hknown
    exact .modify (h.smooth_of fun _ _ hp hd =>
      absurd ⟨hp, DocumentWrite.isCreated_of_alreadyExists hknown⟩ hd.2.2)
  · exact checked_bind h fun _ ht => .emit_bind (.modify ht)

theorem breaksOff_documentExists (he : e.address.base.scheme ≠ []) (ht : IsSmooth t)
    (name : String) (id : Json) :
    Always t (MetadataIndex.documentExists e name id) (fun _ => IsSmooth) BreaksOff := by
  unfold MetadataIndex.documentExists
  split
  · exact .pure ht
  refine .bind (hears_call he ht) fun r t h => ?_
  split
  · rename_i h404
    exact .pure (h.smooth_of fun _ hv _ hd => absurd ⟨hv, h404⟩ hd.2.1)
  refine checked_bind h fun _ ht => .ofRead_bind (fun _ _ => ht.breaksOff _) fun _ _ => ?_
  exact .ofRead_bind (fun _ _ => ht.breaksOff _) fun _ _ => .pure ht

theorem hears_writeDocument (he : e.address.base.scheme ≠ []) (ht : IsSmooth t) (name : String)
    (id : Json) (isThere : Bool) (source : Entries Json) :
    Always t (MetadataIndex.writeDocument e name id isThere source)
      (fun resp t' => ∃ verb payload, Hears verb payload resp t') BreaksOff := by
  have hcall : ∀ (verb : Verb) (path : String) (payload : Payload),
      Always t (e.call verb path [] payload)
        (fun resp t' => ∃ verb payload, Hears verb payload resp t') BreaksOff :=
    fun _ _ _ => (hears_call he ht).mono (fun _ _ h => ⟨_, _, h⟩) fun _ _ h => h
  unfold MetadataIndex.writeDocument
  split
  · exact hcall ..
  split
  · exact hcall ..
  · exact hcall ..

theorem breaksOff_writing (he : e.address.base.scheme ≠ []) (name : String) (id : Json)
    (source : Entries Json) (writable : Bool) :
    Always [] (MetadataIndex.writing e name id source writable) (fun _ => IsSmooth) BreaksOff := by
  unfold MetadataIndex.writing
  refine .bind (breaksOff_createIfMissing he isSmooth_nil ..) fun _ t ht => ?_
  refine .bind (breaksOff_documentExists he ht ..) fun isThere t ht => ?_
  split
  · exact .throw_bind (ht.breaksOff _)
  refine .bind (hears_writeDocument he ht ..) fun r t ⟨_, _, h⟩ => ?_
  refine checked_bind h fun _ ht => .ofRead_bind (fun _ _ => ht.breaksOff _) fun answer _ => ?_
  refine .ofRead_bind (fun _ _ => ht.breaksOff _) fun written _ => ?_
  exact .bind (hears_call he ht) fun r t h => checked_bind h fun _ ht => .pure ht

theorem breaksOff_lookingUp (he : e.address.base.scheme ≠ []) (name : String) (id : Json) :
    Always [] (MetadataIndex.lookingUp e name id) (fun _ => IsSmooth) BreaksOff := by
  unfold MetadataIndex.lookingUp
  refine .bind (hears_call he isSmooth_nil) fun r t h => ?_
  split
  · rename_i h404
    have ht : IsSmooth t := h.smooth_of fun _ hv _ hd => absurd ⟨hv, h404⟩ hd.2.1
    exact .throw_bind (ht.breaksOff _)
  refine checked_bind h fun _ ht => .ofRead_bind (fun _ _ => ht.breaksOff _) fun answer _ => ?_
  refine .ofRead_bind (fun _ _ => ht.breaksOff _) fun found _ => ?_
  split
  · exact .throw_bind (ht.breaksOff _)
  · exact .ofRead (fun _ _ => ht.breaksOff _) fun _ _ => ht

theorem breaksOff_searching (he : e.address.base.scheme ≠ []) (fill : Bool) (name : String)
    (query : Option Query) (pageable : Pageable) :
    Always [] (MetadataIndex.searching e fill name query pageable) (fun _ => IsSmooth)
      BreaksOff := by
  unfold MetadataIndex.searching
  refine .emitAll_bind (.bind (hears_call he isSmooth_nil) fun r t h => ?_)
  refine checked_bind h fun _ ht => .ofRead_bind (fun _ _ => ht.breaksOff _) fun answer _ => ?_
  exact .ofRead (fun _ _ => ht.breaksOff _) fun _ _ => ht

theorem breaksOff_counting (he : e.address.base.scheme ≠ []) (fill : Bool) (name : String)
    (query : Option Query) :
    Always [] (MetadataIndex.counting e fill name query) (fun _ => IsSmooth) BreaksOff := by
  unfold MetadataIndex.counting
  refine .emitAll_bind (.bind (hears_call he isSmooth_nil) fun r t h => ?_)
  refine checked_bind h fun _ ht => .ofRead_bind (fun _ _ => ht.breaksOff _) fun answer _ => ?_
  exact .ofRead (fun _ _ => ht.breaksOff _) fun _ _ => ht

end Talks

/-! ## Operations on the index -/

/-- The failure is an error of the backend. It carries the status of the response exactly where the
body of the response can be searched. -/
def Failure.IsFor (f : Failure) (resp : Response) : Prop :=
  ∃ error, f = .error error ∧ error.kind = .backend ∧
    (Entries.get? error.context "status" = some (.int resp.status) ↔ resp.body.isReadable = true)

/-- A response that had to be a success and was none is what the operation has failed for. -/
def FailsFor (f : Failure) (t : Traffic) : Prop :=
  ∀ r resp, (r, .response resp) ∈ t → r.Demands resp → resp.isSuccess = false → f.IsFor resp

/-- An operation that fails for the first response that had to be a success and was none. -/
def IsUnmasked {α : Type} (action : Action α) : Prop :=
  Always [] action (fun _ => IsSmooth) FailsFor

section Operations

variable {α : Type} {t : Traffic} {s : Settings} {index : Json}

theorem IsSmooth.failsFor (h : IsSmooth t) (f : Failure) : FailsFor f t := by
  intro r resp hm hd hno
  rw [h r resp hm hd] at hno
  cases hno

/-- A talk that has broken off is taken for a failure of the backend. -/
theorem fail_unmasked {activity : Activity} {name : String} {trouble : Trouble}
    {post : α → Traffic → Prop} (h : BreaksOff trouble t) :
    Always t (MetadataIndex.fail activity name trouble : Action α) post FailsFor := by
  refine .emit_bind ?_
  cases trouble with
  | status code detail =>
    refine .throw fun r resp hm hd hno => ?_
    cases h r resp hm hd hno with
    | status hread => exact ⟨_, rfl, rfl, iff_of_true rfl hread⟩
  | cause c =>
    refine .throw fun r resp hm hd hno => ?_
    cases h r resp hm hd hno with
    | cause hread =>
      refine ⟨_, rfl, rfl, iff_of_false (fun hget => nomatch hget) ?_⟩
      rw [hread]
      exact Bool.false_ne_true
  | absent => exact .throw fun r resp hm hd hno => nomatch h r resp hm hd hno

theorem IsUnmasked.guarded {activity : Activity} {name : String} {x : Attempt α}
    (h : Always [] x (fun _ => IsSmooth) BreaksOff) :
    IsUnmasked (x.guarded (MetadataIndex.fail activity name)) :=
  Always.guarded (h.mono (fun _ _ hs => hs) fun _ _ hb => fail_unmasked hb)

/-- An operation on an index that lacks nothing. -/
theorem IsUnmasked.opened {f : String → Endpoint → Action α} (hs : s.HostsAreValid)
    (hi : index.IsTextOrNull) (hb : index.isBlank = false)
    (h : ∀ name e, e.address.base.scheme ≠ [] → IsUnmasked (f name e)) :
    IsUnmasked (do
      let name ← MetadataIndex.lowered index
      let e ← connected s .engine
      f name e) :=
  Always.opened_bind hs hi hb fun name e _ he => h name e he

theorem IsUnmasked.required {v : Json} {name : String} {f : Unit → Action α}
    (h : v.isBlank = false → IsUnmasked (f ())) :
    IsUnmasked (Action.require v name >>= f) :=
  Always.require_bind (fun _ => isSmooth_nil.failsFor _) h

theorem unmasked_remoteWrite (hs : s.HostsAreValid) (hi : index.IsTextOrNull)
    (id hash contentType : Json) (fields : Option (List IndexField)) :
    IsUnmasked (MetadataIndex.remoteWrite s index id hash contentType fields) :=
  .required fun hb => .required fun _ => .opened hs hi hb fun name _ he =>
    .guarded (breaksOff_writing he name ..)

theorem unmasked_remoteLookUp (hs : s.HostsAreValid) (hi : index.IsTextOrNull) (id : Json) :
    IsUnmasked (MetadataIndex.remoteLookUp s index id) := by
  refine .required fun hb => .required fun _ => .opened hs hi hb fun name e he => ?_
  refine Always.guarded ((breaksOff_lookingUp he name id).mono (fun _ _ h => h) ?_)
  intro trouble t h
  cases trouble with
  | absent =>
    exact .emit_bind (.throw fun r resp hm hd hno => nomatch h r resp hm hd hno)
  | _ => exact fail_unmasked h

theorem unmasked_remoteSearch (hs : s.HostsAreValid) (hi : index.IsTextOrNull)
    (query : Option Query) (pageable : Option Pageable) :
    IsUnmasked (MetadataIndex.remoteSearch s pageable index query) := by
  cases pageable with
  | none => exact Always.throw (isSmooth_nil.failsFor _)
  | some pageable =>
    exact .required fun hb => .opened hs hi hb fun name _ he =>
      .guarded (breaksOff_searching he _ name query pageable)

theorem unmasked_remoteCount (hs : s.HostsAreValid) (hi : index.IsTextOrNull)
    (query : Option Query) : IsUnmasked (MetadataIndex.remoteCount s index query) :=
  .required fun hb => .opened hs hi hb fun name _ he =>
    .guarded (breaksOff_counting he _ name query)

theorem unmasked_remoteCreateIndex (hs : s.HostsAreValid) (hi : index.IsTextOrNull) :
    IsUnmasked (MetadataIndex.remoteCreateIndex s index) :=
  .required fun hb => .opened hs hi hb fun name _ he =>
    .guarded ((breaksOff_createIfMissing he isSmooth_nil name false))

/-- A call whose operation fails for the first response that had to be a success and was none. -/
theorem ends_of_unmasked {action : Action α} {give : α → Outcome} (h : IsUnmasked action) :
    Exchange.Ends (fun o t => ∀ r resp, (r, .response resp) ∈ t → r.Demands resp →
      resp.isSuccess = false → ∃ f, o = .failed f ∧ f.IsFor resp)
      (Outcome.ofAction give action) [] := by
  refine Always.outcome (Always.mono h (fun a t hsmooth r resp hm hd hno => ?_)
    fun f t hf r resp hm hd hno => ⟨f, rfl, hf r resp hm hd hno⟩)
  rw [hsmooth r resp hm hd] at hno
  cases hno

theorem IndexCall.ends_unmasked (hs : s.HostsAreValid) (call : IndexCall) (hi : call.NamesIndex)
    (hc : call ≠ .healthy) :
    Exchange.Ends (fun o t => ∀ r resp, (r, .response resp) ∈ t → r.Demands resp →
      resp.isSuccess = false → ∃ f, o = .failed f ∧ f.IsFor resp)
      (call.perform (.remote s)) [] := by
  cases call with
  | write index id hash contentType fields =>
    exact ends_of_unmasked (unmasked_remoteWrite hs hi id hash contentType fields)
  | lookUp index id => exact ends_of_unmasked (unmasked_remoteLookUp hs hi id)
  | search index query pageable =>
    exact ends_of_unmasked (unmasked_remoteSearch hs hi query pageable)
  | count index query => exact ends_of_unmasked (unmasked_remoteCount hs hi query)
  | createIndex index => exact ends_of_unmasked (unmasked_remoteCreateIndex hs hi)
  | healthy => exact absurd rfl hc

end Operations

/-! ## Fetching -/

/-- The content is said to be absent, or the backend to have failed. -/
def Failure.IsTold (f : Failure) : Prop :=
  ∃ error, f = .error error ∧ (error.kind = .notFound ∨ error.kind = .backend)

/-- Fetching that fails for a response that is no success: it tells so, unless the response is taken
for one that may say that there is no content, and its body cannot be searched for that. -/
theorem always_remoteFetch_told {s : Settings} (hs : s.HostsAreValid) (hash : Json) :
    Always [] (ContentStore.remoteFetch s hash)
      (fun _ t => ∀ r resp, (r, .response resp) ∈ t → resp.isSuccess = true)
      fun f t => ∀ r resp, (r, .response resp) ∈ t → resp.isSuccess = false →
        (f.IsTold ↔ (resp.status = 500 → resp.body.isReadable = true)) := by
  rw [ContentStore.remoteFetch_eq]
  refine .require_bind (fun _ _ _ hm => absurd hm List.not_mem_nil) fun _ => ?_
  refine .connected_bind hs fun e _ he => ?_
  refine .bind (m := fun resp t => ∃ r, t = [(r, .response resp)]) (.guarded (.call he ?_ ?_)) ?_
  · exact fun f => .failWith fun _ _ _ _ hm => absurd hm List.not_mem_nil
  · intro url r reply _ _
    cases reply with
    | response resp => exact ⟨r, rfl⟩
    | _ =>
      refine .failWith fun _ _ r' resp hm => ?_
      cases List.mem_singleton.1 hm
  rintro resp t ⟨r, rfl⟩
  have honly : ∀ r' resp', (r', Reply.response resp') ∈ [(r, .response resp)] → resp' = resp := by
    intro r' resp' hm
    cases List.mem_singleton.1 hm
    rfl
  have hdelivered : ∀ absent : Bool, (resp.status = 500 → resp.body.isReadable = true) →
      (absent = true → resp.isSuccess = false) →
      Always [(r, .response resp)] (ContentStore.delivered hash resp absent)
        (fun _ t => ∀ r resp, (r, .response resp) ∈ t → resp.isSuccess = true)
        fun f t => ∀ r resp, (r, .response resp) ∈ t → resp.isSuccess = false →
          (f.IsTold ↔ (resp.status = 500 → resp.body.isReadable = true)) := by
    intro absent hread habsent
    unfold ContentStore.delivered
    split
    · refine .emit_bind (.throw fun r' resp' hm _ => ?_)
      rw [honly r' resp' hm]
      exact iff_of_true ⟨_, rfl, .inl rfl⟩ hread
    split
    · refine .emit_bind (.throw fun r' resp' hm _ => ?_)
      rw [honly r' resp' hm]
      exact iff_of_true ⟨_, rfl, .inr rfl⟩ hread
    · rename_i hstatus
      refine .pure fun r' resp' hm => ?_
      rw [honly r' resp' hm, Response.isSuccess, not_not.1 hstatus]
      rfl
  have hfailure : ∀ {status : Int}, 299 < status → resp.status = status →
      resp.isSuccess = false := by
    intro status hlt hstatus
    rw [Response.isSuccess, hstatus, Bool.and_eq_false_iff]
    exact .inr (decide_eq_false (by omega))
  unfold ContentStore.fetched
  dsimp only
  split
  · rename_i h404
    refine ⟨(hdelivered true (fun h500 => ?_) fun _ => hfailure (by decide) h404).ends⟩
    rw [h404] at h500
    cases h500
  split
  · rename_i h500
    split
    · rename_i absent habsent
      exact ⟨(hdelivered absent (fun _ => saysAbsent_eq_ok.1 ⟨_, habsent⟩)
        fun _ => hfailure (by decide) h500).ends⟩
    · rename_i f hf
      refine .throw_bind fun r' resp' hm _ => ?_
      rw [honly r' resp' hm]
      refine iff_of_false ?_ fun hread => ?_
      · rintro ⟨_, h, -⟩
        cases h
      obtain ⟨_, hok⟩ := saysAbsent_eq_ok.2 (hread h500)
      cases hok.symm.trans hf
  · rename_i h500
    exact ⟨(hdelivered false (fun h => absurd h h500) fun h => absurd h Bool.false_ne_true).ends⟩

/-! ## Calls -/

/-- Backends that answer everything with one response. -/
def answeringAll (resp : Response) (_ : Request) (w : Unit) : Reply × Unit := (.response resp, w)

end ContentDepot
