import ContentDepot.Proofs.Entries
import ContentDepot.Proofs.Lists
import ContentDepot.Proofs.Session.Traffic
import ContentDepot.Query.Builder

/-!
# How operations on the index end

Whatever the engine answers, an operation on the index behind it gives its result
or fails with an error of the depot. Which error it is can be read off the
arguments and the answers alone:

* `always_lookingUp`: a document is absent where the answer to the one request
  says so, and nowhere else;
* `always_searching`: the records of a search are those of all hits, in their order;
* `answered_indexCall`: the same of every call (`IndexCall.Answered`).
-/

namespace ContentDepot

open Search

/-! ## What answers say -/

/-- The engine says that a document is not there: by the status, or in an object that does not
report it as found. -/
def Response.SaysNoDocument (r : Response) : Prop :=
  r.status = 404 ∨ r.isSuccess = true ∧ ∃ members, r.body.json? = .ok (.obj members) ∧
    ((Entries.get? members "found").getD .null).truthy = false

/-- A request that reads was answered so. -/
def SaysNoDocument (t : Traffic) : Prop :=
  ∃ r resp, (r, .response resp) ∈ t ∧ r.verb = .get ∧ resp.SaysNoDocument

theorem not_saysNoDocument_nil : ¬ SaysNoDocument [] := by
  rintro ⟨r, resp, hmem, -⟩
  cases hmem

theorem saysNoDocument_single {r : Request} {resp : Response} (hr : r.verb = .get) :
    SaysNoDocument [(r, .response resp)] ↔ resp.SaysNoDocument := by
  constructor
  · rintro ⟨r', resp', hmem, -, hreport⟩
    cases List.mem_singleton.1 hmem
    exact hreport
  · exact fun hreport => ⟨r, resp, List.mem_singleton.2 rfl, hr, hreport⟩

/-- The hits that an answer lists, if it has the shape for it. -/
def hitValues? (answer : Json) : Option (List Json) :=
  match hitsMember answer "hits" with
  | .ok member => Query.itemsOf? (member.getD (.arr []))
  | .error _ => none

theorem Response.json_eq_ok {r : Response} {v : Json} :
    r.json = .ok v ↔ r.body.json? = .ok v := by
  unfold Response.json
  rcases r.body.json? with f | v'
  · exact iff_of_false (fun h => nomatch h) fun h => nomatch h
  · rw [Except.ok.injEq, Except.ok.injEq]

theorem Json.memberOrFault_eq_ok {v : Json} {key : String} {found : Option Json} :
    v.memberOrFault key = .ok found ↔
      ∃ members, v = .obj members ∧ Entries.get? members key = found := by
  cases v with
  | obj members =>
    rw [Json.memberOrFault, Except.ok.injEq]
    exact ⟨fun h => ⟨members, rfl, h⟩, fun ⟨_, heq, h⟩ => by cases heq; exact h⟩
  | _ => exact iff_of_false (fun h => nomatch h) fun ⟨_, heq, _⟩ => nomatch heq

/-! ## Records of hits -/

/-- The record is what is read of the hit: its index and its identifier are those of the hit, and
no reserved key is among its fields. -/
structure Metadata.IsRecordOf (m : Metadata) (hit : Json) : Prop where
  read : readHit hit = .ok m
  names : ∃ members, hit = .obj members ∧ Entries.get? members "_index" = some (.str m.index) ∧
    Entries.get? members "_id" = some (.str m.id)
  hash : hashKey ∉ Entries.keys m.fields
  contentType : contentTypeKey ∉ Entries.keys m.fields

theorem Entries.not_mem_keys_erase {α : Type} (m : Entries α) (key : String) :
    key ∉ keys (erase m key) := by
  intro h
  obtain ⟨e, he, hkey⟩ := List.mem_map.1 h
  exact absurd hkey (by simpa using (List.mem_filter.1 he).2)

theorem Entries.mem_keys_of_erase {α : Type} {m : Entries α} {key key' : String}
    (h : key ∈ keys (erase m key')) : key ∈ keys m := by
  obtain ⟨e, he, rfl⟩ := List.mem_map.1 h
  exact List.mem_map_of_mem (List.mem_of_mem_filter he)

theorem isRecordOf_of_readHit {hit : Json} {m : Metadata} (h : readHit hit = .ok m) :
    m.IsRecordOf hit := by
  have hread := h
  cases hit with
  | obj members =>
    simp only [readHit, metadataOf] at h
    rcases hd : documentOf ((Entries.get? members "_source").getD .null) with f | ⟨texts, document⟩
    · rw [hd] at h
      cases h
    rw [hd] at h
    rcases hi : Entries.get? members "_index" with _ | (_ | _ | _ | _ | index | _ | _) <;>
      rcases hid : Entries.get? members "_id" with _ | (_ | _ | _ | _ | id | _ | _) <;>
      cases texts <;> simp only [hi, hid] at h <;> cases h
    exact ⟨hread, ⟨members, rfl, hi, hid⟩,
      fun hmem => Entries.not_mem_keys_erase document hashKey (Entries.mem_keys_of_erase hmem),
      Entries.not_mem_keys_erase _ _⟩
  | _ => cases h

/-- The hits that were read are all that the answer lists. -/
theorem forall₂_of_hitsOf {answer : Json} {ms : List Metadata} (h : hitsOf answer = .ok ms) :
    ∃ hits, hitValues? answer = some hits ∧
      List.Forall₂ (fun hit m => m.IsRecordOf hit) hits ms := by
  have hread : ∀ items : List Json, items.mapM readHit = .ok ms →
      List.Forall₂ (fun hit m => m.IsRecordOf hit) items ms := fun _ hm =>
    (forall₂_of_mapM hm).imp fun _ _ => isRecordOf_of_readHit
  rw [hitsOf] at h
  rcases hm : hitsMember answer "hits" with c | member <;> rw [hm] at h
  · cases h
  simp only [hitValues?, hm]
  simp only [Bind.bind, Except.bind] at h
  -- A text or an object has items too, but none that could be read.
  split at h
  case h_1 items hvalue => exact ⟨items, by rw [hvalue]; rfl, hread items h⟩
  case h_2 hvalue =>
    cases h
    exact ⟨[], by rw [hvalue]; rfl, .nil⟩
  case h_3 hvalue =>
    cases h
    exact ⟨[], by rw [hvalue]; rfl, .nil⟩
  all_goals cases h

/-! ## Attempts -/

section Attempts

variable {e : Endpoint}

/-- A document is absent exactly where the answer to the one request says so. -/
theorem always_lookingUp (he : e.address.base.scheme ≠ []) (name : String) (id : Json) :
    Always [] (MetadataIndex.lookingUp e name id)
      (fun m t => (∃ hit, m.IsRecordOf hit) ∧ ¬ SaysNoDocument t)
      (fun trouble t => trouble = .absent ↔ SaysNoDocument t) := by
  unfold MetadataIndex.lookingUp
  refine .bind (m := fun resp t => ∃ r : Request, r.verb = .get ∧ t = [(r, .response resp)])
    (.call he ?_ ?_) ?_
  · exact fun f => iff_of_false (fun h => nomatch h) not_saysNoDocument_nil
  · intro url r reply _ hm
    cases reply with
    | response resp => exact ⟨r, hm.verb, rfl⟩
    | _ =>
      refine iff_of_false (fun h => nomatch h) ?_
      rintro ⟨r', resp, hmem, -⟩
      cases List.mem_singleton.1 hmem
  rintro resp t ⟨r, hr, rfl⟩
  have hreport : SaysNoDocument [(r, .response resp)] ↔ resp.SaysNoDocument :=
    saysNoDocument_single hr
  split
  · rename_i h404
    exact .throw_bind (iff_of_true rfl (hreport.2 (.inl h404)))
  rename_i h404
  refine .check_bind (fun hs => ?_) fun hs => ?_
  · have hno : ¬ SaysNoDocument [(r, .response resp)] := by
      rw [hreport, Response.SaysNoDocument, hs]
      simp [h404]
    exact ⟨fun _ => iff_of_false (fun h => nomatch h) hno,
      fun _ => iff_of_false (fun h => nomatch h) hno⟩
  have hreport : SaysNoDocument [(r, .response resp)] ↔ ∃ members,
      resp.body.json? = .ok (.obj members) ∧
        ((Entries.get? members "found").getD .null).truthy = false := by
    rw [hreport, Response.SaysNoDocument, hs]
    simp [h404]
  refine .ofRead_bind (fun cause hj => iff_of_false (fun h => nomatch h) ?_) fun answer hj => ?_
  · rintro hsaid
    obtain ⟨members, hm, -⟩ := hreport.1 hsaid
    rw [Response.json_eq_ok.2 hm] at hj
    cases hj
  refine .ofRead_bind (fun cause hf => iff_of_false (fun h => nomatch h) ?_) fun found hf => ?_
  · rintro hsaid
    obtain ⟨members, hm, -⟩ := hreport.1 hsaid
    rw [Response.json_eq_ok, hm, Except.ok.injEq] at hj
    subst hj
    cases hf
  obtain ⟨members, rfl, rfl⟩ := Json.memberOrFault_eq_ok.1 hf
  rw [Response.json_eq_ok] at hj
  have hreport : SaysNoDocument [(r, .response resp)] ↔
      ((Entries.get? members "found").getD .null).truthy = false := by
    rw [hreport, hj]
    exact ⟨fun ⟨_, heq, hfound⟩ => by cases heq; exact hfound, fun hfound => ⟨_, rfl, hfound⟩⟩
  cases hfound : ((Entries.get? members "found").getD .null).truthy with
  | false => exact .throw_bind (iff_of_true rfl (hreport.2 hfound))
  | true =>
    have hno : ¬ SaysNoDocument [(r, .response resp)] := fun hsaid => by
      rw [hreport.1 hsaid] at hfound
      cases hfound
    exact .ofRead (fun _ _ => iff_of_false (fun h => nomatch h) hno)
      fun m hm => ⟨⟨_, isRecordOf_of_readHit hm⟩, hno⟩

/-- The records of a search are those of all hits that the answer to its one request lists. -/
def IsAnswerOf (ms : List Metadata) (t : Traffic) : Prop :=
  ∃ r resp answer hits, t = [(r, .response resp)] ∧ resp.isSuccess = true ∧
    resp.body.json? = .ok answer ∧ hitValues? answer = some hits ∧
    List.Forall₂ (fun hit m => m.IsRecordOf hit) hits ms

theorem always_searching (he : e.address.base.scheme ≠ []) (fill : Bool) (name : String)
    (query : Option Query) (pageable : Pageable) :
    Always [] (MetadataIndex.searching e fill name query pageable) IsAnswerOf
      fun _ _ => True := by
  unfold MetadataIndex.searching
  refine .emitAll_bind (.bind (m := fun resp t => ∃ r, t = [(r, .response resp)])
    (.call he (fun _ => trivial) ?_) ?_)
  · intro url r reply _ _
    cases reply with
    | response resp => exact ⟨r, rfl⟩
    | _ => exact trivial
  rintro resp t ⟨r, rfl⟩
  refine .check_bind (fun _ => ⟨fun _ => trivial, fun _ => trivial⟩) fun hs => ?_
  refine .ofRead_bind (fun _ _ => trivial) fun answer hj => .ofRead (fun _ _ => trivial) ?_
  intro ms hms
  obtain ⟨hits, hhits, hread⟩ := forall₂_of_hitsOf hms
  exact ⟨r, resp, answer, hits, rfl, hs, Response.json_eq_ok.1 hj, hhits, hread⟩

end Attempts

/-! ## Operations -/

section Operations

variable {s : Settings} {index : Json}

/-- How an operation on the index ends, given whether a required parameter is lacking and whether
the answers say that a document is absent: only an operation that lacks nothing sends requests,
and beyond what is lacking and what is absent all failures are the backend's. -/
def IsSettled {α : Type} (lacks : Bool) (absent : Traffic → Prop) (post : α → Traffic → Prop)
    (action : Action α) : Prop :=
  Always [] action (fun a t => lacks = false ∧ ¬ absent t ∧ post a t) fun f t =>
    (lacks = true ∧ t = [] ∧ ∃ name, f = .error (.emptyParameter name)) ∨
      lacks = false ∧ ∃ e, f = .error e ∧
        (absent t ∧ e.kind = .notFound ∨ ¬ absent t ∧ e.kind = .backend)

/-- An operation that lacks nothing, and whose troubles are all the backend's. -/
theorem settled_guarded {α : Type} {post : α → Traffic → Prop} {attempt : Attempt α}
    {activity : Activity} {name : String} (h : Always [] attempt post fun _ _ => True) :
    IsSettled false (fun _ => False) post
      (attempt.guarded (MetadataIndex.fail activity name)) :=
  .guarded (h.mono (fun _ _ ha => ⟨rfl, not_false, ha⟩)
    fun _ _ _ => .fail fun e he => .inr ⟨rfl, e, rfl, .inr ⟨not_false, he⟩⟩)

theorem settled_remoteWrite (hs : s.HostsAreValid) (hi : index.IsTextOrNull)
    (id hash contentType : Json) (fields : Option (List IndexField)) :
    IsSettled (index.isBlank || hash.isBlank) (fun _ => False) (fun _ _ => True)
      (MetadataIndex.remoteWrite s index id hash contentType fields) := by
  refine .require_bind (fun hb => .inl ⟨by rw [hb]; rfl, rfl, _, rfl⟩) fun hb => ?_
  refine .require_bind (fun hh => .inl ⟨by rw [hh, Bool.or_true], rfl, _, rfl⟩) fun hh => ?_
  rw [hb, hh]
  exact .opened_bind hs hi hb fun name e _ _ => settled_guarded (.trivially _ _)

theorem settled_remoteLookUp (hs : s.HostsAreValid) (hi : index.IsTextOrNull) (id : Json) :
    IsSettled (index.isBlank || id.isBlank) SaysNoDocument
      (fun m _ => ∃ hit, m.IsRecordOf hit) (MetadataIndex.remoteLookUp s index id) := by
  refine .require_bind (fun hb => .inl ⟨by rw [hb]; rfl, rfl, _, rfl⟩) fun hb => ?_
  refine .require_bind (fun hid => .inl ⟨by rw [hid, Bool.or_true], rfl, _, rfl⟩) fun hid => ?_
  rw [hb, hid]
  refine .opened_bind hs hi hb fun name e _ he => .guarded ?_
  refine (always_lookingUp he name id).mono (fun m t hm => ⟨rfl, hm.2, hm.1⟩) ?_
  intro trouble t habsent
  cases trouble with
  | absent =>
    exact .emit_bind (.throw (.inr ⟨rfl, _, rfl, .inl ⟨habsent.1 rfl, rfl⟩⟩))
  | _ =>
    have hno : ¬ SaysNoDocument t := fun h => nomatch habsent.2 h
    exact .fail fun e he => .inr ⟨rfl, e, rfl, .inr ⟨hno, he⟩⟩

theorem settled_remoteSearch (hs : s.HostsAreValid) (hi : index.IsTextOrNull)
    (query : Option Query) (pageable : Option Pageable) :
    IsSettled (pageable.isNone || index.isBlank) (fun _ => False) IsAnswerOf
      (MetadataIndex.remoteSearch s pageable index query) := by
  cases pageable with
  | none => exact .throw (.inl ⟨rfl, rfl, _, rfl⟩)
  | some pageable =>
    refine .require_bind (fun hb => .inl ⟨by rw [hb]; rfl, rfl, _, rfl⟩) fun hb => ?_
    rw [hb]
    exact .opened_bind hs hi hb fun name e _ he => settled_guarded (always_searching he ..)

theorem settled_remoteCount (hs : s.HostsAreValid) (hi : index.IsTextOrNull)
    (query : Option Query) :
    IsSettled index.isBlank (fun _ => False) (fun _ _ => True)
      (MetadataIndex.remoteCount s index query) := by
  refine .require_bind (fun hb => .inl ⟨hb, rfl, _, rfl⟩) fun hb => ?_
  rw [hb]
  exact .opened_bind hs hi hb fun name e _ _ => settled_guarded (.trivially _ _)

theorem settled_remoteCreateIndex (hs : s.HostsAreValid) (hi : index.IsTextOrNull) :
    IsSettled index.isBlank (fun _ => False) (fun _ _ => True)
      (MetadataIndex.remoteCreateIndex s index) := by
  refine .require_bind (fun hb => .inl ⟨hb, rfl, _, rfl⟩) fun hb => ?_
  rw [hb]
  exact .opened_bind hs hi hb fun name e _ _ => settled_guarded (.trivially _ _)

/-- Asking for the state of the engine never fails. -/
theorem always_remoteHealthy (hs : s.HostsAreValid) :
    Always [] (MetadataIndex.remoteHealthy s) (fun _ _ => True) fun _ _ => False :=
  .connected_bind hs fun _ _ _ => .guarded ((Always.trivially _ _).mono (fun _ _ _ => trivial)
    fun _ _ _ => .emit_bind (.pure trivial))

end Operations

/-! ## Calls -/

/-- The outcome is a failure with an error of the kind. -/
def Outcome.FailsWith (o : Outcome) (kind : ErrorKind) : Prop :=
  ∃ e, o = .failed (.error e) ∧ e.kind = kind

/-- The records that an outcome gives. -/
def Outcome.given : Outcome → List Metadata
  | metadata m => [m]
  | records ms => ms
  | _ => []

namespace IndexCall

/-- The index is asked for by a text or null. -/
def NamesIndex : IndexCall → Prop
  | write index .. | lookUp index _ | search index .. | count index _ | createIndex index =>
    index.IsTextOrNull
  | healthy => True

/-- Whether a required parameter is null or empty. -/
def lacksParameter : IndexCall → Bool
  | write index _ hash .. => index.isBlank || hash.isBlank
  | lookUp index id => index.isBlank || id.isBlank
  | search index _ pageable => pageable.isNone || index.isBlank
  | count index _ | createIndex index => index.isBlank
  | healthy => false

/-- The call looks a document up that is not there, as the answers say. -/
def FindsNone : IndexCall → Traffic → Prop
  | lookUp .., t => SaysNoDocument t
  | _, _ => False

/-- How a call on the index ends, given the requests it has sent and the answers to them. -/
structure Answered (call : IndexCall) (outcome : Outcome) (t : Traffic) : Prop where
  kinds : ∀ f, outcome = .failed f →
    ∃ e, f = .error e ∧ e.kind ∈ [ErrorKind.validation, .notFound, .backend]
  validation : outcome.FailsWith .validation ↔ call.lacksParameter = true
  unsent : call.lacksParameter = true → t = []
  notFound : outcome.FailsWith .notFound ↔ call.FindsNone t
  complete : ∀ ms, outcome = .records ms → IsAnswerOf ms t
  unreserved : ∀ m ∈ outcome.given,
    hashKey ∉ Entries.keys m.fields ∧ contentTypeKey ∉ Entries.keys m.fields
  healthy : call = .healthy → ∃ b, outcome = .flag b

variable {call : IndexCall} {t : Traffic}

theorem answered_of_lacking {name : String} (h : call.lacksParameter = true) :
    call.Answered (.failed (.error (.emptyParameter name))) [] where
  kinds := by
    rintro f ⟨⟩
    exact ⟨_, rfl, .head _⟩
  validation := iff_of_true ⟨_, rfl, rfl⟩ h
  unsent _ := rfl
  notFound := by
    refine iff_of_false ?_ ?_
    · rintro ⟨e, ⟨⟩, hk⟩
      cases hk
    · cases call <;> first | exact not_saysNoDocument_nil | exact id
  complete ms h := nomatch h
  unreserved m hm := nomatch hm
  healthy hc := by
    subst hc
    cases h

theorem answered_of_refused {e : StoreError} (hc : call ≠ .healthy)
    (hl : call.lacksParameter = false)
    (he : call.FindsNone t ∧ e.kind = .notFound ∨ ¬ call.FindsNone t ∧ e.kind = .backend) :
    call.Answered (.failed (.error e)) t where
  kinds := by
    rintro f ⟨⟩
    refine ⟨e, rfl, ?_⟩
    rcases he with ⟨-, hk⟩ | ⟨-, hk⟩ <;> rw [hk] <;> decide
  validation := by
    rw [hl]
    refine iff_of_false ?_ Bool.false_ne_true
    rintro ⟨e', ⟨⟩, hk'⟩
    rcases he with ⟨-, hk⟩ | ⟨-, hk⟩ <;> rw [hk] at hk' <;> cases hk'
  unsent h := by
    rw [hl] at h
    cases h
  notFound := by
    rcases he with ⟨hn, hk⟩ | ⟨hn, hk⟩
    · exact iff_of_true ⟨e, rfl, hk⟩ hn
    · refine iff_of_false ?_ hn
      rintro ⟨e', ⟨⟩, hk'⟩
      rw [hk] at hk'
      cases hk'
  complete ms h := nomatch h
  unreserved m hm := nomatch hm
  healthy h := absurd h hc

theorem answered_of_result {o : Outcome} (ho : ∀ f, o ≠ .failed f)
    (hl : call.lacksParameter = false) (hn : ¬ call.FindsNone t)
    (hcomplete : ∀ ms, o = .records ms → IsAnswerOf ms t)
    (hgiven : ∀ m ∈ o.given, ∃ hit, m.IsRecordOf hit)
    (hhealthy : call = .healthy → ∃ b, o = .flag b) : call.Answered o t where
  kinds f h := absurd h (ho f)
  validation := by
    rw [hl]
    refine iff_of_false ?_ Bool.false_ne_true
    rintro ⟨e, h, -⟩
    exact ho _ h
  unsent h := by
    rw [hl] at h
    cases h
  notFound := by
    refine iff_of_false ?_ hn
    rintro ⟨e, h, -⟩
    exact ho _ h
  complete := hcomplete
  unreserved m hm := by
    obtain ⟨hit, h⟩ := hgiven m hm
    exact ⟨h.hash, h.contentType⟩
  healthy := hhealthy

/-- A settled operation ends as its call is to end, if its results are given as they should. -/
theorem ends_of_settled {α : Type} {post : α → Traffic → Prop} {action : Action α}
    {give : α → Outcome} (hc : call ≠ .healthy)
    (h : IsSettled call.lacksParameter call.FindsNone post action)
    (hgive : ∀ a t, post a t → (∀ f, give a ≠ .failed f) ∧
      (∀ ms, give a = .records ms → IsAnswerOf ms t) ∧
      ∀ m ∈ (give a).given, ∃ hit, m.IsRecordOf hit) :
    Exchange.Ends call.Answered (Outcome.ofAction give action) [] := by
  refine Always.outcome (Always.mono h ?_ ?_)
  · rintro a t ⟨hl, hn, ha⟩
    obtain ⟨ho, hcomplete, hgiven⟩ := hgive a t ha
    exact answered_of_result ho hl hn hcomplete hgiven fun h => absurd h hc
  · rintro f t (⟨hl, rfl, name, rfl⟩ | ⟨hl, e, rfl, he⟩)
    · exact answered_of_lacking hl
    · exact answered_of_refused hc hl he

/-- The same for an operation that gives no records. -/
theorem ends_of_settled_bare {α : Type} {action : Action α} {give : α → Outcome}
    (hc : call ≠ .healthy)
    (h : IsSettled call.lacksParameter call.FindsNone (fun _ _ => True) action)
    (hgive : ∀ a, (∀ f, give a ≠ .failed f) ∧ (∀ ms, give a ≠ .records ms) ∧
      (give a).given = []) :
    Exchange.Ends call.Answered (Outcome.ofAction give action) [] :=
  ends_of_settled hc h fun a _ _ => ⟨(hgive a).1, fun ms h => absurd h ((hgive a).2.1 ms),
    fun m hm => by rw [(hgive a).2.2] at hm; cases hm⟩

theorem exists_isRecordOf {ms : List Metadata} (h : IsAnswerOf ms t) {m : Metadata}
    (hm : m ∈ ms) : ∃ hit, m.IsRecordOf hit := by
  obtain ⟨_, _, _, hits, -, -, -, -, hread⟩ := h
  obtain ⟨hit, -, hrecord⟩ := exists_of_forall₂ hread hm
  exact ⟨hit, hrecord⟩

/-- Whatever is answered, a call on the index ends as it should. -/
theorem ends_perform {s : Settings} (hs : s.HostsAreValid) (call : IndexCall)
    (hi : call.NamesIndex) :
    Exchange.Ends call.Answered (call.perform (.remote s)) [] := by
  cases call with
  | write index id hash contentType fields =>
    exact ends_of_settled_bare (fun h => nomatch h) (settled_remoteWrite hs hi ..)
      fun a => ⟨fun _ h => (nomatch h), fun _ h => (nomatch h), rfl⟩
  | lookUp index id =>
    refine ends_of_settled (fun h => nomatch h) (settled_remoteLookUp hs hi id)
      fun m _ hm => ⟨fun _ h => (nomatch h), fun _ h => (nomatch h), ?_⟩
    intro m' hm'
    rwa [List.mem_singleton.1 hm']
  | search index query pageable =>
    refine ends_of_settled (fun h => nomatch h) (settled_remoteSearch hs hi query pageable)
      fun ms t hms => ⟨fun _ h => (nomatch h), ?_, fun m hm => exists_isRecordOf hms hm⟩
    rintro ms' ⟨⟩
    exact hms
  | count index query =>
    exact ends_of_settled_bare (fun h => nomatch h) (settled_remoteCount hs hi query)
      fun a => ⟨fun _ h => (nomatch h), fun _ h => (nomatch h), rfl⟩
  | createIndex index =>
    exact ends_of_settled_bare (fun h => nomatch h) (settled_remoteCreateIndex hs hi)
      fun a => ⟨fun _ h => (nomatch h), fun _ h => (nomatch h), rfl⟩
  | healthy =>
    exact Always.outcome ((always_remoteHealthy hs).mono
      (fun b t _ => answered_of_result (fun _ h => nomatch h) rfl id (fun _ h => nomatch h)
        (fun _ h => nomatch h) fun _ => ⟨b, rfl⟩) fun _ _ h => h.elim)

end IndexCall

end ContentDepot
