import ContentDepot.Depot
import ContentDepot.Proofs.InMemory.Answers
import ContentDepot.Proofs.Session.Live

/-!
# What operations do to a standing

Of a process and the backends opposite it only three things decide how an
operation ends: the indices that are known to carry the mapping, the engine and
the contents (`Standing`). `WP` says of an operation what it gives and what it
leaves, from one standing and whatever else the process holds:

* `WP.bind`, `WP.guarded`, `WP.shielded`, `WP.reportingOrphan`: along the text of
  an operation;
* `WP.call_engine`, `WP.call_content`: a request does what the backend does;
* `WP.named`: an operation on an index that has a name.
-/

namespace ContentDepot

open Exchange InMemory Address

/-- What decides how operations end. -/
structure Standing where
  /-- The indices that the process knows to carry the mapping. -/
  mapped : List String
  engine : Engine
  contents : Blobs

namespace Standing

/-- The standing of a process and the backends opposite it. -/
def of (c : Context) (w : World) : Standing := ⟨c.mapped, w.engine, w.contents⟩

/-- The standing in which an index is known to carry the mapping. -/
def mark (st : Standing) (index : String) : Standing :=
  { st with mapped := if st.mapped.contains index then st.mapped else st.mapped ++ [index] }

theorem of_record (c : Context) (e : Event) (w : World) : of (c.record e) w = of c w := rfl

theorem of_markMapped (c : Context) (index : String) (w : World) :
    of (c.markMapped index) w = (of c w).mark index := by
  unfold Context.markMapped of mark
  dsimp only
  split <;> rfl

theorem of_openTo (c : Context) (b : Backend) (w : World) : of (c.openTo b) w = of c w := by
  cases b <;> rfl

theorem of_foldl_record (events : List Event) (c : Context) (w : World) :
    of (events.foldl Context.record c) w = of c w := by
  induction events generalizing c with
  | nil => rfl
  | cons e es ih => exact (ih (c.record e)).trans (of_record c e w)

theorem answer_engine {c : Context} {w : World} {st : Standing} {r : Request} (hw : w.Live)
    (hr : r.backend = .engine) (hst : of c w = st) :
    (World.answer r w).1 = (st.engine.answer r).1 ∧
      of c (World.answer r w).2 = { st with engine := (st.engine.answer r).2 } := by
  subst hst
  rw [World.answer_engine hw hr]
  exact ⟨rfl, rfl⟩

theorem answer_content {c : Context} {w : World} {st : Standing} {r : Request} (hw : w.Live)
    (hr : r.backend = .content) (hst : of c w = st) :
    (World.answer r w).1 = (st.contents.answer r).1 ∧
      of c (World.answer r w).2 = { st with contents := (st.contents.answer r).2 } := by
  subst hst
  rw [World.answer_content hw hr]
  exact ⟨rfl, rfl⟩

end Standing

/-- The request that goes out for what lies below a name. -/
def Endpoint.Sends (e : Endpoint) (name : String) (segments : List (List Char)) (verb : Verb)
    (payload : Payload) (r : Request) : Prop :=
  ∃ url, e.address.target (reference name segments) = .ok url ∧ Request.Made url verb payload r

theorem Endpoint.Sends.verb {e : Endpoint} {name : String} {segments : List (List Char)}
    {verb : Verb} {payload : Payload} {r : Request} (h : e.Sends name segments verb payload r) :
    r.verb = verb := by
  obtain ⟨url, -, hm⟩ := h
  exact hm.verb

theorem Endpoint.Sends.payload {e : Endpoint} {name : String} {segments : List (List Char)}
    {verb : Verb} {payload : Payload} {r : Request} (h : e.Sends name segments verb payload r) :
    r.payload = payload := by
  obtain ⟨url, -, hm⟩ := h
  exact hm.payload

/-- From a standing the operation ends with a result and a standing of which `post` holds, or with
a failure and a standing of which `fails` holds. -/
structure WP {ε α : Type} (st : Standing) (x : ExceptT ε Exchange α) (post : α → Standing → Prop)
    (fails : ε → Standing → Prop) : Prop where
  carried : ∀ c w, w.Live → Standing.of c w = st → match carry World.answer x c w with
    | (.ok a, c', w') => post a (.of c' w')
    | (.error e, c', w') => fails e (.of c' w')

namespace WP

variable {ε α β : Type} {st : Standing} {post post' : α → Standing → Prop}
  {fails fails' : ε → Standing → Prop} {x : ExceptT ε Exchange α}

theorem mono (h : WP st x post fails) (hp : ∀ a st', post a st' → post' a st')
    (hf : ∀ e st', fails e st' → fails' e st') : WP st x post' fails' := by
  refine ⟨fun c w hw hst => ?_⟩
  have hx := h.carried c w hw hst
  generalize carry World.answer x c w = result at hx ⊢
  obtain ⟨e | a, c', w'⟩ := result
  · exact hf _ _ hx
  · exact hp _ _ hx

theorem pure {a : α} (h : post a st) : WP st (Pure.pure a : ExceptT ε Exchange α) post fails := by
  refine ⟨?_⟩
  rintro c w hw rfl
  exact h

theorem throw {e : ε} (h : fails e st) :
    WP st (MonadExcept.throw e : ExceptT ε Exchange α) post fails := by
  refine ⟨?_⟩
  rintro c w hw rfl
  exact h

theorem bind {m : β → Standing → Prop} {y : ExceptT ε Exchange β}
    {f : β → ExceptT ε Exchange α} (hy : WP st y m fails)
    (hf : ∀ b st', m b st' → WP st' (f b) post fails) : WP st (y >>= f) post fails := by
  refine ⟨fun c w hw hst => ?_⟩
  have h := hy.carried c w hw hst
  rw [carry_bind]
  rcases hc : carry World.answer y c w with ⟨e | b, c', w'⟩
  · rwa [hc] at h
  · rw [hc] at h
    exact (hf b _ h).carried c' w' (World.live_of_carry hw hc) rfl

/-- Nothing follows a failure. -/
theorem throw_bind {e : ε} {f : β → ExceptT ε Exchange α} (h : fails e st) :
    WP st (MonadExcept.throw e >>= f) post fails :=
  bind (m := fun _ _ => False) (throw h) fun _ _ h => h.elim

/-- A look at the context shows which indices are known. -/
theorem context_bind {f : Context → ExceptT ε Exchange α}
    (h : ∀ c : Context, c.mapped = st.mapped → WP st (f c) post fails) :
    WP st ((liftM Exchange.context : ExceptT ε Exchange Context) >>= f) post fails := by
  refine ⟨fun c w hw hst => ?_⟩
  rw [carry_bind_of_ok (carry_context ..)]
  exact (h c (congrArg Standing.mapped hst)).carried c w hw hst

theorem modify {g : Context → Context} {post : Unit → Standing → Prop}
    (h : ∀ c w, Standing.of c w = st → post () (.of (g c) w)) :
    WP st (liftM (Exchange.modify g) : ExceptT ε Exchange Unit) post fails := by
  refine ⟨fun c w hw hst => ?_⟩
  rw [carry_modify]
  exact h c w hst

theorem emit {level : Level} {name : String} {post : Unit → Standing → Prop} (h : post () st) :
    WP st (liftM (Exchange.emit level name) : ExceptT ε Exchange Unit) post fails :=
  modify fun c w hst => (Standing.of_record c _ w).trans hst ▸ h

theorem emit_bind {level : Level} {name : String} {f : Unit → ExceptT ε Exchange α}
    (h : WP st (f ()) post fails) :
    WP st ((liftM (Exchange.emit level name) : ExceptT ε Exchange Unit) >>= f) post fails :=
  bind (m := fun _ st' => st' = st) (emit rfl) fun _ _ hst => hst ▸ h

theorem emitAll_bind {events : List Event} {f : Unit → ExceptT ε Exchange α}
    (h : WP st (f ()) post fails) :
    WP st ((liftM (Exchange.emitAll events) : ExceptT ε Exchange Unit) >>= f) post fails := by
  refine ⟨fun c w hw hst => ?_⟩
  rw [carry_bind_of_ok (carry_emitAll ..)]
  exact h.carried _ w hw ((Standing.of_foldl_record events c w).trans hst)

theorem markMapped {index : String} {post : Unit → Standing → Prop} (h : post () (st.mark index)) :
    WP st (liftM (Exchange.modify (·.markMapped index)) : ExceptT ε Exchange Unit) post fails :=
  modify fun c w hst => by
    rw [Standing.of_markMapped, hst]
    exact h

theorem require {v : Json} {name : String} {post : Unit → Standing → Prop}
    {fails : Failure → Standing → Prop}
    (hb : v.isBlank = true → fails (.error (.emptyParameter name)) st)
    (h : v.isBlank = false → post () st) : WP st (Action.require v name) post fails := by
  refine ⟨?_⟩
  rintro c w hw rfl
  rw [carry_require]
  cases hv : v.isBlank with
  | true => exact hb hv
  | false => exact h hv

/-- What is no blank is not refused. -/
theorem required_bind {v : Json} {name : String} {f : Unit → Action α}
    {fails : Failure → Standing → Prop} (hb : v.isBlank = false) (h : WP st (f ()) post fails) :
    WP st (Action.require v name >>= f) post fails := by
  refine bind (m := fun _ st' => st' = st) (require (fun h => ?_) fun _ => rfl)
    fun _ _ hst => hst ▸ h
  rw [hb] at h
  cases h

/-- A check of a value is made or not, and changes nothing. -/
theorem ofChecked {checked : Checked α} {fails : Failure → Standing → Prop}
    (h : ∀ a, checked = .ok a → post a st) (hf : ∀ f, fails f st) :
    WP st (Action.ofChecked checked) post fails := by
  cases checked with
  | ok a => exact pure (h a rfl)
  | error issues => exact throw (hf _)

/-! ## Attempts -/

section Attempts

variable {fails fails' : Trouble → Standing → Prop}

theorem ofRead {read : Except Cause α} (h : ∀ a, read = .ok a → post a st)
    (hf : ∀ cause, read = .error cause → fails (.cause cause) st) :
    WP st (Attempt.ofRead read) post fails := by
  cases read with
  | ok a => exact pure (h a rfl)
  | error cause => exact throw (hf cause rfl)

theorem ofRead_bind {read : Except Cause β} {f : β → Attempt α}
    (hf : ∀ cause, read = .error cause → fails (.cause cause) st)
    (h : ∀ b, read = .ok b → WP st (f b) post fails) :
    WP st (Attempt.ofRead read >>= f) post fails := by
  refine bind (m := fun b st' => read = .ok b ∧ st' = st)
    (ofRead (fun b hb => ⟨hb, rfl⟩) hf) fun b st' hmid => ?_
  obtain ⟨hb, rfl⟩ := hmid
  exact h b hb

/-- After a check a response was a success. -/
theorem check_bind {r : Response} {f : Unit → Attempt α}
    (hf : r.isSuccess = false → ∀ t, fails t st)
    (h : r.isSuccess = true → WP st (f ()) post fails) :
    WP st (Search.check r >>= f) post fails := by
  refine bind (m := fun _ st' => r.isSuccess = true ∧ st' = st) ?_ fun _ st' hmid => by
    obtain ⟨hr, rfl⟩ := hmid
    exact h hr
  unfold Search.check
  split
  · rename_i hr
    exact pure ⟨hr, rfl⟩
  · rename_i hr
    rw [Bool.not_eq_true] at hr
    exact ofRead_bind (fun _ _ => hf hr _) fun _ _ => throw (hf hr _)

/-- An attempt that breaks off ends as its trouble is taken. -/
theorem guarded {x : Attempt α} {onTrouble : Trouble → Action α}
    {fails : Failure → Standing → Prop}
    (h : WP st x post fun t st' => WP st' (onTrouble t) post fails) :
    WP st (x.guarded onTrouble) post fails := by
  refine ⟨fun c w hw hst => ?_⟩
  have hx := h.carried c w hw hst
  rw [carry_guarded]
  rcases hc : carry World.answer x c w with ⟨t | a, c', w'⟩
  · rw [hc] at hx
    exact hx.carried c' w' (World.live_of_carry hw hc) rfl
  · rwa [hc] at hx

end Attempts

/-! ## Actions -/

/-- A failure that is no error of the depot becomes one of the activity. -/
theorem shielded_of {action : Action α} {fails : Failure → Standing → Prop} {activity : Activity}
    {name : String} (h : WP st action post fun failure st' => match failure with
      | .error e => fails (.error e) st'
      | .fault f => fails (.error (.failed activity (.fault f))) st'
      | .invalid _ => fails (.error (.failed activity (.fault .invalidRecord))) st') :
    WP st (Depot.shielded activity name action) post fails := by
  refine ⟨fun c w hw hst => ?_⟩
  have hx := h.carried c w hw hst
  unfold Depot.shielded
  rw [carry_mk_bind]
  generalize carry World.answer action c w = result at hx ⊢
  obtain ⟨(_ | _ | _) | _, c', w'⟩ := result <;> exact hx

/-- A trouble with the content store is a failure of the backend. -/
theorem failWith_of {fails : Failure → Standing → Prop} {activity : Activity} {name : String}
    {t : Trouble} (h : ∀ f : Failure, f.IsBackend → fails f st) :
    WP st (ContentStore.failWith activity name t : Action α) post fails := by
  refine emit_bind ?_
  cases t <;> exact throw (h _ ⟨_, rfl, rfl⟩)

section Actions

variable {action : Action α} {fails : Standing → Prop}

/-- Under another name for its failure an action does the same. -/
theorem shielded {activity : Activity} {name : String}
    (h : WP st action post fun _ => fails) :
    WP st (Depot.shielded activity name action) post fun _ => fails :=
  shielded_of (h.mono (fun _ _ ha => ha) fun failure _ hf => by cases failure <;> exact hf)

theorem reportingOrphan {r : IndexRequest} {hash : Json}
    (h : WP st action post fun _ => fails) :
    WP st (Depot.reportingOrphan r hash action) post fun _ => fails := by
  refine ⟨fun c w hw hst => ?_⟩
  have hx := h.carried c w hw hst
  unfold Depot.reportingOrphan
  rw [carry_mk_bind]
  generalize carry World.answer action c w = result at hx ⊢
  obtain ⟨(_ | _ | _) | _, c', w'⟩ := result <;> exact hx

/-- A trouble with the engine is a failure. -/
theorem fail {activity : Activity} {name : String} {t : Trouble} (h : fails st) :
    WP st (MetadataIndex.fail activity name t : Action α) post fun _ => fails := by
  refine emit_bind ?_
  cases t <;> exact throw h

/-- A trouble with the content store is a failure. -/
theorem failWith {activity : Activity} {name : String} {t : Trouble} (h : fails st) :
    WP st (ContentStore.failWith activity name t : Action α) post fun _ => fails :=
  failWith_of fun _ _ => h

/-- The endpoint of a backend that settings name is there. -/
theorem connected_bind {s : Settings} {b : Backend} {e : Endpoint} {f : Endpoint → Action α}
    {fails : Failure → Standing → Prop} (he : s.endpoint? b = some e)
    (h : WP st (f e) post fails) : WP st (ContentDepot.connected s b >>= f) post fails := by
  refine bind (m := fun e' st' => e' = e ∧ st' = st) ?_ fun e' st' he' => by
    obtain ⟨rfl, rfl⟩ := he'
    exact h
  unfold ContentDepot.connected connect
  refine bind (m := fun _ st' => st' = st) (context_bind fun c _ => ?_) fun _ st' hst => ?_
  · split
    · exact pure rfl
    · refine emit_bind ?_
      rw [he]
      exact modify fun c w h' => (Standing.of_openTo c b w).trans h'
  · rw [he]
    exact pure ⟨rfl, hst⟩

/-- What is no blank is asked for by a text, which is not empty, or not at all. -/
theorem lowered_bind {index : Json} {f : String → Action α} (hb : index.isBlank = false)
    (hf : fails st)
    (h : ∀ t, index = .str t → t ≠ "" → WP st (f (Text.lower t)) post fun _ => fails) :
    WP st (MetadataIndex.lowered index >>= f) post fun _ => fails := by
  cases index with
  | str t =>
    have ht : t ≠ "" := by
      rintro rfl
      cases hb
    exact h t rfl ht
  | _ => exact throw_bind hf

/-- A step that only refuses what is blank. -/
theorem require_bind {v : Json} {name : String} {f : Unit → Action α} (hf : fails st)
    (h : v.isBlank = false → WP st (f ()) post fun _ => fails) :
    WP st (Action.require v name >>= f) post fun _ => fails := by
  refine bind (m := fun _ st' => v.isBlank = false ∧ st' = st)
    (require (fun _ => hf) fun hb => ⟨hb, rfl⟩) fun _ st' hmid => ?_
  obtain ⟨hb, rfl⟩ := hmid
  exact h hb

/-- An operation on an index needs a text for the name, and no empty one. -/
theorem named {s : Settings} {index : Json} {name : String} {e : Endpoint}
    {f : String → Endpoint → Action α} (he : s.endpoint? .engine = some e) (hf : fails st)
    (h : ∀ t, index = .str t → t ≠ "" → WP st (f (Text.lower t) e) post fun _ => fails) :
    WP st (do
      Action.require index name
      let t ← MetadataIndex.lowered index
      let e ← ContentDepot.connected s .engine
      f t e) post fun _ => fails :=
  require_bind hf fun hb => lowered_bind hb hf fun t ht h0 => connected_bind he (h t ht h0)

end Actions

/-! ## Requests -/

section Requests

variable {e : Endpoint} {verb : Verb} {query : List (String × String)} {payload : Payload}
  {post : Response → Standing → Prop} {fails : Trouble → Standing → Prop}

/-- A request does what the answer to it does, and one that cannot be made does nothing. -/
theorem call {cs : List Char} (ha : e.address.base.IsRoot)
    (hunsent : (∀ url, e.address.target (String.ofList ('/' :: cs)) ≠ .ok url) ∨
      payload.isSendable = false ∨ Url.maxLength < Address.queryLength query →
        ∀ f, fails (.cause (.fault f)) st)
    (hsent : ∀ url r c w, e.address.target (String.ofList ('/' :: cs)) = .ok url →
      e.request url verb query payload = .ok r → w.Live → Standing.of c w = st →
        match (World.answer r w).1.result with
        | .ok resp => post resp (.of c (World.answer r w).2)
        | .error t => fails t (.of c (World.answer r w).2)) :
    WP st (e.call verb (String.ofList ('/' :: cs)) query payload) post fails := by
  refine ⟨fun c w hw hst => ?_⟩
  -- No address, no request, or a request that was sent and its reply.
  rcases ht : e.address.target (String.ofList ('/' :: cs)) with f | url
  · rw [carry_call_of_refused ht]
    show fails _ (.of c w)
    rw [hst]
    exact hunsent (.inl fun url h => by rw [ht] at h; cases h) f
  rcases hr : e.request url verb query payload with f | r
  · rw [carry_call_of_unmade ht hr]
    show fails _ (.of c w)
    rw [hst]
    refine hunsent (.inr ?_) f
    rw [Endpoint.request_eq] at hr
    by_cases hq : Url.maxLength < Address.queryLength query
    · exact .inr hq
    · rw [if_neg hq] at hr
      cases hp : payload.isSendable with
      | true =>
        rw [hp, if_pos rfl] at hr
        cases hr
      | false => exact .inl rfl
  · have h := hsent url r c w ht hr hw hst
    rw [carry_call_of_made ht hr]
    rcases hreply : (World.answer r w).1 with resp | message | f <;> rw [hreply] at h
    · simp only [Endpoint.received, Endpoint.namesScheme_of_target ha ht, if_true]
      exact h
    · exact h
    · exact h

/-- A request to the engine: an answer that is no response changes nothing. -/
theorem call_engine {name : String} {segments : List (List Char)} (he : e.IsEngine)
    (hf : ∀ t, fails t st)
    (h : ∀ r, e.Sends name segments verb payload r → ∀ resp,
      (st.engine.answer r).1 = .response resp →
        post resp { st with engine := (st.engine.answer r).2 }) :
    WP st (e.call verb (reference name segments) query payload) post fails := by
  refine call he.root (fun _ f => hf _) fun url r c w ht hr hw hst => ?_
  obtain ⟨hb, -, hm⟩ := Endpoint.made_of_request hr
  obtain ⟨hreply, hleft⟩ := Standing.answer_engine hw (hb.trans he.backend) hst
  rw [hleft, hreply]
  rcases hresult : (st.engine.answer r).1 with resp | message | f
  · exact h r ⟨url, ht, hm⟩ resp hresult
  all_goals
    show fails _ _
    rw [Engine.answer_of_error (congrArg Reply.result hresult)]
    exact hf _

/-- A request to the engine that can be made and is answered by a response. -/
theorem call_answered {name : String} {segments : List (List Char)} {url : Url} (he : e.IsEngine)
    (ht : e.address.target (reference name segments) = .ok url)
    (hq : Address.queryLength query ≤ Url.maxLength) (hp : payload.isSendable = true)
    (h : ∀ r, e.Sends name segments verb payload r → ∃ resp,
      (st.engine.answer r).1 = .response resp ∧
        post resp { st with engine := (st.engine.answer r).2 }) :
    WP st (e.call verb (reference name segments) query payload) post fails := by
  refine call he.root (fun hunsent => ?_) fun url' r c w ht' hr hw hst => ?_
  · rcases hunsent with hno | hno | hno
    · exact absurd ht (hno url)
    · rw [hp] at hno
      cases hno
    · omega
  · obtain ⟨hb, -, hm⟩ := Endpoint.made_of_request hr
    obtain ⟨hreply, hleft⟩ := Standing.answer_engine hw (hb.trans he.backend) hst
    obtain ⟨resp, hresp, hpost⟩ := h r ⟨url', ht', hm⟩
    rw [hleft, hreply, hresp]
    exact hpost

/-- A request to the content store: an answer that is no response changes nothing. -/
theorem call_content {cs : List Char} (hb : e.backend = .content) (ha : e.address.base.IsRoot)
    (hf : ∀ t, fails t st)
    (h : ∀ url r, e.address.target (String.ofList ('/' :: cs)) = .ok url →
      e.request url verb query payload = .ok r → ∀ resp,
        (st.contents.answer r).1 = .response resp →
          post resp { st with contents := (st.contents.answer r).2 }) :
    WP st (e.call verb (String.ofList ('/' :: cs)) query payload) post fails := by
  refine call ha (fun _ f => hf _) fun url r c w ht hr hw hst => ?_
  obtain ⟨hb', -, -⟩ := Endpoint.made_of_request hr
  obtain ⟨hreply, hleft⟩ := Standing.answer_content hw (hb'.trans hb) hst
  rw [hleft, hreply]
  rcases hresult : (st.contents.answer r).1 with resp | message | f
  · exact h url r ht hr resp hresult
  all_goals
    show fails _ _
    rw [Blobs.answer_of_error (congrArg Reply.result hresult)]
    exact hf _

end Requests

end WP

end ContentDepot
