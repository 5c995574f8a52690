import ContentDepot.Proofs.Session.Live
import ContentDepot.Session.Call

/-!
# Whatever is answered

While a talk is carried out, requests are sent and answered: its traffic
(`Exchange.traffic`). A talk does not know who answers, so what it does can be
said of all answers at once, along the tree (`Exchange.Ends`). `Always` says of an
operation how it ends, and after which traffic, whatever is answered and in
whatever context:

* `Always.holds`: so it ends when it is carried out;
* `Always.bind`, `Always.guarded`, `Always.shielded`: along the text of an operation;
* `Always.call`: a request adds itself and its reply to the traffic;
* `Always.opened_bind`: what an operation on an index begins with.
-/

namespace ContentDepot

/-- Requests and the replies to them, in order. -/
abbrev Traffic := List (Request × Reply)

/-- Each backend has a URL that is valid and names a scheme. -/
def Settings.HostsAreValid (s : Settings) : Prop :=
  ∀ b, ∃ e, s.endpoint? b = some e ∧ e.address.base.scheme ≠ []

theorem Settings.HostsAreRoots.valid {s : Settings} (h : s.HostsAreRoots) : s.HostsAreValid := by
  intro b
  obtain ⟨e, he, hroot⟩ := h b
  exact ⟨e, he, hroot.scheme⟩

/-- A text or null: what an index is asked for by. -/
def Json.IsTextOrNull (v : Json) : Prop := v = .null ∨ ∃ text, v = .str text

namespace Exchange

variable {ω α β : Type}

/-- What is sent and answered while a talk is carried out. -/
def traffic (answer : Request → ω → Reply × ω) : Exchange α → Context → ω → Traffic
  | .done _, _, _ => []
  | .send r next, c, w =>
    (r, (answer r w).1) :: traffic answer (next (answer r w).1) c (answer r w).2
  | .look next, c, w => traffic answer (next c) c w
  | .change f next, c, w => traffic answer next (f c) w

/-- After a traffic, whatever is answered, the talk ends with a result and a traffic of which
`post` holds. -/
def Ends (post : α → Traffic → Prop) : Exchange α → Traffic → Prop
  | .done a, t => post a t
  | .send r next, t => ∀ reply, Ends post (next reply) (t ++ [(r, reply)])
  | .look next, t => ∀ c, Ends post (next c) t
  | .change _ next, t => Ends post next t

namespace Ends

variable {post post' : α → Traffic → Prop} {x : Exchange α} {t : Traffic}

/-- So a talk ends when it is carried out. -/
theorem holds (h : Ends post x t) (answer : Request → ω → Reply × ω) (c : Context) (w : ω) :
    post (x.run answer c w).1 (t ++ x.traffic answer c w) := by
  induction x generalizing t c w with
  | done a => rwa [traffic, List.append_nil]
  | send r next ih =>
    have hnext := ih (answer r w).1 (h (answer r w).1) c (answer r w).2
    rwa [List.append_assoc] at hnext
  | look next ih => exact ih c (h c) c w
  | change f next ih => exact ih h (f c) w

theorem mono (h : Ends post x t) (hp : ∀ a t', post a t' → post' a t') : Ends post' x t := by
  induction x generalizing t with
  | done a => exact hp a t h
  | send r next ih => exact fun reply => ih reply (h reply)
  | look next ih => exact fun c => ih c (h c)
  | change f next ih => exact ih h

theorem bind {post : β → Traffic → Prop} {f : α → Exchange β}
    (h : Ends (fun a t' => Ends post (f a) t') x t) : Ends post (x >>= f) t := by
  show Ends post (x.andThen f) t
  induction x generalizing t with
  | done a => exact h
  | send r next ih => exact fun reply => ih reply (h reply)
  | look next ih => exact fun c => ih c (h c)
  | change g next ih => exact ih h

theorem emitAll {events : List Event} {post : Unit → Traffic → Prop} (h : post () t) :
    Ends post (Exchange.emitAll events) t := by
  induction events with
  | nil => exact h
  | cons e es ih => exact bind (x := Exchange.modify (·.record e)) ih

/-- What a talk adds to a traffic does not depend on what was there before. -/
theorem after (h : Ends post x t) (before : Traffic) :
    Ends (fun a t' => ∃ u, t' = before ++ u ∧ post a u) x (before ++ t) := by
  induction x generalizing t with
  | done a => exact ⟨t, rfl, h⟩
  | send r next ih =>
    intro reply
    rw [List.append_assoc]
    exact ih reply (h reply)
  | look next ih => exact fun c => ih c (h c)
  | change f next ih => exact ih h

theorem and (h : Ends post x t) (h' : Ends post' x t) :
    Ends (fun a t' => post a t' ∧ post' a t') x t := by
  induction x generalizing t with
  | done a => exact ⟨h, h'⟩
  | send r next ih => exact fun reply => ih reply (h reply) (h' reply)
  | look next ih => exact fun c => ih c (h c) (h' c)
  | change f next ih => exact ih h h'

/-- That much can be said of every talk. -/
theorem trivially (x : Exchange α) (t : Traffic) : Ends (fun _ _ => True) x t := by
  induction x generalizing t with
  | done a => exact trivial
  | send r next ih => exact fun reply => ih reply _
  | look next ih => exact fun c => ih c t
  | change f next ih => exact ih t

end Ends

end Exchange

/-- After a traffic, whatever is answered, the operation ends with a result and a traffic of which
`post` holds, or with a failure and a traffic of which `fails` holds. -/
structure Always {ε α : Type} (t : Traffic) (x : ExceptT ε Exchange α) (post : α → Traffic → Prop)
    (fails : ε → Traffic → Prop) : Prop where
  ends : x.run.Ends (fun result t' => match result with
    | .ok a => post a t'
    | .error e => fails e t') t

namespace Always

variable {ε α β : Type} {t : Traffic} {post post' : α → Traffic → Prop}
  {fails fails' : ε → Traffic → Prop} {x : ExceptT ε Exchange α}

theorem mono (h : Always t x post fails) (hp : ∀ a t', post a t' → post' a t')
    (hf : ∀ e t', fails e t' → fails' e t') : Always t x post' fails' := by
  refine ⟨h.ends.mono fun result t' hr => ?_⟩
  cases result with
  | ok a => exact hp a t' hr
  | error e => exact hf e t' hr

theorem pure {a : α} (h : post a t) :
    Always t (Pure.pure a : ExceptT ε Exchange α) post fails := ⟨h⟩

theorem throw {e : ε} (h : fails e t) :
    Always t (MonadExcept.throw e : ExceptT ε Exchange α) post fails := ⟨h⟩

/-- What is made of the result of an operation. -/
theorem made {ε' : Type} {f : Except ε α → Exchange (Except ε' β)} {post : β → Traffic → Prop}
    {fails' : ε' → Traffic → Prop}
    (h : Always t x (fun a t' => Always t' (ExceptT.mk (f (.ok a))) post fails')
      (fun e t' => Always t' (ExceptT.mk (f (.error e))) post fails')) :
    Always t (ExceptT.mk (x.run >>= f)) post fails' := by
  refine ⟨.bind (h.ends.mono fun result t' hr => ?_)⟩
  cases result with
  | ok a => exact hr.ends
  | error e => exact hr.ends

theorem bind {m : β → Traffic → Prop} {y : ExceptT ε Exchange β}
    {f : β → ExceptT ε Exchange α} (hy : Always t y m fails)
    (hf : ∀ b t', m b t' → Always t' (f b) post fails) : Always t (y >>= f) post fails := by
  refine ⟨.bind (hy.ends.mono fun result t' hr => ?_)⟩
  cases result with
  | ok b => exact (hf b t' hr).ends
  | error e => exact hr

/-- Nothing follows a failure. -/
theorem throw_bind {e : ε} {f : β → ExceptT ε Exchange α} (h : fails e t) :
    Always t (MonadExcept.throw e >>= f) post fails :=
  bind (m := fun _ _ => False) (throw h) fun _ _ h => h.elim

theorem context_bind {f : Context → ExceptT ε Exchange α}
    (h : ∀ c, Always t (f c) post fails) :
    Always t ((liftM Exchange.context : ExceptT ε Exchange Context) >>= f) post fails :=
  ⟨fun c => (h c).ends⟩

theorem modify {g : Context → Context} {post : Unit → Traffic → Prop} (h : post () t) :
    Always t (liftM (Exchange.modify g) : ExceptT ε Exchange Unit) post fails := ⟨h⟩

theorem emit_bind {level : Level} {name : String} {f : Unit → ExceptT ε Exchange α}
    (h : Always t (f ()) post fails) :
    Always t ((liftM (Exchange.emit level name) : ExceptT ε Exchange Unit) >>= f) post fails :=
  ⟨h.ends⟩

theorem emitAll_bind {events : List Event} {f : Unit → ExceptT ε Exchange α}
    (h : Always t (f ()) post fails) :
    Always t ((liftM (Exchange.emitAll events) : ExceptT ε Exchange Unit) >>= f) post fails :=
  bind (m := fun _ t' => t' = t) ⟨.bind (.emitAll rfl)⟩ fun _ _ ht => ht ▸ h

/-- That much can be said of every operation. -/
theorem trivially (x : ExceptT ε Exchange α) (t : Traffic) :
    Always t x (fun _ _ => True) (fun _ _ => True) := by
  refine ⟨(Exchange.Ends.trivially x.run t).mono fun result _ _ => ?_⟩
  cases result <;> exact trivial

/-- What is said of an operation on its own is said of what it adds to a traffic. -/
theorem after (h : Always [] x post fails) (t : Traffic) :
    Always t x (fun a t' => ∃ u, t' = t ++ u ∧ post a u)
      (fun e t' => ∃ u, t' = t ++ u ∧ fails e u) := by
  have hends := h.ends.after t
  rw [List.append_nil] at hends
  refine ⟨hends.mono fun result t' hr => ?_⟩
  cases result <;> exact hr

theorem and (h : Always t x post fails) (h' : Always t x post' fails') :
    Always t x (fun a t' => post a t' ∧ post' a t') (fun e t' => fails e t' ∧ fails' e t') := by
  refine ⟨(h.ends.and h'.ends).mono fun result t' hr => ?_⟩
  cases result <;> exact hr

/-- An operation only adds to the traffic. -/
theorem grows (x : ExceptT ε Exchange α) (t : Traffic) :
    Always t x (fun _ t' => t <+: t') fun _ t' => t <+: t' :=
  ((trivially x []).after t).mono (fun _ _ ⟨u, hu, _⟩ => ⟨u, hu.symm⟩)
    fun _ _ ⟨u, hu, _⟩ => ⟨u, hu.symm⟩

/-- An operation whose result is given to the caller. -/
theorem outcome {action : Action α} {give : α → Outcome} {post : Outcome → Traffic → Prop}
    (h : Always t action (fun a t' => post (give a) t') fun f t' => post (.failed f) t') :
    Exchange.Ends post (Outcome.ofAction give action) t := by
  refine .bind (h.ends.mono fun result t' hr => ?_)
  cases result <;> exact hr

/-! ## Attempts -/

section Attempts

variable {fails : Trouble → Traffic → Prop}

theorem ofRead_bind {read : Except Cause β} {f : β → Attempt α}
    (hf : ∀ cause, read = .error cause → fails (.cause cause) t)
    (h : ∀ b, read = .ok b → Always t (f b) post fails) :
    Always t (Attempt.ofRead read >>= f) post fails := by
  cases read with
  | ok b => exact ⟨(h b rfl).ends⟩
  | error cause => exact throw_bind (hf cause rfl)

theorem ofRead {read : Except Cause α} (hf : ∀ cause, read = .error cause → fails (.cause cause) t)
    (h : ∀ a, read = .ok a → post a t) : Always t (Attempt.ofRead read) post fails := by
  cases read with
  | ok a => exact pure (h a rfl)
  | error cause => exact throw (hf cause rfl)

/-- A check breaks off at a response that is no success. -/
theorem check_bind {r : Response} {f : Unit → Attempt α}
    (hf : r.isSuccess = false → (∀ cause, fails (.cause cause) t) ∧
      ∀ detail, fails (.status r.status detail) t)
    (h : r.isSuccess = true → Always t (f ()) post fails) :
    Always t (Search.check r >>= f) post fails := by
  refine bind (m := fun _ t' => r.isSuccess = true ∧ t' = t) ?_ fun _ t' hmid => by
    obtain ⟨hr, rfl⟩ := hmid
    exact h hr
  unfold Search.check
  split
  · rename_i hr
    exact pure ⟨hr, rfl⟩
  · rename_i hr
    rw [Bool.not_eq_true] at hr
    exact ofRead_bind (fun cause _ => (hf hr).1 cause) fun _ _ => throw ((hf hr).2 _)

/-- An attempt that breaks off ends as its trouble is taken. -/
theorem guarded {onTrouble : Trouble → Action α} {x : Attempt α} {fails : Failure → Traffic → Prop}
    (h : Always t x post fun trouble t' => Always t' (onTrouble trouble) post fails) :
    Always t (x.guarded onTrouble) post fails :=
  made (h.mono (fun _ _ ha => pure ha) fun _ _ he => he)

variable {e : Endpoint} {verb : Verb} {path : String} {query : List (String × String)}
  {payload : Payload}

theorem scheme_of_withResource? {u v : Url} {cs : List Char} (h : u.withResource? cs = some v) :
    v.scheme = u.scheme := by
  simp only [Url.withResource?, Option.bind_eq_bind] at h
  split at h
  · cases h
  split at h
  · cases h
  · cases h
    rfl

theorem namesScheme_of_target {a : Address} {url : Url} (ha : a.base.scheme ≠ [])
    (h : a.target path = .ok url) : url.namesScheme = true := by
  have hscheme : url.scheme ≠ [] → url.namesScheme = true := by
    intro hs
    rw [Url.namesScheme, List.isEmpty_eq_false_iff.2 hs]
    rfl
  rw [Address.target] at h
  rcases hp : Url.parse? path.toList with _ | r <;> rw [hp] at h
  · cases h
  by_cases hr : r.isAbsolute = true
  · simp only [hr, if_true, Except.ok.injEq] at h
    subst h
    rw [Url.isAbsolute, Bool.and_eq_true, Bool.not_eq_true', List.isEmpty_eq_false_iff] at hr
    exact hscheme hr.1
  · simp only [hr] at h
    rcases hw : a.base.withResource? (a.base.resource ++ r.resource.dropWhile (· == '/')) with
      _ | url' <;> simp only [hw] at h <;> cases h
    refine hscheme ?_
    rw [scheme_of_withResource? hw]
    exact ha

/-- A request that is made adds itself and its reply to the traffic. -/
theorem call {post : Response → Traffic → Prop} (he : e.address.base.scheme ≠ [])
    (hunmade : ∀ f, fails (.cause (.fault f)) t)
    (h : ∀ url r (reply : Reply), r.backend = e.backend → Request.Made url verb payload r →
      match reply.result with
      | .ok resp => post resp (t ++ [(r, reply)])
      | .error trouble => fails trouble (t ++ [(r, reply)])) :
    Always t (e.call verb path query payload) post fails := by
  unfold Endpoint.call
  rcases ht : e.address.target path with f | url
  · exact throw (hunmade f)
  rcases hr : e.request url verb query payload with f | r
  · simp only [Bind.bind, Except.bind, hr]
    exact throw (hunmade f)
  obtain ⟨hb, -, hm⟩ := Endpoint.made_of_request hr
  simp only [Bind.bind, Except.bind, Pure.pure, Except.pure, hr]
  refine ⟨fun reply => ?_⟩
  have hreply := h url r reply hb hm
  cases reply with
  | response resp =>
    show Exchange.Ends _ (Endpoint.received url (.response resp)).run _
    rw [Endpoint.received, if_pos (namesScheme_of_target he ht)]
    exact hreply
  | disrupted message => exact hreply
  | fault f => exact hreply

end Attempts

/-! ## Actions -/

section Actions

variable {action : Action α} {fails fails' : Failure → Traffic → Prop}

theorem require_bind {v : Json} {name : String} {f : Unit → Action α}
    (hb : v.isBlank = true → fails (.error (.emptyParameter name)) t)
    (h : v.isBlank = false → Always t (f ()) post fails) :
    Always t (Action.require v name >>= f) post fails := by
  unfold Action.require ContentDepot.require
  cases hv : v.isBlank with
  | true => exact throw_bind (hb hv)
  | false => exact ⟨(h hv).ends⟩

/-- A connection is opened without a request: it gives the endpoint, unless there is none. -/
theorem connected (s : Settings) (b : Backend) :
    Always t (ContentDepot.connected s b) (fun e t' => s.endpoint? b = some e ∧ t' = t)
      fun _ t' => s.endpoint? b = none ∧ t' = t := by
  unfold ContentDepot.connected connect
  cases he : s.endpoint? b with
  | some e =>
    refine bind (m := fun _ t' => t' = t) (context_bind fun c => ?_) fun _ t' ht => pure ⟨rfl, ht⟩
    split
    · exact pure rfl
    · exact emit_bind (modify rfl)
  | none =>
    refine bind (m := fun _ t' => t' = t) (context_bind fun c => ?_) fun _ t' ht => throw ⟨rfl, ht⟩
    split
    · exact pure rfl
    · exact emit_bind (throw ⟨rfl, rfl⟩)

/-- The endpoint of a backend is there where the hosts are valid. -/
theorem connected_bind {s : Settings} {b : Backend} {f : Endpoint → Action α}
    (hs : s.HostsAreValid)
    (h : ∀ e, e.backend = b → e.address.base.scheme ≠ [] → Always t (f e) post fails) :
    Always t (ContentDepot.connected s b >>= f) post fails := by
  obtain ⟨e, he, hscheme⟩ := hs b
  refine bind ((connected s b).mono (fun _ _ h => h) ?_) ?_
  · rintro f t' ⟨hnone, -⟩
    rw [he] at hnone
    cases hnone
  · rintro e' t' ⟨he', rfl⟩
    cases he.symm.trans he'
    exact h e (Settings.backend_of_endpoint? he) hscheme

/-- An operation on an index lowers its name, which is a text, and opens the connection. -/
theorem opened_bind {s : Settings} {index : Json} {f : String → Endpoint → Action α}
    (hs : s.HostsAreValid) (hi : index.IsTextOrNull) (hb : index.isBlank = false)
    (h : ∀ name e, e.backend = .engine → e.address.base.scheme ≠ [] →
      Always t (f name e) post fails) :
    Always t (do
      let name ← MetadataIndex.lowered index
      let e ← ContentDepot.connected s .engine
      f name e) post fails := by
  rcases hi with rfl | ⟨text, rfl⟩
  · cases hb
  · exact bind (m := fun _ t' => t' = t) (pure rfl) fun name t' ht =>
      ht ▸ connected_bind hs (h name)

/-- Under another name for its failure an action does the same: an error of the depot stays, and
any other failure becomes one of the activity. -/
theorem shielded {activity : Activity} {name : String}
    (h : Always t action post fun failure t' => match failure with
      | .error e => fails (.error e) t'
      | .fault f => fails (.error (.failed activity (.fault f))) t'
      | .invalid _ => fails (.error (.failed activity (.fault .invalidRecord))) t') :
    Always t (Depot.shielded activity name action) post fails := by
  refine made (h.mono (fun _ _ ha => pure ha) fun failure t' hf => ?_)
  cases failure with
  | error e => exact throw hf
  | fault f => exact ⟨hf⟩
  | invalid issues => exact ⟨hf⟩

theorem reportingOrphan {r : IndexRequest} {hash : Json} (h : Always t action post fails) :
    Always t (Depot.reportingOrphan r hash action) post fails := by
  refine made (h.mono (fun _ _ ha => pure ha) fun failure t' hf => ?_)
  cases failure with
  | error e => exact ⟨hf⟩
  | fault f => exact throw hf
  | invalid issues => exact throw hf

/-- A trouble with the engine is a failure of the backend. -/
theorem fail {activity : Activity} {name : String} {trouble : Trouble}
    (h : ∀ e : StoreError, e.kind = .backend → fails (.error e) t) :
    Always t (MetadataIndex.fail activity name trouble : Action α) post fails := by
  refine emit_bind ?_
  cases trouble <;> exact throw (h _ rfl)

/-- A trouble with the content store is a failure of the backend. -/
theorem failWith {activity : Activity} {name : String} {trouble : Trouble}
    (h : ∀ e : StoreError, e.kind = .backend → fails (.error e) t) :
    Always t (ContentStore.failWith activity name trouble : Action α) post fails := by
  refine emit_bind ?_
  cases trouble <;> exact throw (h _ rfl)

end Actions

end Always

end ContentDepot
