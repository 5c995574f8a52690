import ContentDepot.Proofs.Session.Stages

/-!
# From a context, whatever is answered

Some operations depend on the context that they begin in, and leave another one. How
such an operation goes from a context is said of its result, of what it leaves of the
context and of its traffic, all at once (`Goes`):

* `Goes.bind`, `Goes.guarded`: along the text of an operation;
* `Goes.of_always`: what holds from every context;
* `Discreet`: operations that leave the context as it is;
* `SendsOnly`: operations all of whose requests have a property;
* `Leaves`: operations that leave a context in a relation to the one before, such as one
  whose log has only grown by events of other names (`Context.LogsNone`).
-/

namespace ContentDepot

open Exchange

/-! ## Operations that leave the context -/

/-- An operation that leaves the context as it is, whatever the backends answer. -/
def Discreet {ε α : Type} (x : ExceptT ε Exchange α) : Prop :=
  ∀ (ω : Type) (answer : Request → ω → Reply × ω) (c : Context) (w : ω),
    (Exchange.carry answer x c w).2.1 = c

namespace Discreet

open Exchange

variable {ε α β : Type}

theorem pure (a : α) : Discreet (Pure.pure a : ExceptT ε Exchange α) := fun _ _ _ _ => rfl

theorem throw (e : ε) : Discreet (MonadExcept.throw e : ExceptT ε Exchange α) := fun _ _ _ _ => rfl

theorem bind {x : ExceptT ε Exchange α} {f : α → ExceptT ε Exchange β} (hx : Discreet x)
    (hf : ∀ a, Discreet (f a)) : Discreet (x >>= f) := by
  intro ω answer c w
  have hc := hx ω answer c w
  rw [carry_bind]
  generalize carry answer x c w = result at hc ⊢
  obtain ⟨e | a, c', w'⟩ := result
  · exact hc
  · exact (hf a ω answer c' w').trans hc

/-- Nothing follows a failure. -/
theorem throw_bind (e : ε) (f : β → ExceptT ε Exchange α) :
    Discreet (MonadExcept.throw e >>= f) := fun _ _ _ _ => rfl

theorem ofRead (read : Except Cause α) : Discreet (Attempt.ofRead read) := by
  cases read with
  | ok a => exact .pure a
  | error cause => exact .throw _

theorem check (r : Response) : Discreet (Search.check r) := by
  unfold Search.check
  split
  · exact .pure ()
  · exact .bind (.ofRead _) fun _ => .throw _

theorem require (v : Json) (name : String) : Discreet (Action.require v name) := by
  intro ω answer c w
  rw [carry_require]
  split <;> rfl

theorem call (e : Endpoint) (verb : Verb) (path : String) (query : List (String × String))
    (payload : Payload) : Discreet (e.call verb path query payload) := by
  intro ω answer c w
  rcases ht : e.address.target path with f | url
  · rw [carry_call_of_refused ht]
  rcases hr : e.request url verb query payload with f | r
  · rw [carry_call_of_unmade ht hr]
  rw [carry_call_of_made ht hr]
  rcases (answer r w).1 with resp | message | f
  · unfold Endpoint.received
    dsimp only
    split <;> rfl
  · rfl
  · rfl

end Discreet

/-! ## What an operation sends -/

/-- What is asked is nothing that can be sent, or it is sent and no response comes. -/
def Unheard (e : Endpoint) (a : Ask) (t : Traffic) : Prop :=
  (t = [] ∧ ∀ r, ¬ Stage.Sends e ⟨a, fun _ => True⟩ r) ∨
    ∃ m, t = [m] ∧ Stage.Sends e ⟨a, fun _ => True⟩ m.1 ∧ ¬ Stage.Passed e ⟨a, fun _ => True⟩ m

theorem Stage.Passed.iff {e : Endpoint} {a : Ask} {resp : Response} {m : Request × Reply}
    (h : Stage.Passed e ⟨a, (· = resp)⟩ m) {passes : Response → Prop} :
    Stage.Passed e ⟨a, passes⟩ m ↔ passes resp := by
  obtain ⟨url, _, hmakes, hscheme, hresp, rfl⟩ := h
  refine ⟨?_, fun hp => ⟨url, _, hmakes, hscheme, hresp, hp⟩⟩
  rintro ⟨_, resp', -, -, hresp', hp⟩
  cases hresp.symm.trans hresp'
  exact hp

/-- One request on its own. -/
theorem Always.alone {e : Endpoint} {a : Ask} (ha : a.hasForm = true) :
    Always [] (e.call a.verb a.path a.query a.payload)
      (fun resp t => ∃ m, t = [m] ∧ Stage.Passed e ⟨a, (· = resp)⟩ m) fun _ => Unheard e a := by
  refine (Always.asked .nil ha).mono (fun resp t hheard => ?_) fun trouble t hfollows => ?_
  · cases hheard.goesOn (· = resp) rfl with
    | cons hm hrest =>
      cases hrest
      exact ⟨_, rfl, hm⟩
  · cases hfollows (fun _ => True) [] with
    | unsent h => exact .inl ⟨rfl, h⟩
    | stopped hs hm => exact .inr ⟨_, rfl, hs, hm⟩
    | passed hm hrest => cases hrest

/-- Every request that is sent while the operation is carried out has the property. -/
def SendsOnly {ε α : Type} (P : Request → Prop) (x : ExceptT ε Exchange α) : Prop :=
  Always [] x (fun _ t => ∀ m ∈ t, P m.1) fun _ t => ∀ m ∈ t, P m.1

namespace SendsOnly

variable {ε α β : Type} {P : Request → Prop} {x : ExceptT ε Exchange α}

theorem pure (a : α) : SendsOnly P (Pure.pure a : ExceptT ε Exchange α) :=
  Always.pure fun _ h => nomatch h

theorem throw (e : ε) : SendsOnly P (MonadExcept.throw e : ExceptT ε Exchange α) :=
  Always.throw fun _ h => nomatch h

theorem bind {y : ExceptT ε Exchange β} {f : β → ExceptT ε Exchange α} (hy : SendsOnly P y)
    (hf : ∀ b, SendsOnly P (f b)) : SendsOnly P (y >>= f) := by
  have happend : ∀ {t t' : Traffic}, (∀ m ∈ t, P m.1) → (∀ m ∈ t', P m.1) →
      ∀ m ∈ t ++ t', P m.1 := by
    intro t t' h h' m hm
    rcases List.mem_append.1 hm with hm | hm
    · exact h m hm
    · exact h' m hm
  refine Always.bind hy fun b t ht => (Always.after (hf b) t).mono ?_ ?_
  · rintro a _ ⟨u, rfl, hu⟩
    exact happend ht hu
  · rintro e _ ⟨u, rfl, hu⟩
    exact happend ht hu

theorem ofRead (read : Except Cause α) : SendsOnly P (Attempt.ofRead read) := by
  cases read with
  | ok a => exact pure a
  | error cause => exact throw _

theorem check (r : Response) : SendsOnly P (Search.check r) := by
  unfold Search.check
  split
  · exact pure ()
  · exact bind (ofRead _) fun _ => throw _

/-- What is asked of an endpoint is all that is sent. -/
theorem call {e : Endpoint} {verb : Verb} {path : String} {query : List (String × String)}
    {payload : Payload}
    (h : ∀ url r, (⟨verb, path, query, payload, true⟩ : Ask).Makes e url r → P r) :
    SendsOnly P (e.call verb path query payload) := by
  let a : Ask := ⟨verb, path, query, payload, true⟩
  refine (Always.alone (a := a) rfl).mono ?_ ?_
  · rintro resp t ⟨m, rfl, url, -, hmakes, -⟩ _ hm
    cases List.mem_singleton.1 hm
    exact h url _ hmakes
  · rintro - t (⟨rfl, -⟩ | ⟨m, rfl, ⟨url, hmakes⟩, -⟩) _ hm
    · cases hm
    · cases List.mem_singleton.1 hm
      exact h url _ hmakes

end SendsOnly

/-! ## How an operation goes -/

/-- Whatever is answered, an operation that begins in a context ends with a result, a context and a
traffic of which `post` holds. -/
structure Goes {ε α : Type} (c : Context) (x : ExceptT ε Exchange α)
    (post : Except ε α → Context → Traffic → Prop) : Prop where
  ends : ∀ {ω : Type} (answer : Request → ω → Reply × ω) (w : ω),
    post (carry answer x c w).1 (carry answer x c w).2.1 (traffic answer x.run c w)

namespace Goes

variable {ε α β : Type} {c : Context} {x : ExceptT ε Exchange α}
  {post post' : Except ε α → Context → Traffic → Prop}

theorem mono (h : Goes c x post) (hp : ∀ result c' t, post result c' t → post' result c' t) :
    Goes c x post' := ⟨fun answer w => hp _ _ _ (h.ends answer w)⟩

theorem and (h : Goes c x post) (h' : Goes c x post') :
    Goes c x fun result c' t => post result c' t ∧ post' result c' t :=
  ⟨fun answer w => ⟨h.ends answer w, h'.ends answer w⟩⟩

theorem pure {a : α} (h : post (.ok a) c []) : Goes c (Pure.pure a) post := ⟨fun _ _ => h⟩

theorem throw {e : ε} (h : post (.error e) c []) : Goes c (MonadExcept.throw e) post :=
  ⟨fun _ _ => h⟩

/-- What holds of the traffic from every context. -/
theorem of_always {ok : α → Traffic → Prop} {fails : ε → Traffic → Prop}
    (h : Always [] x ok fails) :
    Goes c x fun result _ t => match result with
      | .ok a => ok a t
      | .error e => fails e t :=
  ⟨fun answer w => h.ends.holds answer c w⟩

theorem of_discreet (h : Discreet x) : Goes c x fun _ c' _ => c' = c :=
  ⟨fun answer w => h _ answer c w⟩

/-- One request leaves the context as it is. -/
theorem asked {e : Endpoint} {a : Ask} (ha : a.hasForm = true) :
    Goes c (e.call a.verb a.path a.query a.payload) fun result c' t => c' = c ∧
      match result with
      | .ok resp => ∃ m, t = [m] ∧ Stage.Passed e ⟨a, (· = resp)⟩ m
      | .error _ => Unheard e a t := by
  refine ((of_discreet (.call e a.verb a.path a.query a.payload)).and
    (of_always (.alone ha))).mono fun result c' t h => ⟨h.1, ?_⟩
  cases result with
  | ok resp => exact h.2
  | error trouble => exact h.2

/-- What is made of the result of an operation. -/
theorem made {ε' : Type} {f : Except ε α → Exchange (Except ε' β)}
    {m : Except ε α → Context → Traffic → Prop} {post : Except ε' β → Context → Traffic → Prop}
    (hx : Goes c x m)
    (hf : ∀ result c' t, m result c' t → Goes c' (ExceptT.mk (f result))
      fun result' c'' t' => post result' c'' (t ++ t')) :
    Goes c (ExceptT.mk (x.run >>= f)) post := by
  refine ⟨fun answer w => ?_⟩
  have hnext := (hf _ _ _ (hx.ends answer w)).ends answer (carry answer x c w).2.2
  rw [carry_mk_bind]
  show post _ _ (traffic answer (x.run >>= f) c w)
  rw [traffic_bind]
  exact hnext

/-- What follows a step starts from what the step leaves, unless the step fails. -/
theorem bind {m : Except ε β → Context → Traffic → Prop} {y : ExceptT ε Exchange β}
    {f : β → ExceptT ε Exchange α} (hy : Goes c y m)
    (hf : ∀ b c' t, m (.ok b) c' t →
      Goes c' (f b) fun result c'' t' => post result c'' (t ++ t'))
    (he : ∀ e c' t, m (.error e) c' t → post (.error e) c' t) : Goes c (y >>= f) post := by
  refine made hy fun result c' t hm => ?_
  cases result with
  | ok b => exact hf b c' t hm
  | error e =>
    refine ⟨fun _ _ => ?_⟩
    show post (.error e) c' (t ++ [])
    rw [List.append_nil]
    exact he e c' t hm

theorem context_bind {f : Context → ExceptT ε Exchange α} (h : Goes c (f c) post) :
    Goes c ((liftM Exchange.context : ExceptT ε Exchange Context) >>= f) post :=
  ⟨fun answer w => h.ends answer w⟩

theorem modify {g : Context → Context} {post : Except ε Unit → Context → Traffic → Prop}
    (h : post (.ok ()) (g c) []) :
    Goes c (liftM (Exchange.modify g) : ExceptT ε Exchange Unit) post := ⟨fun _ _ => h⟩

theorem modify_bind {g : Context → Context} {f : Unit → ExceptT ε Exchange α}
    (h : Goes (g c) (f ()) post) :
    Goes c ((liftM (Exchange.modify g) : ExceptT ε Exchange Unit) >>= f) post :=
  ⟨fun answer w => h.ends answer w⟩

theorem emit_bind {level : Level} {name : String} {f : Unit → ExceptT ε Exchange α}
    (h : Goes (c.record ⟨level, name, []⟩) (f ()) post) :
    Goes c ((liftM (Exchange.emit level name) : ExceptT ε Exchange Unit) >>= f) post :=
  modify_bind h

/-- What was read without trouble is at hand; any trouble is the end. -/
theorem ofRead_bind {read : Except Cause β} {f : β → Attempt α}
    {post : Except Trouble α → Context → Traffic → Prop}
    (hf : ∀ cause, read = .error cause → post (.error (.cause cause)) c [])
    (h : ∀ b, read = .ok b → Goes c (f b) post) : Goes c (Attempt.ofRead read >>= f) post := by
  cases read with
  | ok b => exact ⟨fun answer w => (h b rfl).ends answer w⟩
  | error cause => exact ⟨fun _ _ => hf cause rfl⟩

/-- A check goes on after a success, and breaks off at any other response. -/
theorem check_bind {r : Response} {f : Unit → Attempt α}
    {post : Except Trouble α → Context → Traffic → Prop}
    (hf : r.isSuccess = false → ∀ trouble, post (.error trouble) c [])
    (h : r.isSuccess = true → Goes c (f ()) post) : Goes c (Search.check r >>= f) post := by
  unfold Search.check
  cases hs : r.isSuccess with
  | true => exact ⟨fun answer w => (h hs).ends answer w⟩
  | false =>
    rcases Search.errorType r with cause | type
    · exact ⟨fun _ _ => hf hs _⟩
    · exact ⟨fun _ _ => hf hs _⟩

/-- An attempt ends as it is, or as its trouble is taken. -/
theorem guarded {x : Attempt α} {onTrouble : Trouble → Action α}
    {m : Except Trouble α → Context → Traffic → Prop}
    {post : Except Failure α → Context → Traffic → Prop} (hx : Goes c x m)
    (hok : ∀ a c' t, m (.ok a) c' t → post (.ok a) c' t)
    (ht : ∀ trouble c' t, m (.error trouble) c' t →
      Goes c' (onTrouble trouble) fun result c'' t' => post result c'' (t ++ t')) :
    Goes c (x.guarded onTrouble) post := by
  refine made hx fun result c' t hm => ?_
  cases result with
  | ok a =>
    refine ⟨fun _ _ => ?_⟩
    show post (.ok a) c' (t ++ [])
    rw [List.append_nil]
    exact hok a c' t hm
  | error trouble => exact ht trouble c' t hm

/-- Under another name for its failure an action goes as it does, but for the event. -/
theorem shielded {activity : Activity} {name : String} {action : Action α}
    {m post : Except Failure α → Context → Traffic → Prop} (h : Goes c action m)
    (hok : ∀ a c' t, m (.ok a) c' t → post (.ok a) c' t)
    (he : ∀ e c' t, m (.error (.error e)) c' t → post (.error (.error e)) c' t)
    (hf : ∀ f e c' t, m (.error f) c' t →
      post (.error (.error e)) (c'.record ⟨.error, name, []⟩) t) :
    Goes c (Depot.shielded activity name action) post := by
  refine made h fun result c' t hm => ?_
  rcases result with (e | issues | f) | a
  all_goals
    refine ⟨fun _ _ => ?_⟩
    show post _ _ (t ++ [])
    rw [List.append_nil]
  · exact he e c' t hm
  · exact hf _ _ c' t hm
  · exact hf _ _ c' t hm
  · exact hok a c' t hm

theorem require_bind {v : Json} {name : String} {f : Unit → Action α}
    {post : Except Failure α → Context → Traffic → Prop}
    (hb : v.isBlank = true → post (.error (.error (.emptyParameter name))) c [])
    (h : v.isBlank = false → Goes c (f ()) post) :
    Goes c (Action.require v name >>= f) post := by
  unfold Action.require ContentDepot.require
  cases hv : v.isBlank with
  | true => exact ⟨fun _ _ => hb hv⟩
  | false => exact ⟨fun answer w => (h hv).ends answer w⟩

end Goes

/-! ## What an operation leaves of the context -/

/-- Whatever is answered, the context that an operation leaves stands in a relation to the one
before. -/
def Leaves {ε α : Type} (R : Context → Context → Prop) (x : ExceptT ε Exchange α) : Prop :=
  ∀ c, Goes c x fun _ c' _ => R c c'

namespace Leaves

variable {ε α β : Type} {R : Context → Context → Prop} {x : ExceptT ε Exchange α}

theorem context_bind {f : Context → ExceptT ε Exchange α} (h : ∀ c, Leaves R (f c)) :
    Leaves R ((liftM Exchange.context : ExceptT ε Exchange Context) >>= f) :=
  fun c => .context_bind (h c c)

theorem modify {g : Context → Context} (hg : ∀ c, R c (g c)) :
    Leaves R (liftM (Exchange.modify g) : ExceptT ε Exchange Unit) := fun c => .modify (hg c)

/-- An event before the end. -/
theorem emitted {level : Level} {name : String} {result : Except ε α}
    (he : ∀ c : Context, R c (c.record ⟨level, name, []⟩)) :
    Leaves R (ExceptT.mk do
      Exchange.emit level name
      pure result) := fun c => ⟨fun _ _ => he c⟩

theorem fail {activity : Activity} {name : String} {t : Trouble}
    (he : ∀ c : Context, R c (c.record ⟨.error, name, []⟩)) :
    Leaves R (MetadataIndex.fail activity name t : Action α) := by
  cases t <;> exact emitted he

theorem failWith {activity : Activity} {name : String} {t : Trouble}
    (he : ∀ c : Context, R c (c.record ⟨.error, name, []⟩)) :
    Leaves R (ContentStore.failWith activity name t : Action α) := by
  cases t <;> exact emitted he

variable [IsPreorder Context R]

theorem of_discreet (h : Discreet x) : Leaves R x := by
  refine fun c => ⟨fun answer w => ?_⟩
  rw [h _ answer c w]
  exact refl c

theorem made {ε' : Type} {f : Except ε α → Exchange (Except ε' β)} (hx : Leaves R x)
    (hf : ∀ result, Leaves R (ExceptT.mk (f result))) :
    Leaves R (ExceptT.mk (x.run >>= f)) :=
  fun c => .made (hx c) fun result c' _ hc =>
    (hf result c').mono fun _ _ _ hc' => IsTrans.trans _ _ _ hc hc'

theorem bind {y : ExceptT ε Exchange β} {f : β → ExceptT ε Exchange α} (hy : Leaves R y)
    (hf : ∀ b, Leaves R (f b)) : Leaves R (y >>= f) :=
  fun c => .bind (hy c)
    (fun b c' _ hc => (hf b c').mono fun _ _ _ hc' => IsTrans.trans _ _ _ hc hc') fun _ _ _ hc => hc

theorem emit_bind {level : Level} {name : String} {f : Unit → ExceptT ε Exchange α}
    (he : ∀ c : Context, R c (c.record ⟨level, name, []⟩)) (hf : Leaves R (f ())) :
    Leaves R ((liftM (Exchange.emit level name) : ExceptT ε Exchange Unit) >>= f) :=
  bind (modify he) fun _ => hf

theorem guarded {x : Attempt α} {onTrouble : Trouble → Action α} (hx : Leaves R x)
    (ht : ∀ t, Leaves R (onTrouble t)) : Leaves R (x.guarded onTrouble) := by
  refine made hx fun result => ?_
  cases result with
  | ok a => exact .of_discreet (.pure a)
  | error t => exact ht t

theorem shielded {activity : Activity} {name : String} {action : Action α}
    (he : ∀ c : Context, R c (c.record ⟨.error, name, []⟩)) (h : Leaves R action) :
    Leaves R (Depot.shielded activity name action) := by
  refine made h fun result => ?_
  rcases result with (e | issues | f) | a
  · exact .of_discreet (.throw _)
  · exact emitted he
  · exact emitted he
  · exact .of_discreet (.pure a)

theorem connected {s : Settings} {b : Backend}
    (he : ∀ c : Context, R c (c.record ⟨.info, connectingEvent b, []⟩))
    (ho : ∀ c : Context, R c (c.openTo b)) : Leaves R (ContentDepot.connected s b) := by
  unfold ContentDepot.connected connect
  refine bind (context_bind fun c => ?_) fun _ => ?_
  · split
    · exact .of_discreet (.pure ())
    · refine emit_bind he ?_
      split
      · exact .of_discreet (.throw _)
      · exact modify ho
  · split
    · exact .of_discreet (.throw _)
    · exact .of_discreet (.pure _)

end Leaves

/-! ## What an operation leaves of the log -/

/-- The log has only grown, by events of other names. -/
def Context.LogsNone (name : String) (c c' : Context) : Prop :=
  ∃ events : List LoggedEvent, c'.log = c.log ++ events ∧ ∀ e ∈ events, e.event.name ≠ name

namespace Context

variable {name : String}

instance : IsPreorder Context (LogsNone name) where
  refl c := ⟨[], (List.append_nil _).symm, fun _ h => nomatch h⟩
  trans c c' c'' := by
    rintro ⟨events, hlog, hnone⟩ ⟨events', hlog', hnone'⟩
    refine ⟨events ++ events', ?_, fun e he => ?_⟩
    · rw [hlog', hlog, List.append_assoc]
    · rcases List.mem_append.1 he with he | he
      · exact hnone e he
      · exact hnone' e he

theorem logsNone_record {e : Event} (he : e.name ≠ name) (c : Context) :
    c.LogsNone name (c.record e) := by
  refine ⟨[_], rfl, fun e' h => ?_⟩
  rw [List.mem_singleton.1 h]
  exact he

theorem logsNone_of_eq {c c' : Context} (h : c'.log = c.log) : c.LogsNone name c' :=
  ⟨[], h.trans (List.append_nil _).symm, fun _ h => nomatch h⟩

theorem log_openTo (c : Context) (b : Backend) : (c.openTo b).log = c.log := by
  cases b <;> rfl

theorem log_markMapped (c : Context) (index : String) : (c.markMapped index).log = c.log := by
  unfold markMapped
  split <;> rfl

end Context

end ContentDepot
