import ContentDepot.Exchange.Connection

/-!
# Carrying operations out

An operation that may fail, carried out opposite backends that answer from a
state of theirs (`Exchange.carry`). What it does is read off step by step:

* `carry_bind`: what comes after a step starts from what the step leaves;
* `carry_bind_ok`: an operation that succeeds is a chain of steps that do;
* `carry_guarded_ok`: an attempt that is passed on succeeded itself;
* `carry_call_ok`: a request that is sent meets the answer of the backends;
* `carry_call_of_refused`, `carry_call_of_unmade`: one that cannot be made meets none.
-/

namespace ContentDepot

namespace Exchange

variable {ω ε α β : Type} (answer : Request → ω → Reply × ω)

/-- The result of an operation that may fail, the context and the state of the backends after it. -/
def carry (x : ExceptT ε Exchange α) (c : Context) (w : ω) : Except ε α × Context × ω :=
  run answer x.run c w

@[simp] theorem carry_pure (a : α) (c : Context) (w : ω) :
    carry answer (pure a : ExceptT ε Exchange α) c w = (.ok a, c, w) := rfl

@[simp] theorem carry_throw (e : ε) (c : Context) (w : ω) :
    carry answer (throw e : ExceptT ε Exchange α) c w = (.error e, c, w) := rfl

/-- A talk that cannot fail, as a step of an operation that may. -/
theorem carry_lift (x : Exchange α) (c : Context) (w : ω) :
    carry answer (liftM x : ExceptT ε Exchange α) c w =
      (.ok (run answer x c w).1, (run answer x c w).2) := by
  show run answer (x >>= fun a => pure (Except.ok a)) c w = _
  rw [run_bind]; rfl

@[simp] theorem carry_context (c : Context) (w : ω) :
    carry answer (liftM context : ExceptT ε Exchange Context) c w = (.ok c, c, w) :=
  carry_lift answer context c w

@[simp] theorem carry_modify (f : Context → Context) (c : Context) (w : ω) :
    carry answer (liftM (modify f) : ExceptT ε Exchange Unit) c w = (.ok (), f c, w) :=
  carry_lift answer (modify f) c w

@[simp] theorem carry_emit (level : Level) (name : String) (c : Context) (w : ω) :
    carry answer (liftM (emit level name) : ExceptT ε Exchange Unit) c w =
      (.ok (), c.record ⟨level, name, []⟩, w) :=
  carry_lift answer (emit level name) c w

theorem run_emitAll (events : List Event) (c : Context) (w : ω) :
    run answer (emitAll events) c w = ((), events.foldl Context.record c, w) := by
  induction events generalizing c with
  | nil => rfl
  | cons e es ih => exact (run_bind answer (modify (·.record e)) _ c w).trans (ih (c.record e))

@[simp] theorem carry_emitAll (events : List Event) (c : Context) (w : ω) :
    carry answer (liftM (emitAll events) : ExceptT ε Exchange Unit) c w =
      (.ok (), events.foldl Context.record c, w) := by
  rw [carry_lift, run_emitAll]

/-- What follows a step starts from what the step leaves, unless the step fails. -/
theorem carry_bind (x : ExceptT ε Exchange α) (f : α → ExceptT ε Exchange β) (c : Context)
    (w : ω) :
    carry answer (x >>= f) c w = match carry answer x c w with
      | (.ok a, c', w') => carry answer (f a) c' w'
      | (.error e, c', w') => (.error e, c', w') := by
  unfold carry
  rw [ExceptT.run_bind, run_bind]
  rcases run answer x.run c w with ⟨_ | _, _, _⟩ <;> rfl

variable {answer}

/-- An operation succeeds if its first step does and then the rest does. -/
theorem carry_bind_ok {x : ExceptT ε Exchange α} {f : α → ExceptT ε Exchange β} {c c' : Context}
    {w w' : ω} {b : β} :
    carry answer (x >>= f) c w = (.ok b, c', w') ↔
      ∃ a c₁ w₁, carry answer x c w = (.ok a, c₁, w₁) ∧
        carry answer (f a) c₁ w₁ = (.ok b, c', w') := by
  rw [carry_bind]
  rcases carry answer x c w with ⟨_ | a, c₁, w₁⟩
  · simp
  · refine ⟨fun h => ⟨a, c₁, w₁, rfl, h⟩, ?_⟩
    rintro ⟨_, _, _, h, h'⟩
    cases h
    exact h'

/-- A first step that succeeds leaves the rest to be carried out. -/
theorem carry_bind_of_ok {x : ExceptT ε Exchange α} {f : α → ExceptT ε Exchange β}
    {c c₁ : Context} {w w₁ : ω} {a : α} (h : carry answer x c w = (.ok a, c₁, w₁)) :
    carry answer (x >>= f) c w = carry answer (f a) c₁ w₁ := by
  rw [carry_bind, h]

/-- A first step that fails is the end. -/
theorem carry_bind_of_error {x : ExceptT ε Exchange α} {f : α → ExceptT ε Exchange β}
    {c c₁ : Context} {w w₁ : ω} {e : ε} (h : carry answer x c w = (.error e, c₁, w₁)) :
    carry answer (x >>= f) c w = (.error e, c₁, w₁) := by
  rw [carry_bind, h]

@[simp] theorem carry_ofRead_ok {a : α} {read : Except Cause α} {c c' : Context} {w w' : ω} :
    carry answer (Attempt.ofRead read) c w = (.ok a, c', w') ↔ read = .ok a ∧ c = c' ∧ w = w' := by
  cases read <;> simp [Attempt.ofRead]

@[simp] theorem carry_fault {f : Fault} {c : Context} {w : ω} :
    carry answer (Attempt.fault f : Attempt α) c w = (.error (.cause (.fault f)), c, w) := rfl

@[simp] theorem carry_refuse {e : StoreError} {c : Context} {w : ω} :
    carry answer (Action.refuse e : Action α) c w = (.error (.error e), c, w) := rfl

theorem isBlank_str {t : String} (ht : t ≠ "") : (Json.str t).isBlank = false := by
  simpa [Json.isBlank] using ht

theorem carry_require (v : Json) (name : String) (c : Context) (w : ω) :
    carry answer (Action.require v name) c w =
      if v.isBlank then (.error (.error (.emptyParameter name)), c, w) else (.ok (), c, w) := by
  simp only [Action.require, ContentDepot.require]
  split <;> rfl

/-- What is made of the result of an operation starts from what the operation leaves. -/
theorem carry_mk_bind {ε' : Type} (x : ExceptT ε Exchange α)
    (f : Except ε α → Exchange (Except ε' β)) (c : Context) (w : ω) :
    carry answer (ExceptT.mk (x.run >>= f)) c w =
      run answer (f (carry answer x c w).1) (carry answer x c w).2.1 (carry answer x c w).2.2 :=
  run_bind answer x.run f c w

/-- An attempt that is passed on ends as it ended, or as its failure is taken. -/
theorem carry_guarded (x : Attempt α) (onTrouble : Trouble → Action α) (c : Context) (w : ω) :
    carry answer (x.guarded onTrouble) c w = match carry answer x c w with
      | (.ok a, c', w') => (.ok a, c', w')
      | (.error t, c', w') => carry answer (onTrouble t) c' w' := by
  show run answer (x.run >>= _) c w = _
  rw [run_bind]
  unfold carry
  rcases run answer x.run c w with ⟨_ | _, _, _⟩ <;> rfl

/-- Where no failure is taken for a success, an attempt that is passed on succeeded itself. -/
theorem carry_guarded_ok {x : Attempt α} {onTrouble : Trouble → Action α}
    (hf : ∀ t c w, ∃ e, (carry answer (onTrouble t) c w).1 = .error e) {c c' : Context} {w w' : ω}
    {a : α} :
    carry answer (x.guarded onTrouble) c w = (.ok a, c', w') ↔
      carry answer x c w = (.ok a, c', w') := by
  rw [carry_guarded]
  rcases carry answer x c w with ⟨t | b, c₁, w₁⟩
  · obtain ⟨e, he⟩ := hf t c₁ w₁
    refine ⟨fun h => ?_, fun h => by cases h⟩
    rw [show carry answer (onTrouble t) c₁ w₁ = (.ok a, c', w') from h] at he
    cases he
  · simp only [Prod.mk.injEq, Except.ok.injEq]

/-- A request that can be made meets the answer of the backends. -/
theorem carry_call_of_made {e : Endpoint} {verb : Verb} {path : String}
    {query : List (String × String)} {payload : Payload} {url : Url} {r : Request}
    (ht : e.address.target path = .ok url) (hr : e.request url verb query payload = .ok r)
    (c : Context) (w : ω) :
    carry answer (e.call verb path query payload) c w =
      carry answer (Endpoint.received url (answer r w).1) c (answer r w).2 := by
  have hc : carry answer (liftM (ask r) >>= Endpoint.received url) c w =
      carry answer (Endpoint.received url (answer r w).1) c (answer r w).2 := by
    rw [carry_bind, carry_lift]; rfl
  unfold Endpoint.call
  simp only [Bind.bind, Except.bind, Pure.pure, Except.pure, ht, hr] at hc ⊢
  exact hc

theorem carry_received_ok {url : Url} {reply : Reply} {resp : Response} {c c' : Context}
    {w w' : ω} :
    carry answer (Endpoint.received url reply) c w = (.ok resp, c', w') ↔
      reply = .response resp ∧ url.namesScheme = true ∧ c = c' ∧ w = w' := by
  cases reply with
  | response r => by_cases h : url.namesScheme = true <;> simp [Endpoint.received, h]
  | disrupted message => simp [Endpoint.received]
  | fault f => simp [Endpoint.received]

/-- A request whose reply is of use was one that could be made. -/
theorem carry_call_ok {e : Endpoint} {verb : Verb} {path : String}
    {query : List (String × String)} {payload : Payload} {resp : Response} {c c' : Context}
    {w w' : ω} :
    carry answer (e.call verb path query payload) c w = (.ok resp, c', w') ↔
      ∃ url r, e.address.target path = .ok url ∧ e.request url verb query payload = .ok r ∧
        url.namesScheme = true ∧ answer r w = (.response resp, w') ∧ c = c' := by
  constructor
  · intro h
    rcases ht : e.address.target path with f | url
    · simp [Endpoint.call, ht, Bind.bind, Except.bind] at h
    rcases hr : e.request url verb query payload with f | r
    · simp [Endpoint.call, ht, hr, Bind.bind, Except.bind] at h
    rw [carry_call_of_made ht hr, carry_received_ok] at h
    obtain ⟨hreply, hs, hc, hw⟩ := h
    exact ⟨url, r, rfl, hr, hs, Prod.ext hreply hw, hc⟩
  · rintro ⟨url, r, ht, hr, hs, ha, rfl⟩
    rw [carry_call_of_made ht hr, carry_received_ok, ha]
    exact ⟨rfl, hs, rfl, rfl⟩

/-- A request that the address does not admit is not sent. -/
theorem carry_call_of_refused {e : Endpoint} {path : String} {f : Fault}
    (h : e.address.target path = .error f) (verb : Verb) (query : List (String × String))
    (payload : Payload) (c : Context) (w : ω) :
    carry answer (e.call verb path query payload) c w = (.error (.cause (.fault f)), c, w) := by
  unfold Endpoint.call
  rw [h]; rfl

/-- A request that cannot be made is not sent. -/
theorem carry_call_of_unmade {e : Endpoint} {verb : Verb} {path : String}
    {query : List (String × String)} {payload : Payload} {url : Url} {f : Fault}
    (ht : e.address.target path = .ok url) (hr : e.request url verb query payload = .error f)
    (c : Context) (w : ω) :
    carry answer (e.call verb path query payload) c w = (.error (.cause (.fault f)), c, w) := by
  unfold Endpoint.call
  simp only [Bind.bind, Except.bind, ht, hr]
  rfl

end Exchange

end ContentDepot
