import ContentDepot.Proofs.InMemory.Answers
import ContentDepot.Proofs.Session.Crowd
import ContentDepot.Proofs.Session.Standing

/-!
# How talks that go on at once conduct themselves

What is said of a talk while others go on at the same time can only rest on what no
other can undo. A conduct (`Conduct`) gives a talk phases; in a phase it knows facts
that no request whatsoever makes false, and each of its steps leads from one phase to
a next, with what the step does to the backends. A talk that follows a conduct
(`Follows`) does so whatever the others do between its steps.

* `Keeps.bind`, `Keeps.guarded`, `Keeps.call`: along the text of an operation;
* `Agrees.turn`, `Agrees.run`: talks that follow a conduct, taken together, do in
  every schedule nothing but the steps that it allows.
-/

namespace ContentDepot

open Exchange InMemory Address

theorem World.has_answer {w : World} (hw : w.Live) {index : String}
    (h : Entries.has w.engine.indices index = true) (r : Request) :
    Entries.has (w.answer r).2.engine.indices index = true := by
  cases hb : r.backend with
  | content =>
    rw [World.answer_content hw hb]
    exact h
  | engine =>
    rw [World.answer_engine hw hb]
    exact Engine.has_answer h r

theorem World.failing_answer {w : World} (hw : w.Live) (r : Request) :
    (w.answer r).2.engine.failing = w.engine.failing := by
  cases hb : r.backend with
  | content => rw [World.answer_content hw hb]
  | engine =>
    rw [World.answer_engine hw hb]
    exact Engine.failing_answer ..

/-- What talks may do, each of them under a number of its own. -/
structure Conduct (Φ : Type) where
  /-- The names under which an index is there if a process takes it to be. -/
  trusts : String → Prop
  /-- What a talk knows in a phase. -/
  Fact : Nat → Φ → World → Prop
  /-- What a talk may do in a step, which leads from a phase to a phase. -/
  Step : Nat → Φ → World → Φ → World → Prop
  /-- No request undoes what a talk knows. -/
  lasts : ∀ {i φ w} (r : Request), w.Live → Fact i φ w → Fact i φ (w.answer r).2

namespace Conduct

variable {Φ α β ε : Type} (K : Conduct Φ) (i : Nat)

/-- Of the names that a process knows, those that are trusted lead to indices that are there. -/
def Sound (mapped : List String) (w : World) : Prop :=
  ∀ name ∈ mapped, K.trusts name → Entries.has w.engine.indices name = true

theorem Sound.answer {K : Conduct Φ} {mapped : List String} {w : World} (h : K.Sound mapped w)
    (hw : w.Live) (r : Request) : K.Sound mapped (w.answer r).2 :=
  fun name hn ht => World.has_answer hw (h name hn ht) r

/-- Whatever happens between its steps, the talk goes on as it may, and it ends as `post` says. -/
def Follows (post : Φ → α → Prop) : Exchange α → Φ → Prop
  | .done a, φ => post φ a
  | .send r next, φ => ∀ w : World, w.Live → K.Fact i φ w →
    ∃ φ', K.Step i φ w φ' (w.answer r).2 ∧ K.Fact i φ' (w.answer r).2 ∧
      Follows post (next (w.answer r).1) φ'
  | .look next, φ => ∀ (c : Context) (w : World), w.Live → K.Sound c.mapped w → K.Fact i φ w →
    ∃ φ', K.Step i φ w φ' w ∧ K.Fact i φ' w ∧ Follows post (next c) φ'
  | .change f next, φ =>
    (∀ (c : Context) (w : World), K.Sound c.mapped w → K.Fact i φ w → K.Sound (f c).mapped w) ∧
      Follows post next φ

variable {K i} {φ : Φ} {post : Φ → α → Prop}

theorem Follows.mono {post' : Φ → α → Prop} {x : Exchange α} (h : K.Follows i post x φ)
    (hp : ∀ φ a, post φ a → post' φ a) : K.Follows i post' x φ := by
  induction x generalizing φ with
  | done a => exact hp _ _ h
  | send r next ih =>
    intro w hw hf
    obtain ⟨φ', hs, hf', h'⟩ := h w hw hf
    exact ⟨φ', hs, hf', ih _ h'⟩
  | look next ih =>
    intro c w hw hc hf
    obtain ⟨φ', hs, hf', h'⟩ := h c w hw hc hf
    exact ⟨φ', hs, hf', ih _ h'⟩
  | change f next ih => exact ⟨h.1, ih h.2⟩

theorem Follows.bind {m : Φ → β → Prop} {x : Exchange β} {f : β → Exchange α}
    (hx : K.Follows i m x φ) (hf : ∀ φ b, m φ b → K.Follows i post (f b) φ) :
    K.Follows i post (x >>= f) φ := by
  show K.Follows i post (x.andThen f) φ
  induction x generalizing φ with
  | done b => exact hf _ _ hx
  | send r next ih =>
    intro w hw hfact
    obtain ⟨φ', hs, hf', h'⟩ := hx w hw hfact
    exact ⟨φ', hs, hf', ih _ h'⟩
  | look next ih =>
    intro c w hw hc hfact
    obtain ⟨φ', hs, hf', h'⟩ := hx c w hw hc hfact
    exact ⟨φ', hs, hf', ih _ h'⟩
  | change g next ih => exact ⟨hx.1, ih hx.2⟩

/-! ## Operations that may fail -/

variable (K i)

/-- In a phase the operation goes on as it may; it ends with a result and a phase of which `post`
holds, or with a failure and a phase of which `fails` holds. -/
structure Keeps (φ : Φ) (x : ExceptT ε Exchange α) (post : Φ → α → Prop)
    (fails : Φ → ε → Prop) : Prop where
  follows : K.Follows i (fun φ result => match result with
    | .ok a => post φ a
    | .error e => fails φ e) x.run φ

namespace Keeps

variable {K i} {fails : Φ → ε → Prop} {x : ExceptT ε Exchange α}

theorem mono {post' : Φ → α → Prop} {fails' : Φ → ε → Prop} (h : K.Keeps i φ x post fails)
    (hp : ∀ φ a, post φ a → post' φ a) (hf : ∀ φ e, fails φ e → fails' φ e) :
    K.Keeps i φ x post' fails' := by
  refine ⟨h.follows.mono fun φ result hr => ?_⟩
  cases result with
  | ok a => exact hp _ _ hr
  | error e => exact hf _ _ hr

theorem pure {a : α} (h : post φ a) :
    K.Keeps i φ (Pure.pure a : ExceptT ε Exchange α) post fails := ⟨h⟩

theorem throw {e : ε} (h : fails φ e) :
    K.Keeps i φ (MonadExcept.throw e : ExceptT ε Exchange α) post fails := ⟨h⟩

theorem bind {m : Φ → β → Prop} {y : ExceptT ε Exchange β} {f : β → ExceptT ε Exchange α}
    (hy : K.Keeps i φ y m fails) (hf : ∀ φ b, m φ b → K.Keeps i φ (f b) post fails) :
    K.Keeps i φ (y >>= f) post fails := by
  refine ⟨?_⟩
  rw [ExceptT.run_bind]
  refine hy.follows.bind fun φ result hr => ?_
  cases result with
  | ok b => exact (hf φ b hr).follows
  | error e => exact hr

/-- Nothing follows a failure. -/
theorem throw_bind {e : ε} {f : β → ExceptT ε Exchange α} (h : fails φ e) :
    K.Keeps i φ (MonadExcept.throw e >>= f) post fails :=
  bind (m := fun _ _ => False) (throw h) fun _ _ h => h.elim

/-- A talk that cannot fail, as a step of an operation that may. -/
theorem lift {y : Exchange α} (h : K.Follows i post y φ) :
    K.Keeps i φ (liftM y : ExceptT ε Exchange α) post fails :=
  ⟨Follows.bind (f := fun a => Pure.pure (Except.ok a)) h fun _ _ ha => ha⟩

/-- A look at the context shows which indices are taken to be there. -/
theorem context_bind {f : Context → ExceptT ε Exchange α}
    (h : ∀ (c : Context) (w : World), w.Live → K.Sound c.mapped w → K.Fact i φ w →
      ∃ φ', K.Step i φ w φ' w ∧ K.Fact i φ' w ∧ K.Keeps i φ' (f c) post fails) :
    K.Keeps i φ ((liftM Exchange.context : ExceptT ε Exchange Context) >>= f) post fails := by
  refine ⟨?_⟩
  rw [ExceptT.run_bind]
  intro c w hw hc hfact
  obtain ⟨φ', hs, hf', hk⟩ := h c w hw hc hfact
  exact ⟨φ', hs, hf', hk.follows⟩

/-- What a process knows may be changed in other ways than by more indices. -/
theorem modify {g : Context → Context} {post : Φ → Unit → Prop}
    (hg : ∀ (c : Context) (w : World), K.Sound c.mapped w → K.Fact i φ w →
      K.Sound (g c).mapped w) (h : post φ ()) :
    K.Keeps i φ (liftM (Exchange.modify g) : ExceptT ε Exchange Unit) post fails :=
  lift ⟨hg, h⟩

theorem emit {level : Level} {name : String} {post : Φ → Unit → Prop} (h : post φ ()) :
    K.Keeps i φ (liftM (Exchange.emit level name) : ExceptT ε Exchange Unit) post fails :=
  modify (fun _ _ hc _ => hc) h

theorem emit_bind {level : Level} {name : String} {f : Unit → ExceptT ε Exchange α}
    (h : K.Keeps i φ (f ()) post fails) :
    K.Keeps i φ ((liftM (Exchange.emit level name) : ExceptT ε Exchange Unit) >>= f) post fails :=
  bind (m := fun φ' _ => φ' = φ) (emit rfl) fun _ _ hφ => hφ ▸ h

theorem emitAll {events : List Event} {post : Φ → Unit → Prop} (h : post φ ()) :
    K.Keeps i φ (liftM (Exchange.emitAll events) : ExceptT ε Exchange Unit) post fails := by
  refine lift ?_
  induction events with
  | nil => exact h
  | cons e es ih => exact ⟨fun _ _ hc _ => hc, ih⟩

theorem require {v : Json} {name : String} {post : Φ → Unit → Prop} {fails : Φ → Failure → Prop}
    (hf : v.isBlank = true → fails φ (.error (.emptyParameter name)))
    (h : v.isBlank = false → post φ ()) :
    K.Keeps i φ (Action.require v name) post fails := by
  unfold Action.require ContentDepot.require
  cases hb : v.isBlank with
  | true => exact throw (hf hb)
  | false => exact pure (h hb)

/-- A name that leads to an index that is there may be marked as known. -/
theorem markMapped {name : String} {post : Φ → Unit → Prop}
    (hn : ∀ w, K.Fact i φ w → K.trusts name → Entries.has w.engine.indices name = true)
    (h : post φ ()) :
    K.Keeps i φ (liftM (Exchange.modify (·.markMapped name)) : ExceptT ε Exchange Unit) post
      fails := by
  refine modify (fun c w hc hfact other ho ht => ?_) h
  unfold Context.markMapped at ho
  split at ho
  · exact hc other ho ht
  · rcases List.mem_append.1 ho with ho | ho
    · exact hc other ho ht
    · obtain rfl := List.mem_singleton.1 ho
      exact hn w hfact ht

/-! ## Attempts -/

section Attempts

variable {fails : Φ → Trouble → Prop}

theorem ofRead {read : Except Cause α} (h : ∀ a, read = .ok a → post φ a)
    (hf : ∀ cause, read = .error cause → fails φ (.cause cause)) :
    K.Keeps i φ (Attempt.ofRead read) post fails := by
  cases read with
  | ok a => exact pure (h a rfl)
  | error cause => exact throw (hf cause rfl)

theorem ofRead_bind {read : Except Cause β} {f : β → Attempt α}
    (hf : ∀ cause, read = .error cause → fails φ (.cause cause))
    (h : ∀ b, read = .ok b → K.Keeps i φ (f b) post fails) :
    K.Keeps i φ (Attempt.ofRead read >>= f) post fails := by
  refine bind (m := fun φ' b => read = .ok b ∧ φ' = φ)
    (ofRead (fun b hb => ⟨hb, rfl⟩) hf) fun φ' b hmid => ?_
  obtain ⟨hb, rfl⟩ := hmid
  exact h b hb

/-- After a check a response was a success. -/
theorem check_bind {r : Response} {f : Unit → Attempt α}
    (hf : r.isSuccess = false → ∀ t, fails φ t)
    (h : r.isSuccess = true → K.Keeps i φ (f ()) post fails) :
    K.Keeps i φ (Search.check r >>= f) post fails := by
  refine bind (m := fun φ' _ => r.isSuccess = true ∧ φ' = φ) ?_ fun φ' _ hmid => by
    obtain ⟨hr, rfl⟩ := hmid
    exact h hr
  unfold Search.check
  cases hr : r.isSuccess with
  | true => exact pure ⟨rfl, rfl⟩
  | false => exact ofRead_bind (fun _ _ => hf hr _) fun _ _ => throw (hf hr _)

/-- An attempt that breaks off ends as its trouble is taken. -/
theorem guarded {x : Attempt α} {onTrouble : Trouble → Action α} {fails : Φ → Failure → Prop}
    (h : K.Keeps i φ x post fun φ t => K.Keeps i φ (onTrouble t) post fails) :
    K.Keeps i φ (x.guarded onTrouble) post fails := by
  refine ⟨?_⟩
  show K.Follows i _ (x.run >>= _) φ
  refine h.follows.bind fun φ result hr => ?_
  cases result with
  | ok a => exact hr
  | error t => exact hr.follows

end Attempts

/-- The endpoint of a backend that settings name is there; nothing is done to the backends. -/
theorem connected_bind {s : Settings} {b : Backend} {e : Endpoint} {f : Endpoint → Action α}
    {fails : Φ → Failure → Prop} (he : s.endpoint? b = some e)
    (hstay : ∀ w : World, w.Live → K.Fact i φ w → K.Step i φ w φ w)
    (h : K.Keeps i φ (f e) post fails) :
    K.Keeps i φ (ContentDepot.connected s b >>= f) post fails := by
  refine bind (m := fun φ' e' => φ' = φ ∧ e' = e) ?_ fun _ _ he' => by
    obtain ⟨rfl, rfl⟩ := he'
    exact h
  unfold ContentDepot.connected connect
  refine bind (m := fun φ' _ => φ' = φ) (context_bind fun c w hw _ hfact =>
    ⟨φ, hstay w hw hfact, hfact, ?_⟩) fun _ _ hφ => ?_
  · split
    · exact pure rfl
    · refine emit_bind ?_
      rw [he]
      exact modify (fun c w hc _ => by cases b <;> exact hc) rfl
  · rw [he]
    exact pure ⟨hφ, rfl⟩

section Requests

variable {e : Endpoint} {verb : Verb} {query : List (String × String)} {payload : Payload}
  {post : Φ → Response → Prop} {fails : Φ → Trouble → Prop}

/-- A request does what the answer to it does, and one that cannot be made does nothing. -/
theorem call {cs : List Char} (ha : e.address.base.IsRoot)
    (hunsent : (∀ url, e.address.target (String.ofList ('/' :: cs)) ≠ .ok url) ∨
      payload.isSendable = false ∨ Url.maxLength < Address.queryLength query →
        ∀ f, fails φ (.cause (.fault f)))
    (hsent : ∀ url r, e.address.target (String.ofList ('/' :: cs)) = .ok url →
      e.request url verb query payload = .ok r → ∀ w : World, w.Live → K.Fact i φ w →
        ∃ φ', K.Step i φ w φ' (w.answer r).2 ∧ K.Fact i φ' (w.answer r).2 ∧
          match (w.answer r).1.result with
          | .ok resp => post φ' resp
          | .error t => fails φ' t) :
    K.Keeps i φ (e.call verb (String.ofList ('/' :: cs)) query payload) post fails := by
  unfold Endpoint.call
  -- No address, no request, or a request that is sent and its reply.
  rcases ht : e.address.target (String.ofList ('/' :: cs)) with f | url
  · exact throw (hunsent (.inl fun url h => by rw [ht] at h; cases h) f)
  rcases hr : e.request url verb query payload with f | r
  · have hno : payload.isSendable = false ∨ Url.maxLength < Address.queryLength query := by
      rw [Endpoint.request_eq] at hr
      by_cases hq : Url.maxLength < Address.queryLength query
      · exact .inr hq
      · rw [if_neg hq] at hr
        cases hp : payload.isSendable with
        | true =>
          rw [hp, if_pos rfl] at hr
          cases hr
        | false => exact .inl rfl
    simp only [Bind.bind, Except.bind, hr]
    exact throw (hunsent (.inr hno) f)
  · simp only [Bind.bind, Except.bind, hr, Pure.pure, Except.pure]
    refine ⟨fun w hw hfact => ?_⟩
    obtain ⟨φ', hs, hf', h⟩ := hsent url r ht hr w hw hfact
    refine ⟨φ', hs, hf', ?_⟩
    rcases hreply : (w.answer r).1 with resp | message | f <;> rw [hreply] at h
    · simp only [Endpoint.received, Endpoint.namesScheme_of_target ha ht, if_true]
      exact h
    · exact h
    · exact h

/-- A request to the engine that can be made and is answered by a response. -/
theorem call_answered {name : String} {segments : List (List Char)} {url : Url} (he : e.IsEngine)
    (ht : e.address.target (reference name segments) = .ok url)
    (hq : Address.queryLength query ≤ Url.maxLength) (hp : payload.isSendable = true)
    (h : ∀ r, e.Sends name segments verb payload r → ∀ w : World, w.Live → K.Fact i φ w →
      ∃ resp φ', (w.engine.answer r).1 = .response resp ∧
        K.Step i φ w φ' { w with engine := (w.engine.answer r).2, sent := w.sent ++ [r] } ∧
        K.Fact i φ' { w with engine := (w.engine.answer r).2, sent := w.sent ++ [r] } ∧
        post φ' resp) :
    K.Keeps i φ (e.call verb (reference name segments) query payload) post fails := by
  refine call he.root (fun hunsent => ?_) fun url' r ht' hr w hw hfact => ?_
  · rcases hunsent with hno | hno | hno
    · exact absurd ht (hno url)
    · rw [hp] at hno
      cases hno
    · omega
  · obtain ⟨hb, -, hm⟩ := Endpoint.made_of_request hr
    obtain ⟨resp, φ', hresp, hstep, hfact', hpost⟩ := h r ⟨url', ht', hm⟩ w hw hfact
    rw [World.answer_engine hw (hb.trans he.backend)]
    refine ⟨φ', hstep, hfact', ?_⟩
    rw [hresp]
    exact hpost

end Requests

end Keeps

/-! ## Talks that go on at once -/

/-- One of so many talks takes a step that it may take, or none does. -/
inductive Moves (K : Conduct Φ) (n : Nat) : (Nat → Φ) → World → (Nat → Φ) → World → Prop
  | stay (φs w) : Moves K n φs w φs w
  | step {φs w} (i φ' w') : i < n → K.Fact i (φs i) w → K.Step i (φs i) w φ' w' →
    Moves K n φs w (Function.update φs i φ') w'

/-- Every talk is in its phase, and goes on from there as it may. -/
structure Agrees (K : Conduct Φ) (post : Nat → Φ → α → Prop) (cr : Crowd α) (φs : Nat → Φ) :
    Prop where
  live : cr.world.Live
  sound : ∀ p, K.Sound (cr.contexts p).mapped cr.world
  fact : ∀ i p x, cr.talks[i]? = some (p, x) → K.Fact i (φs i) cr.world
  follows : ∀ i p x, cr.talks[i]? = some (p, x) → K.Follows i (post i) x (φs i)

namespace Agrees

variable {K : Conduct Φ} {post : Nat → Φ → α → Prop} {cr : Crowd α} {φs : Nat → Φ}

/-- Where a talk has got to, the others still know what they knew. -/
theorem move (h : K.Agrees post cr φs) {i p : Nat} {x : Exchange α} {φ : Φ}
    {left : Exchange α × Context × World} (ht : cr.talks[i]? = some (p, x)) (hw : left.2.2.Live)
    (hkept : ∀ mapped, K.Sound mapped cr.world → K.Sound mapped left.2.2)
    (hlasts : ∀ j φ, K.Fact j φ cr.world → K.Fact j φ left.2.2)
    (hc : K.Sound left.2.1.mapped left.2.2) (hfact : K.Fact i φ left.2.2)
    (hx : K.Follows i (post i) left.1 φ) :
    K.Agrees post (cr.move i p left) (Function.update φs i φ) where
  live := hw
  sound q := by
    by_cases hq : q = p
    · subst hq
      rw [show (cr.move i q left).contexts q = left.2.1 from Function.update_self ..]
      exact hc
    · rw [show (cr.move i p left).contexts q = cr.contexts q from Function.update_of_ne hq ..]
      exact hkept _ (h.sound q)
  fact j q y hy := by
    rw [Crowd.talks_move] at hy
    by_cases hj : i = j
    · subst hj
      rw [Function.update_self]
      exact hfact
    · rw [if_neg hj] at hy
      rw [Function.update_of_ne (Ne.symm hj)]
      exact hlasts _ _ (h.fact j q y hy)
  follows j q y hy := by
    rw [Crowd.talks_move] at hy
    by_cases hj : i = j
    · subst hj
      rw [if_pos rfl, ht] at hy
      cases hy
      rw [Function.update_self]
      exact hx
    · rw [if_neg hj] at hy
      rw [Function.update_of_ne (Ne.symm hj)]
      exact h.follows j q y hy

/-- A turn is a step of the talk whose turn it is, and the others may go on as they might. -/
theorem turn (h : K.Agrees post cr φs) (i : Nat) :
    ∃ φs', K.Moves cr.talks.length φs cr.world φs' (cr.turn i).world ∧
      K.Agrees post (cr.turn i) φs' := by
  rcases ht : cr.talks[i]? with _ | ⟨p, x⟩
  · rw [Crowd.turn, ht]
    exact ⟨φs, .stay .., h⟩
  rw [Crowd.turn_of_talk ht]
  have hi : i < cr.talks.length := (List.getElem?_eq_some_iff.1 ht).1
  have hfact := h.fact i p x ht
  have hx := h.follows i p x ht
  cases x with
  | done a =>
    refine ⟨_, ?_, h.move (φ := φs i) ht h.live (fun _ hs => hs) (fun _ _ hf => hf) (h.sound p)
      hfact hx⟩
    rw [Function.update_eq_self]
    exact .stay ..
  | send r next =>
    obtain ⟨φ, hstep, hfact', hx'⟩ := hx cr.world h.live hfact
    exact ⟨_, .step i φ _ hi hfact hstep, h.move ht (World.live_answer h.live r)
      (fun _ hs => hs.answer h.live r) (fun _ _ hf => K.lasts r h.live hf)
      ((h.sound p).answer h.live r) hfact' hx'⟩
  | look next =>
    obtain ⟨φ, hstep, hfact', hx'⟩ := hx _ cr.world h.live (h.sound p) hfact
    exact ⟨_, .step i φ _ hi hfact hstep, h.move ht h.live (fun _ hs => hs) (fun _ _ hf => hf) (h.sound p)
      hfact' hx'⟩
  | change f next =>
    refine ⟨_, ?_, h.move (φ := φs i) ht h.live (fun _ hs => hs) (fun _ _ hf => hf)
      (hx.1 _ _ (h.sound p) hfact) hfact hx.2⟩
    rw [Function.update_eq_self]
    exact .stay ..

/-- What every step keeps holds after every schedule. -/
theorem run {J : (Nat → Φ) → World → Prop}
    (hJ : ∀ {φs w φs' w'}, J φs w → K.Moves cr.talks.length φs w φs' w' → J φs' w')
    (h : K.Agrees post cr φs) (h₀ : J φs cr.world) (schedule : List Nat) :
    ∃ φs', J φs' (cr.run schedule).world ∧ K.Agrees post (cr.run schedule) φs' := by
  induction schedule generalizing cr φs with
  | nil => exact ⟨φs, h₀, h⟩
  | cons i schedule ih =>
    obtain ⟨φs', hmoves, h'⟩ := h.turn i
    refine ih (fun hj hmoves => hJ hj ?_) h' (hJ h₀ hmoves)
    rwa [cr.length_turn] at hmoves

/-- A talk that has ended did so as it may. -/
theorem result (h : K.Agrees post cr φs) {i : Nat} {a : α} (ha : cr.result? i = some a) :
    post i (φs i) a := by
  obtain ⟨p, ht⟩ := Crowd.result?_eq_some.1 ha
  exact h.follows i p _ ht

end Agrees

end Conduct

end ContentDepot
