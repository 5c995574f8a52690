import ContentDepot.Depot

/-!
# What operations are made of

The operations of a depot send requests, log events without a request identifier of
their own, hand out identifiers, remember indices and recall them, and open and close
connections. They do nothing else to the context, and look at nothing else in it. A talk
that is made of such steps is orderly (`Exchange.IsOrderly`), whatever it is answered.

* `Exchange.IsOrderly.bind`: orderly talks one after the other;
* `Orderly`: an orderly operation that may fail, with what holds of its failures, and the
  rules along the text of an operation.

What is true of every orderly talk is proved by induction over these steps, and so of
every operation at once.
-/

namespace ContentDepot

/-- An event that has no request identifier of its own. -/
def Event.IsPlain (e : Event) : Prop := ∀ field ∈ e.fields, field.1 ≠ Context.requestIdKey

/-- The endpoint that settings give for a backend, or the failure where its URL is not valid. -/
def Settings.endpointOf (s : Settings) (b : Backend) : Except Failure Endpoint :=
  match s.endpoint? b with
  | none => .error (.fault .invalidAddress)
  | some e => .ok e

namespace Exchange

variable {α β : Type}

/-- A connection is looked for, and otherwise the event is logged before the URL is read. -/
theorem connected_eq (s : Settings) (b : Backend) :
    (connected s b).run = .look fun c =>
      if c.isOpen b then .done (s.endpointOf b)
      else .change (·.record ⟨.info, connectingEvent b, []⟩)
        (match s.endpoint? b with
          | none => .done (s.endpointOf b)
          | some _ => .change (·.openTo b) (.done (s.endpointOf b))) := by
  unfold connected connect Settings.endpointOf
  refine congrArg Exchange.look (funext fun c => ?_)
  simp only [andThen, Function.comp, ExceptT.bindCont]
  cases c.isOpen b <;> cases s.endpoint? b <;> rfl

/-- A talk that is made of the steps of operations, and at whose end `post` holds of the result. -/
inductive IsOrderly (post : α → Prop) : Exchange α → Prop
  | done {a : α} (h : post a) : IsOrderly post (.done a)
  | send {r : Request} {next : Reply → Exchange α} (h : ∀ reply, IsOrderly post (next reply)) :
    IsOrderly post (.send r next)
  | record {e : Event} {x : Exchange α} (he : e.IsPlain) (h : IsOrderly post x) :
    IsOrderly post (.change (·.record e) x)
  | remember {index : String} {x : Exchange α} (h : IsOrderly post x) :
    IsOrderly post (.change (·.markMapped index) x)
  | consult {next : Context → Exchange α}
    (same : ∀ c c' : Context, c'.mapped = c.mapped → next c' = next c)
    (h : ∀ c, IsOrderly post (next c)) : IsOrderly post (.look next)
  | issue {next : Nat → Exchange α} (h : ∀ n, IsOrderly post (next n)) :
    IsOrderly post
      (.look fun c => .change (fun c => { c with issued := c.issued + 1 }) (next c.issued))
  | connect {s : Settings} {b : Backend} {next : Except Failure Endpoint → Exchange α}
    (h : IsOrderly post (next (s.endpointOf b))) :
    IsOrderly post ((connected s b).run.andThen next)
  | close {x : Exchange α} (h : IsOrderly post x) :
    IsOrderly post (.change (fun c => { c with contentOpen := false, engineOpen := false }) x)

namespace IsOrderly

variable {post post' : α → Prop} {x : Exchange α}

theorem bind {post : β → Prop} {m : α → Prop} {f : α → Exchange β} (hx : x.IsOrderly m)
    (hf : ∀ a, m a → (f a).IsOrderly post) : (x >>= f).IsOrderly post := by
  show (x.andThen f).IsOrderly post
  induction hx with
  | done h => exact hf _ h
  | send _ ih => exact .send ih
  | record he _ ih => exact .record he ih
  | remember _ ih => exact .remember ih
  | consult same _ ih => exact .consult (fun c c' h => congrArg (·.andThen f) (same c c' h)) ih
  | issue _ ih => exact .issue ih
  | connect _ ih =>
    rw [andThen_assoc]
    exact .connect ih
  | close _ ih => exact .close ih

theorem mono (h : x.IsOrderly post) (hp : ∀ a, post a → post' a) : x.IsOrderly post' := by
  rw [← bind_pure x]
  exact h.bind fun a ha => .done (hp a ha)

theorem emitWith {level : Level} {name : String} {fields : Entries Json}
    (h : Event.IsPlain ⟨level, name, fields⟩) :
    (Exchange.emitWith level name fields).IsOrderly fun _ => True := .record h (.done trivial)

theorem emit (level : Level) (name : String) :
    (Exchange.emit level name).IsOrderly fun _ => True :=
  .record (fun _ h => by cases h) (.done trivial)

theorem emitAll {events : List Event} (h : ∀ e ∈ events, e.IsPlain) :
    (Exchange.emitAll events).IsOrderly fun _ => True := by
  induction events with
  | nil => exact .done trivial
  | cons e es ih =>
    exact .record (h e (List.mem_cons_self ..)) (ih fun e' he' => h e' (List.mem_cons_of_mem _ he'))

theorem markMapped (index : String) :
    (Exchange.modify (·.markMapped index)).IsOrderly fun _ => True := .remember (.done trivial)

theorem freshId : Exchange.freshId.IsOrderly fun _ => True :=
  @issue _ _ (fun n => .done (String.ofList (Text.Hex.padded 32 (n + 1)))) fun _ => .done trivial

end IsOrderly

end Exchange

/-! ## Operations that may fail -/

/-- An operation that is orderly, and of whose failures `fails` holds. -/
structure Orderly {ε α : Type} (fails : ε → Prop) (x : ExceptT ε Exchange α) : Prop where
  run : x.run.IsOrderly fun result => ∀ e, result = .error e → fails e

namespace Orderly

open Exchange (IsOrderly)

variable {ε α β : Type} {fails : ε → Prop} {x : ExceptT ε Exchange α}

theorem pure (a : α) : Orderly fails (Pure.pure a : ExceptT ε Exchange α) :=
  ⟨.done fun _ h => by cases h⟩

theorem throw {e : ε} (h : fails e) :
    Orderly fails (MonadExcept.throw e : ExceptT ε Exchange α) :=
  ⟨.done fun _ he => by cases he; exact h⟩

theorem bind {f : α → ExceptT ε Exchange β} (hx : Orderly fails x)
    (hf : ∀ a, Orderly fails (f a)) : Orderly fails (x >>= f) := by
  refine ⟨?_⟩
  rw [ExceptT.run_bind]
  refine hx.run.bind fun result hresult => ?_
  cases result with
  | ok a => exact (hf a).run
  | error e => exact .done fun e' he' => by cases he'; exact hresult e rfl

theorem lift {x : Exchange α} (h : x.IsOrderly fun _ => True) :
    Orderly fails (liftM x : ExceptT ε Exchange α) :=
  ⟨h.bind fun _ _ => .done fun _ h => by cases h⟩

/-- Which indices are remembered may be looked at. -/
theorem context_bind {f : Context → ExceptT ε Exchange α}
    (same : ∀ c c' : Context, c'.mapped = c.mapped → f c' = f c) (h : ∀ c, Orderly fails (f c)) :
    Orderly fails ((liftM Exchange.context : ExceptT ε Exchange Context) >>= f) :=
  ⟨.consult same fun c => (h c).run⟩

theorem emit (level : Level) (name : String) :
    Orderly fails (liftM (Exchange.emit level name) : ExceptT ε Exchange Unit) :=
  lift (.emit level name)

theorem markMapped (index : String) :
    Orderly fails (liftM (Exchange.modify (·.markMapped index)) : ExceptT ε Exchange Unit) :=
  lift (.markMapped index)

/-- What is made of the result of an operation. -/
theorem made {ε' : Type} {fails' : ε' → Prop} {f : Except ε α → Exchange (Except ε' β)}
    (hx : Orderly fails x) (hok : ∀ a, Orderly fails' (ExceptT.mk (f (.ok a))))
    (herror : ∀ e, fails e → Orderly fails' (ExceptT.mk (f (.error e)))) :
    Orderly fails' (ExceptT.mk (x.run >>= f)) := by
  refine ⟨hx.run.bind fun result hresult => ?_⟩
  cases result with
  | ok a => exact (hok a).run
  | error e => exact (herror e (hresult e rfl)).run

/-! ### Attempts -/

/-- An attempt that is orderly, however it breaks off. -/
abbrev Attempted (x : Attempt α) : Prop := Orderly (fun _ => True) x

theorem ofRead (read : Except Cause α) : Attempted (Attempt.ofRead read) := by
  cases read with
  | ok a => exact pure a
  | error cause => exact throw trivial

theorem check (r : Response) : Attempted (Search.check r) := by
  unfold Search.check
  split
  · exact pure ()
  · exact bind (ofRead _) fun _ => throw trivial

theorem guarded {x : Attempt α} {fails : Failure → Prop} {onTrouble : Trouble → Action α}
    (hx : Attempted x) (ht : ∀ t, Orderly fails (onTrouble t)) :
    Orderly fails (x.guarded onTrouble) :=
  made hx (fun a => pure a) fun t _ => ht t

theorem call (e : Endpoint) (verb : Verb) (path : String) (query : List (String × String))
    (payload : Payload) : Attempted (e.call verb path query payload) := by
  unfold Endpoint.call
  dsimp only
  split
  · exact throw trivial
  · refine bind (lift (.send fun _ => .done trivial)) fun reply => ?_
    cases reply with
    | response r =>
      unfold Endpoint.received
      dsimp only
      split
      · exact pure r
      · exact throw trivial
    | disrupted message => exact throw trivial
    | fault f => exact throw trivial

end Orderly

end ContentDepot
