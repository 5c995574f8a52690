import ContentDepot.Exchange.Message
import ContentDepot.Logging.Event

/-!
# Talks with the backends

An operation of the depot is a tree of steps: it sends a request and goes on
with the reply, looks at the context of the process or changes it, and at the
end is done. What the backends answer is not part of the tree, so a statement
about an operation holds for every way in which they may answer.

* `Exchange`: the tree, a monad (`LawfulMonad`).
* `Exchange.run`: what happens with backends that answer from a state.
* `Context`: what a process holds: which connections are open, which indices are
  known to carry the mapping, and the log.
* `Action`: an operation that may fail; the context outlives the failure.
-/

namespace ContentDepot

/-- An event with the request identifier that was bound when it happened. -/
structure LoggedEvent where
  event : Event
  requestId : Option Json
  deriving Repr, DecidableEq

/-- What a process holds between operations. -/
structure Context where
  contentOpen : Bool
  engineOpen : Bool
  /-- The indices known to carry the mapping of the reserved keys. -/
  mapped : List String
  /-- What every event carries. -/
  bound : Entries Json
  log : List LoggedEvent
  /-- How many identifiers have been handed out. -/
  issued : Nat
  deriving Repr, DecidableEq

namespace Context

/-- A process that has just begun. -/
def initial : Context := ⟨false, false, [], [], [], 0⟩

/-- The key under which the request identifier is bound. -/
def requestIdKey : String := "request_id"

/-- The context with an event in its log. The fields of the event go over what every event
carries. -/
def record (c : Context) (e : Event) : Context :=
  { c with log := c.log ++ [⟨e, Entries.get? (Entries.putAll c.bound e.fields) requestIdKey⟩] }

/-- The context in which an index is known to carry the mapping. -/
def markMapped (c : Context) (index : String) : Context :=
  if c.mapped.contains index then c else { c with mapped := c.mapped ++ [index] }

/-- The context in which the connection to a backend is open. -/
def openTo (c : Context) : Backend → Context
  | .content => { c with contentOpen := true }
  | .engine => { c with engineOpen := true }

/-- Whether the connection to a backend is open. -/
def isOpen (c : Context) : Backend → Bool
  | .content => c.contentOpen
  | .engine => c.engineOpen

end Context

/-- A talk with the backends that ends with a result. -/
inductive Exchange (α : Type) where
  | done (result : α)
  | send (request : Request) (next : Reply → Exchange α)
  | look (next : Context → Exchange α)
  | change (f : Context → Context) (next : Exchange α)

namespace Exchange

variable {α β ω : Type}

/-- Goes on after a talk with what its result asks for. -/
def andThen : Exchange α → (α → Exchange β) → Exchange β
  | .done a, f => f a
  | .send r next, f => .send r fun reply => andThen (next reply) f
  | .look next, f => .look fun c => andThen (next c) f
  | .change g next, f => .change g (andThen next f)

instance : Monad Exchange where
  pure := .done
  bind := andThen

theorem andThen_done (x : Exchange α) : x.andThen .done = x := by
  induction x with
  | done a => rfl
  | send r next ih => simp only [andThen, ih]
  | look next ih => simp only [andThen, ih]
  | change g next ih => simp only [andThen, ih]

theorem andThen_assoc {γ : Type} (x : Exchange α) (f : α → Exchange β) (g : β → Exchange γ) :
    (x.andThen f).andThen g = x.andThen fun a => (f a).andThen g := by
  induction x with
  | done a => rfl
  | send r next ih => simp only [andThen, ih]
  | look next ih => simp only [andThen, ih]
  | change h next ih => simp only [andThen, ih]

instance : LawfulMonad Exchange :=
  LawfulMonad.mk' Exchange (fun x => andThen_done x) (fun _ _ => rfl)
    (fun x f g => andThen_assoc x f g)

/-- What happens when the backends answer from a state of theirs. -/
def run (answer : Request → ω → Reply × ω) : Exchange α → Context → ω → α × Context × ω
  | .done a, c, w => (a, c, w)
  | .send r next, c, w =>
    let (reply, w) := answer r w
    run answer (next reply) c w
  | .look next, c, w => run answer (next c) c w
  | .change f next, c, w => run answer next (f c) w

@[simp] theorem run_pure (answer : Request → ω → Reply × ω) (a : α) (c : Context) (w : ω) :
    run answer (pure a) c w = (a, c, w) := rfl

theorem run_bind (answer : Request → ω → Reply × ω) (x : Exchange α) (f : α → Exchange β)
    (c : Context) (w : ω) :
    run answer (x >>= f) c w =
      run answer (f (run answer x c w).1) (run answer x c w).2.1 (run answer x c w).2.2 := by
  show run answer (x.andThen f) c w = _
  induction x generalizing c w with
  | done a => rfl
  | send r next ih => exact ih (answer r w).1 c (answer r w).2
  | look next ih => exact ih c c w
  | change g next ih => exact ih (g c) w

/-- Sends a request. -/
def ask (r : Request) : Exchange Reply := .send r .done

/-- Looks at the context. -/
def context : Exchange Context := .look .done

/-- Changes the context. -/
def modify (f : Context → Context) : Exchange Unit := .change f (.done ())

/-- Puts an event into the log. -/
def emit (level : Level) (name : String) : Exchange Unit := modify (·.record ⟨level, name, []⟩)

/-- Puts an event with fields of its own into the log. -/
def emitWith (level : Level) (name : String) (fields : Entries Json) : Exchange Unit :=
  modify (·.record ⟨level, name, fields⟩)

/-- Puts events into the log, one after the other. -/
def emitAll : List Event → Exchange Unit
  | [] => pure ()
  | e :: es => do
    modify (·.record e)
    emitAll es

/-- A fresh identifier: 32 hexadecimal digits. -/
def freshId : Exchange String := do
  let c ← context
  modify fun c => { c with issued := c.issued + 1 }
  return String.ofList (Text.Hex.padded 32 (c.issued + 1))

end Exchange

/-- An operation that may fail. -/
abbrev Action (α : Type) := ExceptT Failure Exchange α

namespace Action

variable {α : Type}

/-- Fails with an error of the depot. -/
def refuse (e : StoreError) : Action α := throw (.error e)

/-- The result of a check that was made beforehand. -/
def ofExcept : Except StoreError α → Action α
  | .ok a => pure a
  | .error e => refuse e

/-- The result of checking a value against a record. -/
def ofChecked : Except (List Issue) α → Action α
  | .ok a => pure a
  | .error issues => throw (.invalid issues)

/-- Refuses a parameter that is null or of length zero. -/
def require (value : Json) (name : String) : Action Unit :=
  ofExcept (ContentDepot.require value name)

end Action

end ContentDepot
