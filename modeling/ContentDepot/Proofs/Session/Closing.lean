import Mathlib.Data.List.ReduceOption
import ContentDepot.Proofs.Depot.Calls
import ContentDepot.Proofs.Depot.Orderliness
import ContentDepot.Proofs.Session.Unaware

/-!
# Closing makes no difference

A session may be closed between any two of its turns, and it comes to the same as if it
had not been:

* `Session.Turn`: a call with the replies that are prepared for it, or a backend that
  begins to answer with one status or works again;
* `Session.runTurns`, `Session.requests`: turns, between which the session is closed;
* `Session.Interchangeable`: sessions that differ at most in what closing changes;
* `closing_is_transparent`: with and without the closings the turns come to the same.
-/

namespace ContentDepot

open Exchange

namespace Session

/-- A call with the replies that are prepared for it, or a backend that begins to answer with one
status or works again. -/
inductive Turn where
  | call (engineReplies contentReplies : List Reply) (c : Call)
  | switch (b : Backend) (status : Option Int)

/-- What comes of a turn: its outcome, the requests that were sent, and the log without what it
says of connections. -/
structure Turn.Record where
  outcome : Outcome
  sent : List Request
  log : List LoggedEvent

/-- One turn. -/
def turn (σ : Session) : Turn → Turn.Record × Session
  | .call engineReplies contentReplies c =>
    let (outcome, σ) := (σ.prepare engineReplies contentReplies).call c
    (⟨outcome, σ.world.sent, σ.context.otherLog⟩, σ)
  | .switch b status => (⟨.nothing, [], []⟩, { σ with world := σ.world.setFailing b status })

/-- The session with its connections closed. -/
def closed (σ : Session) : Session := ((σ.prepare [] []).call .close).2

/-- Turns one after the other; where there is none, the session is closed. -/
def runTurns (σ : Session) : List (Option Turn) → List Turn.Record × Session
  | [] => ([], σ)
  | none :: turns => σ.closed.runTurns turns
  | some t :: turns =>
    let (record, σ) := σ.turn t
    let (records, σ) := σ.runTurns turns
    (record :: records, σ)

/-- The requests that are sent while turns are taken and the session is closed between them. -/
def requests (σ : Session) : List (Option Turn) → List Request
  | [] => []
  | none :: turns => σ.closed.world.sent ++ σ.closed.requests turns
  | some t :: turns => (σ.turn t).1.sent ++ (σ.turn t).2.requests turns

/-! ## Sessions that come to the same -/

/-- Sessions that differ at most in which connections are open, and in what a turn begins anew. -/
structure Interchangeable (σ σ' : Session) : Prop where
  installation : σ'.installation = σ.installation
  context : { σ.context with log := [] }.SameApart { σ'.context with log := [] }
  engine : σ'.world.engine = σ.world.engine
  contents : σ'.world.contents = σ.world.contents
  inMemory : σ'.world.inMemory = σ.world.inMemory

theorem talk_eq {α : Type} (σ : Session) (x : Exchange α) :
    σ.talk x = ((run World.answer x σ.context σ.world).1, { σ with
      context := (run World.answer x σ.context σ.world).2.1
      world := (run World.answer x σ.context σ.world).2.2 }) := rfl

namespace Interchangeable

variable {σ σ' σ'' : Session}

theorem refl (σ : Session) : σ.Interchangeable σ := ⟨rfl, .refl _, rfl, rfl, rfl⟩

theorem symm (h : σ.Interchangeable σ') : σ'.Interchangeable σ :=
  ⟨h.installation.symm, h.context.symm, h.engine.symm, h.contents.symm, h.inMemory.symm⟩

theorem trans (h : σ.Interchangeable σ') (h' : σ'.Interchangeable σ'') :
    σ.Interchangeable σ'' :=
  ⟨h'.installation.trans h.installation, h.context.trans h'.context, h'.engine.trans h.engine,
    h'.contents.trans h.contents, h'.inMemory.trans h.inMemory⟩

/-- A turn comes to the same, and leaves sessions that come to the same. -/
theorem turn (h : σ.Interchangeable σ') (hi : σ.installation.IsOrderly fun _ => True) (t : Turn) :
    (σ'.turn t).1 = (σ.turn t).1 ∧ (σ.turn t).2.Interchangeable (σ'.turn t).2 := by
  cases t with
  | switch b status =>
    refine ⟨rfl, h.installation, h.context, ?_, ?_, ?_⟩ <;> cases b <;>
      simp [Session.turn, World.setFailing, h.engine, h.contents, h.inMemory]
  | call engineReplies contentReplies c =>
    have hworld : σ'.world.prepare engineReplies contentReplies =
        σ.world.prepare engineReplies contentReplies := by
      unfold World.prepare
      rw [h.engine, h.contents, h.inMemory]
    obtain ⟨hresult, hleft, hcontext⟩ := (Call.orderly hi c).unaware.same World World.answer _ _
      (σ.world.prepare engineReplies contentReplies) h.context
    simp only [Session.turn, call, prepare, talk_eq, h.installation, hworld, hresult, hleft,
      hcontext.otherLog, true_and]
    exact ⟨rfl, hcontext.anew, rfl, rfl, rfl⟩

/-- A session that is closed comes to the same as before. -/
theorem closed (σ : Session) : σ.Interchangeable σ.closed :=
  ⟨rfl, ⟨rfl, rfl, rfl, rfl⟩, rfl, rfl, rfl⟩

theorem installation_turn (σ : Session) (t : Turn) :
    (σ.turn t).2.installation = σ.installation := by
  cases t <;> rfl

/-- Turns come to the same with and without closings between them. -/
theorem runTurns (h : σ.Interchangeable σ') (hi : σ.installation.IsOrderly fun _ => True)
    (turns : List (Option Turn)) :
    (σ.runTurns turns).1 = (σ'.runTurns (turns.reduceOption.map some)).1 ∧
      σ.requests turns = σ'.requests (turns.reduceOption.map some) ∧
      (σ.runTurns turns).2.Interchangeable (σ'.runTurns (turns.reduceOption.map some)).2 := by
  induction turns generalizing σ σ' with
  | nil => exact ⟨rfl, rfl, h⟩
  | cons t turns ih =>
    cases t with
    | none => exact ih ((closed σ).symm.trans h) hi
    | some t =>
      obtain ⟨hrecord, hleft⟩ := h.turn hi t
      obtain ⟨hrecords, hrequests, hend⟩ :=
        ih hleft (by rw [installation_turn]; exact hi)
      simp only [List.reduceOption_cons_of_some, List.map_cons]
      refine ⟨?_, ?_, hend⟩
      · exact congrArg₂ List.cons hrecord.symm hrecords
      · exact congrArg₂ (· ++ ·) (congrArg Turn.Record.sent hrecord.symm) hrequests

end Interchangeable

end Session

/-- A session that is closed any number of times between its turns gives the same records of them,
sends the same requests, and leaves the backends and the indices that are known as it would
otherwise. -/
theorem closing_is_transparent {s : Settings} {σ : Session}
    (hi : σ.installation = .remote s ∨ ∃ f hash, σ.installation = .failing s f hash)
    (turns : List (Option Session.Turn)) :
    let plain := turns.reduceOption.map some
    (σ.runTurns turns).1 = (σ.runTurns plain).1 ∧
      σ.requests turns = σ.requests plain ∧
      (σ.runTurns turns).2.world.engine = (σ.runTurns plain).2.world.engine ∧
      (σ.runTurns turns).2.world.contents = (σ.runTurns plain).2.world.contents ∧
      (σ.runTurns turns).2.context.mapped = (σ.runTurns plain).2.context.mapped := by
  have horderly : σ.installation.IsOrderly fun _ => True := by
    rcases hi with hi | ⟨f, hash, hi⟩ <;> rw [hi]
    · exact Installation.isOrderly_remote s
    · exact Installation.isOrderly_failing s trivial hash
  obtain ⟨hrecords, hrequests, hend⟩ :=
    (Session.Interchangeable.refl σ).runTurns horderly turns
  exact ⟨hrecords, hrequests, hend.engine.symm, hend.contents.symm, hend.context.mapped.symm⟩

/-- A session that is closed around a write and before a look at an engine that has failed since. -/
def Session.closedAround : List (Option Session.Turn) :=
  [none, some (.call [] [] (.index (.write (.str "docs") (.str "a") (.str "Qm1") .null none))),
    none, none, some (.switch .engine (some 503)), none, some (.call [] [] (.index .healthy))]

/-- The requests of the write and of the look at the engine are those without a closing. -/
theorem requests_closedAround :
    let σ := Session.fresh .standard
    let turns := Session.closedAround
    (σ.installation = .remote .standard ∨
        ∃ f hash, σ.installation = .failing .standard f hash) ∧
      σ.requests turns = σ.requests (turns.reduceOption.map some) ∧
      (σ.requests turns).map Request.verb = [.head, .put, .get, .put, .post, .get] := by
  refine ⟨.inl rfl, ?_, by decide +kernel⟩
  exact (closing_is_transparent (.inl (rfl : _ = Installation.remote .standard)) _).2.1

end ContentDepot
