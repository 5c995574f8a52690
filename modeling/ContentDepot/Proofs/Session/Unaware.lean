import ContentDepot.Proofs.Exchange.Carry
import ContentDepot.Proofs.Session.Orderly

/-!
# Whether a connection is open makes no difference

Two contexts are the same apart from connections if they differ at most in which
connections are open and in what the log says of that (`Context.SameApart`). A talk is
unaware of connections if from such contexts it comes to the same result and leaves the
backends in the same state, whatever they answer (`Exchange.Unaware`):

* `Unaware.change`, `Unaware.connected`: a step that keeps contexts the same, and one that
  opens a connection where it is not open;
* `IsOrderly.unaware`: every orderly talk is unaware of connections.
-/

namespace ContentDepot

/-- Whether an event tells that connections are opened or closed. -/
def Event.tellsOfConnections (e : Event) : Bool :=
  ["connecting_to_ipfs", "connecting_to_elasticsearch", "resources_closed"].contains e.name

namespace Context

/-- The log without what it says of connections. -/
def otherLog (c : Context) : List LoggedEvent := c.log.filter fun e => !e.event.tellsOfConnections

/-- Contexts that differ at most in which connections are open and in what the log says of that. -/
structure SameApart (c c' : Context) : Prop where
  mapped : c'.mapped = c.mapped
  bound : c'.bound = c.bound
  issued : c'.issued = c.issued
  otherLog : c'.otherLog = c.otherLog

namespace SameApart

variable {c c' c'' : Context}

theorem refl (c : Context) : c.SameApart c := ⟨rfl, rfl, rfl, rfl⟩

theorem symm (h : c.SameApart c') : c'.SameApart c :=
  ⟨h.mapped.symm, h.bound.symm, h.issued.symm, h.otherLog.symm⟩

theorem trans (h : c.SameApart c') (h' : c'.SameApart c'') : c.SameApart c'' :=
  ⟨h'.mapped.trans h.mapped, h'.bound.trans h.bound, h'.issued.trans h.issued,
    h'.otherLog.trans h.otherLog⟩

theorem record (h : c.SameApart c') (e : Event) : (c.record e).SameApart (c'.record e) := by
  refine ⟨h.mapped, h.bound, h.issued, ?_⟩
  have hlog := h.otherLog
  unfold Context.otherLog at hlog ⊢
  simp only [Context.record, List.filter_append, hlog, h.bound]

theorem markMapped (h : c.SameApart c') (index : String) :
    (c.markMapped index).SameApart (c'.markMapped index) := by
  unfold Context.markMapped
  rw [h.mapped]
  split
  · exact h
  · exact ⟨rfl, h.bound, h.issued, h.otherLog⟩

/-- Logs that begin anew are the same. -/
theorem anew (h : c.SameApart c') :
    { c with log := [] }.SameApart { c' with log := [] } := ⟨h.mapped, h.bound, h.issued, rfl⟩

/-- A connection that is opened leaves nothing but an event of that. -/
theorem opened (c : Context) (b : Backend) :
    c.SameApart ((c.record ⟨.info, connectingEvent b, []⟩).openTo b) := by
  have hlog : ((c.record ⟨.info, connectingEvent b, []⟩).openTo b).log =
      c.log ++ [⟨⟨.info, connectingEvent b, []⟩, Entries.get? c.bound requestIdKey⟩] := by
    cases b <;> rfl
  have hother : ((c.record ⟨.info, connectingEvent b, []⟩).openTo b).otherLog = c.otherLog := by
    rw [Context.otherLog, hlog, List.filter_append]
    cases b <;> exact List.append_nil _
  cases b <;> exact ⟨rfl, rfl, rfl, hother⟩

/-- A connection that cannot be opened leaves nothing but an event of that. -/
theorem connecting (c : Context) (b : Backend) :
    c.SameApart (c.record ⟨.info, connectingEvent b, []⟩) := by
  have hother : (c.record ⟨.info, connectingEvent b, []⟩).otherLog = c.otherLog := by
    rw [Context.otherLog, Context.record, List.filter_append]
    cases b <;> exact List.append_nil _
  exact ⟨rfl, rfl, rfl, hother⟩

end SameApart

end Context

namespace Exchange

variable {α : Type}

/-- A connection is opened where it is not open, and nothing else comes of it. -/
theorem run_connected {ω : Type} (answer : Request → ω → Reply × ω) (s : Settings) (b : Backend)
    (c : Context) (w : ω) :
    ∃ c', run answer (connected s b).run c w = (s.endpointOf b, c', w) ∧ c.SameApart c' := by
  rw [connected_eq, run]
  cases c.isOpen b with
  | true => exact ⟨c, rfl, .refl c⟩
  | false =>
    rcases s.endpoint? b with _ | e
    · exact ⟨_, rfl, .connecting c b⟩
    · exact ⟨_, rfl, .opened c b⟩

/-- From contexts that are the same apart from connections the talk comes to the same. -/
structure Unaware (x : Exchange α) : Prop where
  same : ∀ (ω : Type) (answer : Request → ω → Reply × ω) (c c' : Context) (w : ω),
    c.SameApart c' → (run answer x c' w).1 = (run answer x c w).1 ∧
      (run answer x c' w).2.2 = (run answer x c w).2.2 ∧
        (run answer x c w).2.1.SameApart (run answer x c' w).2.1

namespace Unaware

theorem pure (a : α) : Unaware (Pure.pure a : Exchange α) :=
  ⟨fun _ _ _ _ _ h => ⟨rfl, rfl, h⟩⟩

/-- A change that keeps contexts the same apart from connections. -/
theorem change {f : Context → Context} {x : Exchange α} (hx : Unaware x)
    (hf : ∀ c c', c.SameApart c' → (f c).SameApart (f c')) : Unaware (.change f x) :=
  ⟨fun ω answer c c' w h => hx.same ω answer _ _ w (hf c c' h)⟩

/-- A step that opens a connection where it is not open. -/
theorem connected {s : Settings} {b : Backend} {next : Except Failure Endpoint → Exchange α}
    (hx : Unaware (next (s.endpointOf b))) :
    Unaware ((ContentDepot.connected s b).run.andThen next) := by
  show Unaware ((ContentDepot.connected s b).run >>= next)
  refine ⟨fun ω answer c c' w h => ?_⟩
  obtain ⟨c₁, hrun, hsame⟩ := run_connected answer s b c w
  obtain ⟨c₁', hrun', hsame'⟩ := run_connected answer s b c' w
  rw [run_bind, run_bind, hrun, hrun']
  exact hx.same ω answer c₁ c₁' w (hsame.symm.trans (h.trans hsame'))

end Unaware

/-- Every orderly talk is unaware of connections, step by step. -/
theorem IsOrderly.unaware {post : α → Prop} {x : Exchange α} (h : x.IsOrderly post) :
    Unaware x := by
  induction h with
  | done _ => exact .pure _
  | send _ ih => exact ⟨fun ω answer c c' w h => (ih _).same ω answer c c' _ h⟩
  | record _ _ ih => exact ih.change fun _ _ h => h.record _
  | remember _ ih => exact ih.change fun _ _ h => h.markMapped _
  | close _ ih => exact ih.change fun _ _ h => ⟨h.mapped, h.bound, h.issued, h.otherLog⟩
  | consult same _ ih =>
    refine ⟨fun ω answer c c' w h => ?_⟩
    rw [run, run, same c c' h.mapped]
    exact (ih c).same ω answer c c' w h
  | issue _ ih =>
    refine ⟨fun ω answer c c' w h => ?_⟩
    have hsame : { c with issued := c.issued + 1 }.SameApart { c' with issued := c'.issued + 1 } :=
      ⟨h.mapped, h.bound, by rw [h.issued], h.otherLog⟩
    rw [run, run, run, run, h.issued]
    rw [h.issued] at hsame
    exact (ih c.issued).same ω answer _ _ w hsame
  | connect _ ih => exact .connected ih

end Exchange

end ContentDepot
