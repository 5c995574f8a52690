import ContentDepot.Proofs.Session.Quiet
import ContentDepot.Session.Basic

/-!
# Calls of a session

A call carries an action out from the state of the session (`talk_ofAction`); it
changes the context and the world, and nothing else. A quiet action makes a call
that changes no document (`keeps_talk`).
-/

namespace ContentDepot

open Exchange

/-- The outcome of an action, by its result. -/
def Outcome.ofResult {α : Type} (give : α → Outcome) : Except Failure α → Outcome
  | .ok a => give a
  | .error f => .failed f

namespace Session

variable {α : Type} (σ : Session) (give : α → Outcome) (action : Action α)

/-- The state of the session after an action was carried out. -/
def after : Session :=
  { σ with
    context := (carry World.answer action σ.context σ.world).2.1
    world := (carry World.answer action σ.context σ.world).2.2 }

theorem talk_ofAction :
    σ.talk (Outcome.ofAction give action) =
      (Outcome.ofResult give (carry World.answer action σ.context σ.world).1, σ.after action) := by
  have hrun : Exchange.run World.answer (Outcome.ofAction give action) σ.context σ.world =
      (Outcome.ofResult give (carry World.answer action σ.context σ.world).1,
        (carry World.answer action σ.context σ.world).2) := by
    unfold Outcome.ofAction carry
    rw [run_bind]
    rcases Exchange.run World.answer action.run σ.context σ.world with ⟨_ | _, _, _⟩ <;> rfl
  unfold talk
  rw [hrun]
  rfl

variable {σ give action}

theorem keeps_talk (h : Quiet action) (hw : σ.world.Live) :
    σ.world.Keeps (σ.talk (Outcome.ofAction give action)).2.world := by
  rw [talk_ofAction]
  exact h σ.context σ.world hw

/-- A call that gave what a success gives was one. -/
theorem carry_of_receipt {receipt : Receipt} {action : Action Receipt}
    (h : (σ.talk (Outcome.ofAction .receipt action)).1 = .receipt receipt) :
    carry World.answer action σ.context σ.world =
      (.ok receipt, (σ.talk (Outcome.ofAction .receipt action)).2.context,
        (σ.talk (Outcome.ofAction .receipt action)).2.world) := by
  rw [talk_ofAction] at h ⊢
  unfold after
  rcases hc : carry World.answer action σ.context σ.world with ⟨_ | r, c, w⟩
  · rw [hc] at h
    cases h
  · rw [hc] at h
    cases h
    rfl

/-! ## Runs -/

variable (σ : Session)

theorem runCalls_cons (c : Call) (cs : List Call) :
    σ.runCalls (c :: cs) =
      ((σ.call c).1 :: ((σ.call c).2.runCalls cs).1, ((σ.call c).2.runCalls cs).2) := rfl

theorem runCalls_singleton (c : Call) : σ.runCalls [c] = ([(σ.call c).1], (σ.call c).2) := rfl

/-- A run goes on from where its first part ends. -/
theorem runCalls_append (cs cs' : List Call) :
    σ.runCalls (cs ++ cs') =
      ((σ.runCalls cs).1 ++ ((σ.runCalls cs).2.runCalls cs').1,
        ((σ.runCalls cs).2.runCalls cs').2) := by
  induction cs generalizing σ with
  | nil => rfl
  | cons c cs ih =>
    rw [List.cons_append, runCalls_cons, ih, runCalls_cons]
    rfl

theorem length_runCalls (cs : List Call) : (σ.runCalls cs).1.length = cs.length := by
  induction cs generalizing σ with
  | nil => rfl
  | cons c cs ih => rw [runCalls_cons, List.length_cons, ih, List.length_cons]

end Session

end ContentDepot
