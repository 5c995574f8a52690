import ContentDepot.Proofs.Depot.Calls
import ContentDepot.Proofs.Session.Standing

/-!
# Histories

Between the calls on a depot a backend may begin to answer every request with one
status, or work again. A history is a list of such steps (`Session.Step`).

* `Session.step`, `Session.runSteps`: what a history gives and leaves;
* `WP.talk`: a call does what its operation does;
* `runSteps_append`: a history goes on from where its first part ends.
-/

namespace ContentDepot

open Exchange InMemory

/-- A call on the depot, or a backend that begins to answer with one status or works again. -/
inductive Session.Step where
  | call (c : DepotCall)
  | switch (b : Backend) (status : Option Int)

namespace Session

/-- What decides how the next call ends. -/
def standing (σ : Session) : Standing := .of σ.context σ.world

/-- One step. -/
def step (σ : Session) : Step → Outcome × Session
  | .call c => σ.call (.depot c)
  | .switch b status => (.nothing, { σ with world := σ.world.setFailing b status })

/-- Steps one after the other. -/
def runSteps (σ : Session) : List Step → List Outcome × Session
  | [] => ([], σ)
  | step :: steps =>
    ((σ.step step).1 :: ((σ.step step).2.runSteps steps).1, ((σ.step step).2.runSteps steps).2)

variable {s : Settings} (σ : Session)

theorem runSteps_cons (step : Step) (steps : List Step) :
    σ.runSteps (step :: steps) =
      ((σ.step step).1 :: ((σ.step step).2.runSteps steps).1,
        ((σ.step step).2.runSteps steps).2) := rfl

theorem runSteps_append (steps steps' : List Step) :
    σ.runSteps (steps ++ steps') =
      ((σ.runSteps steps).1 ++ ((σ.runSteps steps).2.runSteps steps').1,
        ((σ.runSteps steps).2.runSteps steps').2) := by
  induction steps generalizing σ with
  | nil => rfl
  | cons step steps ih =>
    rw [List.cons_append, runSteps_cons, ih, runSteps_cons]
    rfl

variable {σ}

theorem IsOver.step (h : σ.IsOver s) (step : Step) : (σ.step step).2.IsOver s := by
  cases step with
  | call c => exact h.call c
  | switch b status =>
    obtain ⟨hi, hm, he, hc⟩ := h
    cases b <;> exact ⟨hi, hm, he, hc⟩

theorem IsOver.runSteps (h : σ.IsOver s) (steps : List Step) : (σ.runSteps steps).2.IsOver s := by
  induction steps generalizing σ with
  | nil => exact h
  | cons step steps ih => exact ih (h.step step)

end Session

/-- The standing in which a backend answers with one status, or works. -/
def Standing.switch (st : Standing) : Backend → Option Int → Standing
  | .content, status => { st with contents := { st.contents with failing := status } }
  | .engine, status => { st with engine := { st.engine with failing := status } }

theorem Session.standing_switch (σ : Session) (b : Backend) (status : Option Int) :
    (σ.step (.switch b status)).2.standing = σ.standing.switch b status := by
  cases b <;> rfl

/-- A call ends as its operation does, from the standing of the session. -/
theorem WP.talk {α : Type} {σ : Session} {g : α → Outcome} {action : Action α}
    {post : α → Standing → Prop} {fails : Failure → Standing → Prop} (hw : σ.world.Live)
    (h : WP σ.standing action post fails) :
    (∃ a, (σ.talk (Outcome.ofAction g action)).1 = g a ∧
        post a (σ.talk (Outcome.ofAction g action)).2.standing) ∨
      ∃ f, (σ.talk (Outcome.ofAction g action)).1 = .failed f ∧
        fails f (σ.talk (Outcome.ofAction g action)).2.standing := by
  have hx := h.carried σ.context σ.world hw rfl
  rw [Session.talk_ofAction]
  unfold Session.after Session.standing
  generalize carry World.answer action σ.context σ.world = result at hx ⊢
  obtain ⟨f | a, c, w⟩ := result
  · exact .inr ⟨f, rfl, hx⟩
  · exact .inl ⟨a, rfl, hx⟩

end ContentDepot
