import ContentDepot.Proofs.InMemory.Effects
import ContentDepot.Proofs.Session.Closing

/-!
# What is true of the backends at any time

Whatever is asked of the backends in memory, whichever replies are prepared for them,
and whenever they are switched to fail or to work again: no identifier ever occurs
twice in an index, and no content is ever kept under the empty hash
(`World.IsSound`). So backends that a session has left in working order are as good
as new ones (`Session.works_of_fresh`).

* `World.IsSound.answer`, `World.Works.answer`: one request;
* `Session.isSound_turn`, `Session.isSound_runTurns`: the turns of a session.
-/

namespace ContentDepot

open InMemory

/-- In each index every identifier occurs once, and no content is kept under the empty hash. -/
structure World.IsSound (w : World) : Prop where
  nodup : ∀ index, (Entries.keys (w.engine.documents index)).Nodup
  unnamed : Entries.get? w.contents.blobs "" = none

/-- Sound backends in memory that answer, and neither of which is switched to fail. -/
structure World.Works (w : World) : Prop extends w.IsSound where
  live : w.Live
  engine : w.engine.failing = none
  contents : w.contents.failing = none

namespace World

variable {w : World}

theorem isSound_initial (inMemory : Bool) : (initial inMemory).IsSound :=
  ⟨fun _ => List.nodup_nil, rfl⟩

theorem works_initial : (initial true).Works := ⟨isSound_initial true, ⟨rfl, rfl, rfl⟩, rfl, rfl⟩

/-- A request leaves both backends as they were, or one of them as it answers. -/
theorem answer_left (w : World) (r : Request) :
    ((answer r w).2.engine = w.engine ∨ (answer r w).2.engine = (w.engine.answer r).2) ∧
      ((answer r w).2.contents = w.contents ∨
        (answer r w).2.contents = (w.contents.answer r).2) := by
  unfold answer prepared? backendAnswer
  dsimp only
  rcases r.backend with _ | _
  · rcases w.contentReplies with _ | ⟨reply, rest⟩
    · cases w.inMemory
      · exact ⟨.inl rfl, .inl rfl⟩
      · exact ⟨.inl rfl, .inr rfl⟩
    · exact ⟨.inl rfl, .inl rfl⟩
  · rcases w.engineReplies with _ | ⟨reply, rest⟩
    · cases w.inMemory
      · exact ⟨.inl rfl, .inl rfl⟩
      · exact ⟨.inr rfl, .inl rfl⟩
    · exact ⟨.inl rfl, .inl rfl⟩

theorem IsSound.answer (h : w.IsSound) (r : Request) : (World.answer r w).2.IsSound := by
  obtain ⟨hengine, hcontents⟩ := answer_left w r
  constructor
  · rcases hengine with hleft | hleft <;> rw [hleft]
    · exact h.nodup
    · obtain ⟨_, _, htouches⟩ := Engine.exists_touches_answer w.engine r
      exact htouches.nodup h.nodup
  · rcases hcontents with hleft | hleft <;> rw [hleft]
    · exact h.unnamed
    · exact Blobs.get?_empty_answer h.unnamed

theorem IsSound.setFailing (h : w.IsSound) (b : Backend) (status : Option Int) :
    (w.setFailing b status).IsSound := by
  cases b <;> exact ⟨h.nodup, h.unnamed⟩

/-- Backends that work go on working, whatever is asked of them. -/
theorem Works.answer (h : w.Works) (r : Request) : (World.answer r w).2.Works := by
  obtain ⟨hengine, hcontents⟩ := answer_left w r
  refine ⟨h.toIsSound.answer r, live_answer h.live r, ?_, ?_⟩
  · rcases hengine with hleft | hleft <;> rw [hleft]
    · exact h.engine
    · exact (Engine.failing_answer _ r).trans h.engine
  · rcases hcontents with hleft | hleft <;> rw [hleft]
    · exact h.contents
    · exact (Blobs.failing_answer _ r).trans h.contents

end World

namespace Session

variable {σ : Session}

theorem isSound_turn (h : σ.world.IsSound) (t : Turn) : (σ.turn t).2.world.IsSound := by
  cases t with
  | call engineReplies contentReplies c =>
    have hprepared : (σ.world.prepare engineReplies contentReplies).IsSound := ⟨h.nodup, h.unnamed⟩
    exact World.keeps_run World.IsSound.answer _ _ hprepared
  | switch b status => exact h.setFailing b status

/-- The backends of a session stay sound, through every call, every switch and every closing. -/
theorem isSound_runTurns (h : σ.world.IsSound) (turns : List (Option Turn)) :
    (σ.runTurns turns).2.world.IsSound := by
  induction turns generalizing σ with
  | nil => exact h
  | cons t turns ih =>
    cases t with
    | none => exact ih ⟨h.nodup, h.unnamed⟩
    | some t => exact ih (isSound_turn h t)

/-- Whatever has happened in a session, its backends work if they answer and are not switched to
fail. -/
theorem works_of_fresh (s : Settings) (turns : List (Option Turn))
    (hlive : ((fresh s).runTurns turns).2.world.Live)
    (hengine : ((fresh s).runTurns turns).2.world.engine.failing = none)
    (hcontents : ((fresh s).runTurns turns).2.world.contents.failing = none) :
    ((fresh s).runTurns turns).2.world.Works :=
  ⟨isSound_runTurns (World.isSound_initial true) turns, hlive, hengine, hcontents⟩

end Session

end ContentDepot
