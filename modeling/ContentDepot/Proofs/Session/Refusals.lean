import ContentDepot.Proofs.Session.Live
import ContentDepot.Proofs.Session.Stages

/-!
# Backends that refuse requests

Backends may carry a request out, or answer it with an error and do nothing, as they
please (`Refusing`). What they have undergone in the course of a traffic is told by
the traffic alone: a success was carried out (`Undergoes.of_success`), and of any other
message it is open.

* `Refusing.undergoes`: what the backends undergo in an operation is its traffic;
* `Undergoes.keeps`: what every single request keeps is kept;
* `answerOrRefuse`: backends in memory that refuse the requests of a list.
-/

namespace ContentDepot

open Exchange

/-- A reply that tells of an error: a response with no success, or no response. -/
def Reply.IsError (reply : Reply) : Prop := ∀ resp, reply = .response resp → resp.isSuccess = false

/-- Every request is carried out by the backends in memory, or it is answered with an error and
nothing happens to them. -/
def Refusing {ω : Type} (answer : Request → ω → Reply × ω) (world : ω → World) : Prop :=
  ∀ r w, World.answer r (world w) = ((answer r w).1, world (answer r w).2) ∨
    (answer r w).1.IsError ∧ world (answer r w).2 = world w

/-- What backends undergo in the course of a traffic of which some requests were refused. -/
inductive Undergoes : World → Traffic → World → Prop
  | nil {w : World} : Undergoes w [] w
  | carriedOut {w w₁ w' : World} {r : Request} {reply : Reply} {t : Traffic}
    (hr : World.answer r w = (reply, w₁)) (h : Undergoes w₁ t w') : Undergoes w ((r, reply) :: t) w'
  | refused {w w' : World} {r : Request} {reply : Reply} {t : Traffic} (hr : reply.IsError)
    (h : Undergoes w t w') : Undergoes w ((r, reply) :: t) w'

namespace Undergoes

variable {w w' : World} {t t' : Traffic} {m : Request × Reply}

theorem append_iff : Undergoes w (t ++ t') w' ↔ ∃ w₁, Undergoes w t w₁ ∧ Undergoes w₁ t' w' := by
  constructor
  · intro h
    induction t generalizing w with
    | nil => exact ⟨w, .nil, h⟩
    | cons m t ih =>
      cases h with
      | carriedOut hr h =>
        obtain ⟨w₁, h₁, h'⟩ := ih h
        exact ⟨w₁, .carriedOut hr h₁, h'⟩
      | refused hr h =>
        obtain ⟨w₁, h₁, h'⟩ := ih h
        exact ⟨w₁, .refused hr h₁, h'⟩
  · rintro ⟨w₁, h, h'⟩
    induction h with
    | nil => exact h'
    | carriedOut hr _ ih => exact .carriedOut hr (ih h')
    | refused hr _ ih => exact .refused hr (ih h')

/-- What every request of the traffic keeps is kept. -/
theorem keeps {P : World → Prop} (h : Undergoes w t w')
    (hP : ∀ m ∈ t, ∀ w, P w → P (World.answer m.1 w).2) (hw : P w) : P w' := by
  induction h with
  | nil => exact hw
  | carriedOut hr _ ih =>
    have hstep := hP _ (.head _) _ hw
    rw [hr] at hstep
    exact ih (fun m hm => hP m (.tail _ hm)) hstep
  | refused _ _ ih => exact ih (fun m hm => hP m (.tail _ hm)) hw

/-- A request that was answered with success was carried out. -/
theorem of_success {resp : Response} (h : Undergoes w (m :: t) w') (hm : m.2 = .response resp)
    (hs : resp.isSuccess = true) :
    ∃ w₁, World.answer m.1 w = (.response resp, w₁) ∧ Undergoes w₁ t w' := by
  cases h with
  | carriedOut hr h =>
    cases hm
    exact ⟨_, hr, h⟩
  | refused hr h =>
    rw [hr resp hm] at hs
    cases hs

/-- A request that the engine in memory has carried out. -/
theorem of_engine_success {resp : Response} (h : Undergoes w (m :: t) w') (hw : w.Live)
    (hb : m.1.backend = .engine) (hm : m.2 = .response resp) (hs : resp.isSuccess = true) :
    (w.engine.answer m.1).1 = .response resp ∧
      ∃ w₁, w₁.Live ∧ w₁.engine = (w.engine.answer m.1).2 ∧ Undergoes w₁ t w' := by
  obtain ⟨w₁, hanswer, h⟩ := h.of_success hm hs
  have hlive := World.live_answer hw m.1
  rw [hanswer] at hlive
  rw [World.answer_engine hw hb, Prod.mk.injEq] at hanswer
  exact ⟨hanswer.1, w₁, hlive, hanswer.2 ▸ rfl, h⟩

/-- A request that the content store in memory has carried out. -/
theorem of_content_success {resp : Response} (h : Undergoes w (m :: t) w') (hw : w.Live)
    (hb : m.1.backend = .content) (hm : m.2 = .response resp) (hs : resp.isSuccess = true) :
    (w.contents.answer m.1).1 = .response resp ∧ ∃ w₁, w₁.Live ∧ w₁.engine = w.engine ∧
      w₁.contents = (w.contents.answer m.1).2 ∧ Undergoes w₁ t w' := by
  obtain ⟨w₁, hanswer, h⟩ := h.of_success hm hs
  have hlive := World.live_answer hw m.1
  rw [hanswer] at hlive
  rw [World.answer_content hw hb, Prod.mk.injEq] at hanswer
  exact ⟨hanswer.1, w₁, hlive, hanswer.2 ▸ rfl, hanswer.2 ▸ rfl, h⟩

end Undergoes

/-- What the backends undergo in an operation is its traffic. -/
theorem Refusing.undergoes {ω α : Type} {answer : Request → ω → Reply × ω} {world : ω → World}
    (h : Refusing answer world) (x : Exchange α) (c : Context) (w : ω) :
    Undergoes (world w) (traffic answer x c w) (world (run answer x c w).2.2) := by
  induction x generalizing c w with
  | done a => exact .nil
  | send r next ih =>
    rcases h r w with hr | ⟨herror, hw⟩
    · exact .carriedOut hr (ih _ c _)
    · refine .refused herror ?_
      rw [← hw]
      exact ih _ c _
  | look next ih => exact ih c c w
  | change f next ih => exact ih (f c) w

/-- For each request to come the error that it is refused with, if it is; after the end none is. -/
abbrev Refusals := List (Option { reply : Reply // reply.IsError })

/-- Backends in memory that refuse requests as it is said. -/
def answerOrRefuse (r : Request) : World × Refusals → Reply × World × Refusals
  | (w, some reply :: refusals) => (reply, w, refusals)
  | (w, none :: refusals) => ((World.answer r w).1, (World.answer r w).2, refusals)
  | (w, []) => ((World.answer r w).1, (World.answer r w).2, [])

theorem refusing_answerOrRefuse : Refusing answerOrRefuse Prod.fst := by
  rintro r ⟨w, _ | ⟨_ | reply, refusals⟩⟩
  · exact .inl rfl
  · exact .inl rfl
  · exact .inr ⟨reply.2, rfl⟩

end ContentDepot
