import ContentDepot.Proofs.Session.Live
import ContentDepot.Search.Placement
import Mathlib.Logic.Function.Basic

/-!
# Talks that go on at once

Several processes may talk with one pair of backends at a time, and a process may
have several talks going (`Crowd`). In a turn one of the talks takes one step
(`Crowd.turn`), so that a schedule of turns (`Crowd.run`) is an interleaving of
requests, and of everything that happens between them. A talk that has all turns to
itself is carried out as if it were alone (`Crowd.exists_run_eq_finish`).

How long a talk can go on is read off its text (`Exchange.Within`), whatever it is
answered: one that is given as many turns as it has steps has ended
(`Crowd.ended_of_turns`).
-/

namespace ContentDepot

namespace Exchange

variable {α β ε : Type}

/-- One step of a talk; one that has ended stays where it is. -/
def advance : Exchange α → Context → World → Exchange α × Context × World
  | .done a, c, w => (.done a, c, w)
  | .send r next, c, w => (next (w.answer r).1, c, (w.answer r).2)
  | .look next, c, w => (next c, c, w)
  | .change f next, c, w => (next, f c, w)

/-- What is left after a step comes to the same end. -/
theorem run_advance (x : Exchange α) (c : Context) (w : World) :
    (x.advance c w).1.run World.answer (x.advance c w).2.1 (x.advance c w).2.2 =
      x.run World.answer c w := by
  cases x <;> rfl

/-- Whatever it is answered, the talk ends within a number of steps. -/
def Within : Nat → Exchange α → Prop
  | _, .done _ => True
  | 0, _ => False
  | n + 1, .send _ next => ∀ reply, Within n (next reply)
  | n + 1, .look next => ∀ c, Within n (next c)
  | n + 1, .change _ next => Within n next

namespace Within

variable {m n : Nat} {x : Exchange α}

theorem done (n : Nat) (a : α) : Within n (.done a) := by
  cases n <;> trivial

theorem mono (h : Within m x) (hmn : m ≤ n) : Within n x := by
  induction x generalizing m n with
  | done a => exact .done n a
  | send r next ih =>
    cases m with
    | zero => exact h.elim
    | succ m =>
      cases n with
      | zero => omega
      | succ n => exact fun reply => ih reply (h reply) (by omega)
  | look next ih =>
    cases m with
    | zero => exact h.elim
    | succ m =>
      cases n with
      | zero => omega
      | succ n => exact fun c => ih c (h c) (by omega)
  | change f next ih =>
    cases m with
    | zero => exact h.elim
    | succ m =>
      cases n with
      | zero => omega
      | succ n => exact ih h (by omega)

theorem bind {f : α → Exchange β} (hx : Within m x) (hf : ∀ a, Within n (f a)) :
    Within (m + n) (x >>= f) := by
  show Within (m + n) (x.andThen f)
  induction x generalizing m with
  | done a => exact (hf a).mono (Nat.le_add_left ..)
  | send r next ih =>
    cases m with
    | zero => exact hx.elim
    | succ m =>
      rw [Nat.succ_add]
      exact fun reply => ih reply (hx reply)
  | look next ih =>
    cases m with
    | zero => exact hx.elim
    | succ m =>
      rw [Nat.succ_add]
      exact fun c => ih c (hx c)
  | change g next ih =>
    cases m with
    | zero => exact hx.elim
    | succ m =>
      rw [Nat.succ_add]
      exact ih hx

theorem advance (h : Within n x) (c : Context) (w : World) :
    Within (n - 1) (x.advance c w).1 := by
  cases x with
  | done a => exact .done _ a
  | send r next =>
    cases n with
    | zero => exact h.elim
    | succ n => exact h _
  | look next =>
    cases n with
    | zero => exact h.elim
    | succ n => exact h c
  | change f next =>
    cases n with
    | zero => exact h.elim
    | succ n => exact h

theorem ended (h : Within 0 x) : ∃ a, x = .done a := by
  cases x with
  | done a => exact ⟨a, rfl⟩
  | send r next => exact h.elim
  | look next => exact h.elim
  | change f next => exact h.elim

/-- What follows a step of an operation that may fail adds its own steps. -/
theorem andThen {x : ExceptT ε Exchange β} {f : β → ExceptT ε Exchange α} (hx : Within m x.run)
    (hf : ∀ b, Within n (f b).run) : Within (m + n) (x >>= f).run := by
  rw [ExceptT.run_bind]
  refine hx.bind fun result => ?_
  cases result with
  | ok b => exact hf b
  | error e => exact .done n _

theorem pure (a : α) : Within 0 (Pure.pure a : ExceptT ε Exchange α).run := trivial

theorem throw (e : ε) : Within 0 (MonadExcept.throw e : ExceptT ε Exchange α).run := trivial

theorem context_andThen {f : Context → ExceptT ε Exchange α} (hf : ∀ c, Within n (f c).run) :
    Within (n + 1) ((liftM Exchange.context : ExceptT ε Exchange Context) >>= f).run := by
  rw [ExceptT.run_bind]
  exact hf

theorem modify (g : Context → Context) :
    Within 1 (liftM (Exchange.modify g) : ExceptT ε Exchange Unit).run := trivial

theorem require (v : Json) (name : String) : Within 0 (Action.require v name).run := by
  unfold Action.require ContentDepot.require
  split <;> trivial

theorem ofRead (read : Except Cause α) : Within 0 (Attempt.ofRead read).run := by
  cases read <;> trivial

theorem check (r : Response) : Within 0 (Search.check r).run := by
  unfold Search.check
  split
  · trivial
  · exact (ofRead _).andThen fun _ => throw _

theorem guarded {x : Attempt α} {onTrouble : Trouble → Action α} (hx : Within m x.run)
    (ht : ∀ t, Within n (onTrouble t).run) : Within (m + n) (x.guarded onTrouble).run := by
  show Within (m + n) (x.run >>= _)
  refine hx.bind fun result => ?_
  cases result with
  | ok a => exact .done n _
  | error t => exact ht t

/-- One request is one step. -/
theorem call (e : Endpoint) (verb : Verb) (path : String) (query : List (String × String))
    (payload : Payload) : Within 1 (e.call verb path query payload).run := by
  unfold Endpoint.call
  rcases e.address.target path with f | url
  · trivial
  simp only [Bind.bind, Except.bind]
  rcases e.request url verb query payload with f | r
  · trivial
  intro reply
  show Within 0 (Endpoint.received url reply).run
  cases reply with
  | response r =>
    simp only [Endpoint.received]
    split <;> trivial
  | disrupted message => trivial
  | fault f => trivial

theorem connected (s : Settings) (b : Backend) : Within 3 (ContentDepot.connected s b).run := by
  unfold ContentDepot.connected connect
  refine andThen (m := 3) (n := 0) (context_andThen fun c => ?_) fun _ => ?_
  · split
    · trivial
    · refine andThen (m := 1) (n := 1) (modify _) fun _ => ?_
      cases s.endpoint? b <;> trivial
  · cases s.endpoint? b <;> trivial

end Within

end Exchange

/-- Talks that go on at once, opposite one pair of backends. -/
structure Crowd (α : Type) where
  /-- What each process holds. -/
  contexts : Nat → Context
  world : World
  /-- The talks, each with the number of the process in which it goes on. -/
  talks : List (Nat × Exchange α)

namespace Crowd

variable {α : Type}

/-- Where a talk has got to in a step of it, and what the step leaves. -/
def move (cr : Crowd α) (i p : Nat) (left : Exchange α × Context × World) : Crowd α where
  contexts := Function.update cr.contexts p left.2.1
  world := left.2.2
  talks := cr.talks.set i (p, left.1)

/-- One step of one talk. -/
def turn (cr : Crowd α) (i : Nat) : Crowd α :=
  match cr.talks[i]? with
  | some (p, x) => cr.move i p (x.advance (cr.contexts p) cr.world)
  | none => cr

/-- One turn after the other. -/
def run (cr : Crowd α) (schedule : List Nat) : Crowd α := schedule.foldl turn cr

/-- A talk carried out to its end, without a turn for any other. -/
def finish (cr : Crowd α) (i : Nat) : Crowd α :=
  match cr.talks[i]? with
  | some (p, x) =>
    let left := x.run World.answer (cr.contexts p) cr.world
    cr.move i p (.done left.1, left.2)
  | none => cr

/-- What a talk has ended with. -/
def result? (cr : Crowd α) (i : Nat) : Option α :=
  match cr.talks[i]? with
  | some (_, .done a) => some a
  | _ => none

theorem run_append (cr : Crowd α) (before after : List Nat) :
    cr.run (before ++ after) = (cr.run before).run after := List.foldl_append

theorem run_cons (cr : Crowd α) (i : Nat) (schedule : List Nat) :
    cr.run (i :: schedule) = (cr.turn i).run schedule := rfl

theorem result?_eq_some {cr : Crowd α} {i : Nat} {a : α} :
    cr.result? i = some a ↔ ∃ p, cr.talks[i]? = some (p, .done a) := by
  unfold result?
  split
  · rename_i p b h
    simp [h]
  · rename_i hno
    simp only [reduceCtorEq, false_iff, not_exists]
    exact fun p => hno p a

theorem talks_move (cr : Crowd α) (i p : Nat) (left : Exchange α × Context × World) (j : Nat) :
    (cr.move i p left).talks[j]? =
      if i = j then cr.talks[j]?.map fun _ => (p, left.1) else cr.talks[j]? := by
  show (cr.talks.set i (p, left.1))[j]? = _
  rw [List.getElem?_set]
  split
  · rename_i h
    subst h
    split
    · rename_i hlt
      rw [List.getElem?_eq_getElem hlt]
      rfl
    · rename_i hno
      rw [List.getElem?_eq_none (by omega)]
      rfl
  · rfl

theorem move_move (cr : Crowd α) (i p : Nat) (left left' : Exchange α × Context × World) :
    (cr.move i p left).move i p left' = cr.move i p left' := by
  simp only [move, Function.update_idem, List.set_set]

theorem turn_of_talk {cr : Crowd α} {i p : Nat} {x : Exchange α}
    (h : cr.talks[i]? = some (p, x)) :
    cr.turn i = cr.move i p (x.advance (cr.contexts p) cr.world) := by
  rw [turn, h]

theorem length_turn (cr : Crowd α) (i : Nat) : (cr.turn i).talks.length = cr.talks.length := by
  unfold turn
  split
  · exact List.length_set
  · rfl

/-- In a turn no other talk moves. -/
theorem talks_turn (cr : Crowd α) (i j : Nat) :
    (cr.turn i).talks[j]? =
      if i = j then cr.talks[j]?.map fun t => (t.1, (t.2.advance (cr.contexts t.1) cr.world).1)
      else cr.talks[j]? := by
  rcases h : cr.talks[i]? with _ | ⟨p, x⟩
  · rw [turn, h]
    dsimp only
    split
    · rename_i hij
      rw [← hij, h]
      rfl
    · rfl
  · rw [turn_of_talk h, talks_move]
    split
    · rename_i hij
      rw [← hij, h]
      rfl
    · rfl

theorem talk_turn {cr : Crowd α} {i p : Nat} {x : Exchange α} (h : cr.talks[i]? = some (p, x)) :
    (cr.turn i).talks[i]? = some (p, (x.advance (cr.contexts p) cr.world).1) := by
  rw [talks_turn, if_pos rfl, h]
  rfl

/-! ## Talks that are alone -/

theorem finish_of_talk {cr : Crowd α} {i p : Nat} {x : Exchange α}
    (h : cr.talks[i]? = some (p, x)) :
    cr.finish i = cr.move i p (.done (x.run World.answer (cr.contexts p) cr.world).1,
      (x.run World.answer (cr.contexts p) cr.world).2) := by
  rw [finish, h]

theorem finish_turn (cr : Crowd α) (i : Nat) : (cr.turn i).finish i = cr.finish i := by
  rcases h : cr.talks[i]? with _ | ⟨p, x⟩
  · rw [turn, h]
  have hcontext : (cr.turn i).contexts p = (x.advance (cr.contexts p) cr.world).2.1 := by
    rw [turn_of_talk h]
    exact Function.update_self ..
  have hworld : (cr.turn i).world = (x.advance (cr.contexts p) cr.world).2.2 := by
    rw [turn_of_talk h]
    rfl
  rw [finish_of_talk (talk_turn h), finish_of_talk h, hcontext, hworld, Exchange.run_advance,
    turn_of_talk h, move_move]

/-- After a turn the rest of the talk comes to the same end. -/
theorem exists_run_of_turn {cr : Crowd α} {i : Nat}
    (h : ∃ n, (cr.turn i).run (List.replicate n i) = (cr.turn i).finish i) :
    ∃ n, cr.run (List.replicate n i) = cr.finish i := by
  obtain ⟨n, hn⟩ := h
  exact ⟨n + 1, by rw [List.replicate_succ, run_cons, hn, finish_turn]⟩

/-- A talk that has enough turns to itself is carried out as it is alone. -/
theorem exists_run_eq_finish (cr : Crowd α) (i : Nat) :
    ∃ n, cr.run (List.replicate n i) = cr.finish i := by
  rcases h : cr.talks[i]? with _ | ⟨p, x⟩
  · refine ⟨0, ?_⟩
    rw [finish, h]
    rfl
  induction x generalizing cr with
  | done a =>
    refine ⟨1, ?_⟩
    rw [finish_of_talk h]
    exact turn_of_talk h
  | send r next ih => exact exists_run_of_turn (ih _ _ (talk_turn h))
  | look next ih => exact exists_run_of_turn (ih _ _ (talk_turn h))
  | change f next ih => exact exists_run_of_turn (ih _ (talk_turn h))

/-! ## Talks that end -/

/-- A talk that is given as many turns as it has steps has ended. -/
theorem ended_of_turns {cr : Crowd α} {i p n : Nat} {x : Exchange α} {schedule : List Nat}
    (h : cr.talks[i]? = some (p, x)) (hx : x.Within n) (hn : n ≤ schedule.count i) :
    ∃ a, (cr.run schedule).result? i = some a := by
  induction schedule generalizing cr n x with
  | nil =>
    obtain rfl : n = 0 := by simpa using hn
    obtain ⟨a, rfl⟩ := hx.ended
    exact ⟨a, result?_eq_some.2 ⟨p, h⟩⟩
  | cons j schedule ih =>
    rw [run_cons]
    rw [List.count_cons] at hn
    by_cases hj : j = i
    · subst hj
      rw [beq_self_eq_true, if_pos rfl] at hn
      exact ih (talk_turn h) (hx.advance ..) (by omega)
    · have hturn := cr.talks_turn j i
      rw [if_neg hj, h] at hturn
      rw [if_neg (by simpa using hj)] at hn
      exact ih hturn hx hn

end Crowd

end ContentDepot
