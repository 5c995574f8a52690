import Mathlib.Data.List.Forall2
import ContentDepot.Proofs.Session.Traffic

/-!
# Traffic by stages

A plan of a talk is a list of stages: what is asked of a backend, and which
responses let the talk go on (`Stage`). A traffic follows a plan if every message
but the last one passed its stage (`Follows`), so what is asked is the beginning of
the plan (`Follows.isPrefix`):

* `Through`: all of a plan has been passed;
* `Follows.stopped_after`: what comes after a part of the plan that was passed;
* `Always.asked`: a request of an endpoint as the next stage of whatever plan;
* `traffic_bind`, `SameFrom`: the traffic of two talks in a row, and talks of one traffic.
-/

namespace ContentDepot

namespace Exchange

variable {ω α β : Type}

/-- The traffic of a talk that goes on after its first part. -/
theorem traffic_bind (answer : Request → ω → Reply × ω) (x : Exchange α) (f : α → Exchange β)
    (c : Context) (w : ω) :
    traffic answer (x >>= f) c w = traffic answer x c w ++
      traffic answer (f (run answer x c w).1) (run answer x c w).2.1 (run answer x c w).2.2 := by
  show traffic answer (x.andThen f) c w = _
  induction x generalizing c w with
  | done a => rfl
  | send r next ih => exact congrArg _ (ih (answer r w).1 c (answer r w).2)
  | look next ih => exact ih c c w
  | change g next ih => exact ih (g c) w

/-- Two talks from the same context and the same state of the backends: what comes of them is the
same, and so is the traffic. -/
structure SameFrom (answer : Request → ω → Reply × ω) (c c' : Context) (w : ω)
    (x y : Exchange α) : Prop where
  run_eq : run answer x c w = run answer y c' w
  traffic_eq : traffic answer x c w = traffic answer y c' w

namespace SameFrom

variable {answer : Request → ω → Reply × ω} {c c' c'' : Context} {w : ω} {x y z : Exchange α}

theorem symm (h : SameFrom answer c c' w x y) : SameFrom answer c' c w y x :=
  ⟨h.run_eq.symm, h.traffic_eq.symm⟩

theorem trans (h : SameFrom answer c c' w x y) (h' : SameFrom answer c' c'' w y z) :
    SameFrom answer c c'' w x z :=
  ⟨h.run_eq.trans h'.run_eq, h.traffic_eq.trans h'.traffic_eq⟩

theorem bind (h : SameFrom answer c c' w x y) (f : α → Exchange β) :
    SameFrom answer c c' w (x >>= f) (y >>= f) := by
  constructor
  · rw [run_bind, run_bind, h.run_eq]
  · rw [traffic_bind, traffic_bind, h.run_eq, h.traffic_eq]

/-- A step without a request only changes the context. -/
theorem silent_bind {a : α} (hrun : run answer x c w = (a, c', w))
    (htraffic : traffic answer x c w = []) (f : α → Exchange β) :
    SameFrom answer c c' w (x >>= f) (f a) := by
  constructor
  · rw [run_bind, hrun]
  · rw [traffic_bind, hrun, htraffic, List.nil_append]

end SameFrom

end Exchange

/-- What is asked of a backend, by a path on its address. -/
structure Ask where
  verb : Verb
  path : String
  query : List (String × String)
  payload : Payload
  /-- Whether what is sent has a written form. -/
  hasForm : Bool := true

/-- The request that an endpoint makes of what is asked. -/
structure Ask.Makes (e : Endpoint) (a : Ask) (url : Url) (r : Request) : Prop where
  hasForm : a.hasForm = true
  target : e.address.target a.path = .ok url
  request : e.request url a.verb a.query a.payload = .ok r

/-- What is asked, and the responses after which a talk goes on. -/
structure Stage where
  ask : Ask
  passes : Response → Prop

namespace Stage

variable (e : Endpoint) (s : Stage)

/-- A request that is sent at a stage. -/
def Sends (r : Request) : Prop := ∃ url, s.ask.Makes e url r

/-- A request that is sent at a stage, and a reply after which a talk goes on; a response to a URL
that names no scheme is of no use. -/
def Passed (m : Request × Reply) : Prop :=
  ∃ url resp, s.ask.Makes e url m.1 ∧ url.namesScheme = true ∧ m.2 = .response resp ∧
    s.passes resp

end Stage

/-- All stages are passed, one after the other. -/
abbrev Through (e : Endpoint) : List Stage → Traffic → Prop := List.Forall₂ (Stage.Passed e)

/-- A traffic that takes the stages of a plan one after the other and goes on only where a stage is
passed. The flag says whether all of them are. -/
inductive Follows (e : Endpoint) : List Stage → Traffic → Bool → Prop
  | completed : Follows e [] [] true
  /-- What is asked at the stage is nothing that can be sent. -/
  | unsent {s : Stage} {plan : List Stage} (h : ∀ r, ¬ s.Sends e r) : Follows e (s :: plan) [] false
  | stopped {s : Stage} {plan : List Stage} {m : Request × Reply} (hs : s.Sends e m.1)
    (hm : ¬ s.Passed e m) : Follows e (s :: plan) [m] false
  | passed {s : Stage} {plan : List Stage} {m : Request × Reply} {t : Traffic} {completed : Bool}
    (hm : s.Passed e m) (h : Follows e plan t completed) : Follows e (s :: plan) (m :: t) completed

namespace Follows

variable {e : Endpoint} {s : Stage} {before plan : List Stage} {t t' : Traffic} {completed : Bool}
  {m : Request × Reply}

/-- What is asked is the beginning of the plan. -/
theorem isPrefix (h : Follows e plan t completed) :
    ∃ sent, sent <+: plan ∧ List.Forall₂ (fun s r => s.Sends e r) sent (t.map Prod.fst) := by
  induction h with
  | completed => exact ⟨[], List.prefix_rfl, .nil⟩
  | unsent h => exact ⟨[], List.nil_prefix, .nil⟩
  | stopped hs hm => exact ⟨[_], List.prefix_cons_inj _ |>.2 List.nil_prefix, .cons hs .nil⟩
  | passed hm h ih =>
    obtain ⟨sent, hprefix, hsent⟩ := ih
    obtain ⟨url, resp, hmakes, -⟩ := hm
    exact ⟨_ :: sent, List.prefix_cons_inj _ |>.2 hprefix, .cons ⟨url, hmakes⟩ hsent⟩

/-- What is asked is all of the plan. -/
theorem sends (h : Follows e plan t completed) : ∀ m ∈ t, ∃ s ∈ plan, s.Sends e m.1 := by
  induction h with
  | completed => exact fun _ h => nomatch h
  | unsent h => exact fun _ h => nomatch h
  | @stopped s plan m hs hm =>
    intro m' hm'
    cases List.mem_singleton.1 hm'
    exact ⟨s, .head _, hs⟩
  | @passed s plan m t completed hm h ih =>
    intro m' hm'
    rcases List.mem_cons.1 hm' with rfl | hm'
    · obtain ⟨url, resp, hmakes, -⟩ := hm
      exact ⟨s, .head _, url, hmakes⟩
    · obtain ⟨s', hs', hsends⟩ := ih m' hm'
      exact ⟨s', .tail _ hs', hsends⟩

/-- After a part of a plan that was passed a traffic follows the rest of it. -/
theorem append (h : Through e before t) (h' : Follows e plan t' completed) :
    Follows e (before ++ plan) (t ++ t') completed := by
  induction h with
  | nil => exact h'
  | cons hm _ ih => exact .passed hm ih

/-- What passes two plans in a row passes the one and then the other. -/
theorem exists_append_of_through (h : Through e (before ++ plan) t) :
    ∃ t₁ t₂, t = t₁ ++ t₂ ∧ Through e before t₁ ∧ Through e plan t₂ :=
  ⟨t.take before.length, t.drop before.length, (List.take_append_drop ..).symm,
    (List.forall₂_take_append _ _ _ h.flip).flip, (List.forall₂_drop_append _ _ _ h.flip).flip⟩

theorem iff_through : Follows e plan t true ↔ Through e plan t := by
  constructor
  · intro h
    generalize hc : true = completed at h
    induction h with
    | completed => exact .nil
    | unsent h => cases hc
    | stopped hs hm => cases hc
    | passed hm h ih => exact .cons hm (ih hc)
  · intro h
    have hend := append h (.completed (e := e))
    rwa [List.append_nil, List.append_nil] at hend

theorem unsent_after (h : Through e before t) (hs : ∀ r, ¬ s.Sends e r) :
    Follows e (before ++ s :: plan) t false := by
  have hend := append h (show Follows e (s :: plan) [] false from unsent hs)
  rwa [List.append_nil] at hend

theorem stopped_after (h : Through e before t) (hs : s.Sends e m.1) (hm : ¬ s.Passed e m) :
    Follows e (before ++ s :: plan) (t ++ [m]) false := append h (stopped hs hm)

/-- Where all of a plan has been passed, a traffic that also follows another plan passes its first
stage, if that asks the same and something comes after it. -/
theorem step {a : Ask} {p q : Response → Prop} {plan' : List Stage}
    (h : Through e (⟨a, p⟩ :: plan) t) (hplan : plan ≠ [])
    (h' : Follows e (⟨a, q⟩ :: plan') t completed) :
    ∃ t', Through e plan t' ∧ Follows e plan' t' completed ∧ ∃ resp, p resp ∧ q resp := by
  cases h with
  | @cons _ m _ t' hm ht =>
  cases h' with
  | stopped hs hno =>
    cases ht
    exact absurd rfl hplan
  | passed hm' h' =>
    obtain ⟨_, resp, _, _, hresp, hp⟩ := hm
    obtain ⟨_, resp', _, _, hresp', hq⟩ := hm'
    cases hresp.symm.trans hresp'
    exact ⟨t', ht, h', resp, hp, hq⟩

end Follows

/-! ## A request as a stage -/

/-- After the stages `before` the response to what is asked has come. -/
structure Heard (e : Endpoint) (before : List Stage) (a : Ask) (resp : Response) (t : Traffic) :
    Prop where
  goesOn : ∀ passes : Response → Prop, passes resp → Through e (before ++ [⟨a, passes⟩]) t
  stops : ∀ (passes : Response → Prop) (plan : List Stage), ¬ passes resp →
    Follows e (before ++ ⟨a, passes⟩ :: plan) t false

/-- What is asked is the next stage of whatever plan: the talk has its response or has stopped. -/
theorem Always.asked {e : Endpoint} {before : List Stage} {a : Ask} {t : Traffic}
    (ht : Through e before t) (ha : a.hasForm = true) :
    Always t (e.call a.verb a.path a.query a.payload) (fun resp t' => Heard e before a resp t')
      fun _ t' => ∀ (passes : Response → Prop) (plan : List Stage),
        Follows e (before ++ ⟨a, passes⟩ :: plan) t' false := by
  unfold Endpoint.call
  rcases htarget : e.address.target a.path with f | url
  · refine .throw fun passes plan => .unsent_after ht ?_
    rintro r ⟨url, hm⟩
    rw [hm.target] at htarget
    cases htarget
  rcases hr : e.request url a.verb a.query a.payload with f | r
  · simp only [Bind.bind, Except.bind, hr]
    refine .throw fun passes plan => .unsent_after ht ?_
    rintro r ⟨url', hm⟩
    obtain rfl : url' = url := Except.ok.inj (hm.target.symm.trans htarget)
    rw [hm.request] at hr
    cases hr
  simp only [Bind.bind, Except.bind, Pure.pure, Except.pure, hr]
  have hmakes : a.Makes e url r := ⟨ha, htarget, hr⟩
  have hstop : ∀ (reply : Reply), (∀ resp, url.namesScheme = true → reply ≠ .response resp) →
      ∀ (passes : Response → Prop) (plan : List Stage),
        Follows e (before ++ ⟨a, passes⟩ :: plan) (t ++ [(r, reply)]) false := by
    intro reply hreply passes plan
    refine .stopped_after ht ⟨url, hmakes⟩ ?_
    rintro ⟨url', resp, hm, hscheme, hresp, -⟩
    obtain rfl : url' = url := Except.ok.inj (hm.target.symm.trans htarget)
    exact hreply resp hscheme hresp
  refine ⟨fun reply => ?_⟩
  cases reply with
  | response resp =>
    show Exchange.Ends _ (Endpoint.received url (.response resp)).run _
    rw [Endpoint.received]
    split
    · rename_i hscheme
      refine ⟨fun passes hp => ?_, fun passes plan hp => .stopped_after ht ⟨url, hmakes⟩ ?_⟩
      · exact List.rel_append ht (.cons ⟨url, resp, hmakes, hscheme, rfl, hp⟩ .nil)
      · rintro ⟨url', resp', -, -, hresp, hp'⟩
        cases hresp
        exact hp hp'
    · rename_i hscheme
      exact hstop _ fun resp h => absurd h hscheme
  | disrupted message => exact hstop _ fun resp _ h => by cases h
  | fault f => exact hstop _ fun resp _ h => by cases h

end ContentDepot
