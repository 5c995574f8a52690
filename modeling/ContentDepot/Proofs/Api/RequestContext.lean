import Mathlib.Algebra.Group.Nat.Defs
import ContentDepot.Proofs.Api.Orderliness
import ContentDepot.Proofs.Api.ReadBack
import ContentDepot.Proofs.Session.Closing

/-!
# The context of a request

Requests to a service come one after the other, between steps that belong to none.
What every event carries while a request is handled is the context of that request,
and nothing before and after:

* `Service.run_handle_hosted`: a request is handled within its context, which is left
  when it is answered or not;
* `Session.IsTidy.acts`: between the steps of a session nothing is bound;
* `Session.KeepsApart`: what is said of the events and of the response to a request;
* `requests_keep_apart`: so it is with every request of a session.
-/

namespace ContentDepot

open Exchange (Modest run run_bind run_pure run_modify)

/-! ## Identifiers -/

theorem Text.Hex.digit_inj : ∀ d < 16, ∀ d' < 16, digit d = digit d' → d = d' := by decide

/-- The lowest digits of two numbers are the same just if the numbers differ by a multiple. -/
theorem Text.Hex.mod_of_padded {w n n' : Nat} (h : padded w n = padded w n') :
    n % 16 ^ w = n' % 16 ^ w := by
  induction w generalizing n n' with
  | zero => simp [Nat.mod_one]
  | succ w ih =>
    obtain ⟨hinit, hlast⟩ := List.append_inj' h rfl
    have hmod : n % 16 = n' % 16 :=
      digit_inj _ (Nat.mod_lt n (by decide)) _ (Nat.mod_lt n' (by decide))
        (List.head_eq_of_cons_eq hlast)
    rw [Nat.pow_succ', Nat.mod_mul, Nat.mod_mul, ih hinit, hmod]

/-- Identifiers that are handed out one after the other are different, until there are no more. -/
theorem Text.Hex.padded_ne {w n n' : Nat} (h : n < n') (hw : n' < n + 16 ^ w) :
    padded w n' ≠ padded w n := by
  intro heq
  have hdvd : 16 ^ w ∣ n' - n := Nat.dvd_of_mod_eq_zero
    (Nat.sub_mod_eq_zero_of_mod_eq (mod_of_padded heq))
  exact absurd (Nat.le_of_dvd (by omega) hdvd) (by omega)

namespace Api

/-- The identifier that a request names, unless it is empty. -/
def Request.ownId? (r : Request) : Option String := (r.header? requestIdHeader).filter (· ≠ "")

namespace Service

variable {s : Service} {r : Request} {c : Context} {w : World}

/-- The identifier of a request: its own, or the next that is handed out. -/
def idOf (r : Request) (c : Context) : String :=
  r.ownId?.getD (String.ofList (Text.Hex.padded 32 (c.issued + 1)))

/-- The context in which a request has its identifier. -/
def identified (r : Request) (c : Context) : Context :=
  if r.ownId?.isSome then c else { c with issued := c.issued + 1 }

/-- The context in which a request is handled. -/
def during (r : Request) (c : Context) : Context :=
  { identified r c with bound := contextOf r (idOf r c) }

theorem identify_eq (r : Request) :
    identify r = match r.ownId? with
      | some id => pure id
      | none => Exchange.freshId := by
  unfold identify Request.ownId?
  split
  · rename_i h
    rw [h]
    rfl
  · rename_i h
    rw [h]
    rfl
  · rename_i id hne h
    rw [h, Option.filter_some, if_pos (by simpa using hne)]

theorem run_identify_eq (r : Request) (c : Context) (w : World) :
    run World.answer (identify r) c w = (idOf r c, identified r c, w) := by
  rw [identify_eq, idOf, identified]
  rcases r.ownId? with _ | id <;> rfl

theorem logged_identify (r : Request) (c : Context) (w : World) :
    (identify r).logged World.answer c w = [] := by
  rw [identify_eq]
  rcases r.ownId? with _ | id
  · exact Exchange.logged_freshId ..
  · rfl

/-- A request whose host cannot be read is handled in no context. -/
theorem run_handle_hostless (h : r.namesHost = false) :
    run World.answer (s.handle r) c w = (forMethod r.method .unhandled, identified r c, w) ∧
      (s.handle r).logged World.answer c w = [] := by
  unfold handle
  rw [Exchange.logged_bind, run_bind, logged_identify, run_identify_eq, h]
  exact ⟨rfl, rfl⟩

/-- A request is handled within its context, which is left when there is a response or none. -/
theorem run_handle_hosted (h : r.namesHost = true) :
    run World.answer (s.handle r) c w =
        (sent r (idOf r c) (run World.answer (s.respondShared r) (during r c) w).1,
          { (run World.answer (s.respondShared r) (during r c) w).2.1 with bound := [] },
          (run World.answer (s.respondShared r) (during r c) w).2.2) ∧
      (s.handle r).logged World.answer c w =
        (s.respondShared r).logged World.answer (during r c) w := by
  rw [handle_hosted h]
  constructor
  · simp only [run_bind, run_identify_eq, run_modify, run_pure]
    rfl
  · simp only [Exchange.logged_bind, logged_identify, Exchange.logged_rebound, run_identify_eq,
      run_modify, List.nil_append]
    exact List.append_nil _

theorem log_identified (r : Request) (c : Context) : (identified r c).log = c.log := by
  unfold identified
  split <;> rfl

theorem bound_identified (r : Request) (c : Context) : (identified r c).bound = c.bound := by
  unfold identified
  split <;> rfl

/-- What is said of a request that is handled where nothing is bound: all that is logged carries the
context of the request, nothing is bound after that, and the response names the identifier unless
the service has failed. -/
structure Handles (s : Service) (routes : Routes) (r : Request) (c : Context) (w : World) :
    Prop where
  cleared : (run World.answer (s.handle r) c w).2.1.bound = []
  issued : (identified r c).issued ≤ (run World.answer (s.handle r) c w).2.1.issued
  log : (run World.answer (s.handle r) c w).2.1.log =
    c.log ++ ((s.handle r).logged World.answer c w).map Prod.fst
  carried : ∀ p ∈ (s.handle r).logged World.answer c w,
    p.2 = contextOf r (idOf r c) ∧ p.1.requestId = some (.str (idOf r c))
  echoed : ¬s.FailsOver routes r (during r c) w →
    (run World.answer (s.handle r) c w).1.header? requestIdHeader = some (idOf r c)
  unhandled : s.FailsOver routes r (during r c) w →
    (run World.answer (s.handle r) c w).1 = forMethod r.method .unhandled

/-- A request whose host cannot be read logs nothing. -/
theorem handles_hostless {routes : Routes} (hc : c.bound = []) (hhost : r.namesHost = false) :
    s.Handles routes r c w := by
  obtain ⟨hrun, hlogged⟩ := run_handle_hostless (s := s) (c := c) (w := w) hhost
  constructor <;> simp only [hrun, hlogged]
  case cleared => exact (bound_identified r c).trans hc
  case issued => exact Nat.le_refl _
  case log => exact (log_identified r c).trans (List.append_nil _).symm
  case carried => exact fun p hp => nomatch hp
  case echoed => exact fun hanswered => absurd (.host hhost) hanswered
  case unhandled => exact fun _ => trivial

/-- An orderly service handles every request in this way. -/
theorem handles (hs : s.IsOrderly) {routes : Routes}
    (hroutes : Routes.ofSettings s.settings = .ok routes) (hc : c.bound = []) :
    s.Handles routes r c w := by
  rcases hhost : r.namesHost with _ | _
  · exact handles_hostless hc hhost
  obtain ⟨hrun, hlogged⟩ := run_handle_hosted (s := s) (c := c) (w := w) hhost
  obtain ⟨hfree, hgoes, hgrown, hall⟩ :=
    (orderly_respondShared hs r).modest.carried World.answer (during r c) w
  have hnone := run_respondShared_eq_none_iff (c := during r c) (w := w) hs hroutes hhost
  constructor <;> simp only [hrun, hlogged]
  case issued => exact hgoes.issued
  case log => exact hgrown.trans (congrArg (· ++ _) (log_identified r c))
  case carried => exact hall
  case echoed =>
    intro hanswered
    rcases hgiven : (run World.answer (s.respondShared r) (during r c) w).1 with _ | a
    · exact absurd (hnone.1 hgiven) hanswered
    · exact (Response.header?_forMethod ..).trans ((hfree a hgiven).header?_withHeader _)
  case unhandled =>
    intro hfails
    rw [hnone.2 hfails]
    rfl

end Service

end Api

/-! ## Sessions -/

namespace Session

variable {α : Type} {σ : Session}

/-- What a talk logs in a session, each event with what every event carried at that time. -/
def logOf (σ : Session) (x : Exchange α) : List (LoggedEvent × Entries Json) :=
  x.logged World.answer σ.context σ.world

/-- The session once the service is started, if it can be. -/
def started (σ : Session) : Session := σ.startService.2

/-- What is logged when the service is started. -/
def startLog (σ : Session) : List (LoggedEvent × Entries Json) :=
  match Api.Routes.ofSettings σ.service.settings with
  | .error _ => []
  | .ok _ => if σ.startsService then σ.logOf σ.service.start.run else []

/-- What is logged while a request is handled, which it is once the service is started. -/
def requestLog (σ : Session) (r : Api.Request) : List (LoggedEvent × Entries Json) :=
  match σ.startService.1 with
  | .error _ => []
  | .ok _ => σ.started.logOf (σ.service.handle r)

/-- The identifier of a request to a session. -/
def identifier (σ : Session) (r : Api.Request) : String := Api.Service.idOf r σ.started.context

/-- The service fails over a request to the session. -/
def FailsOver (σ : Session) (r : Api.Request) : Prop :=
  ∃ routes, Api.Routes.ofSettings σ.service.settings = .ok routes ∧
    σ.service.FailsOver routes r (Api.Service.during r σ.started.context) σ.started.world

/-- A step of a session: a request to the service with the replies that are prepared for it, or a
turn that is none. -/
inductive Act where
  | request (engineReplies contentReplies : List Reply) (r : Api.Request)
  | turn (t : Turn)

/-- One step. -/
def act (σ : Session) : Act → Session
  | .request engineReplies contentReplies r =>
    ((σ.prepare engineReplies contentReplies).request r).2
  | .turn t => (σ.turn t).2

/-- Steps one after the other. -/
def acts (σ : Session) (steps : List Act) : Session := steps.foldl act σ

/-- A session on regular installations, whose service is out of use in a plain way, if at all, and
in which nothing is bound. -/
structure IsTidy (σ : Session) : Prop where
  installation : σ.installation.IsRegular
  service : ∀ i, σ.service.installation = some i → i.IsRegular
  outage : ∀ f, σ.service.outage = some f → f.IsPlain
  unbound : σ.context.bound = []

namespace IsTidy

theorem isOrderly (h : σ.IsTidy) : σ.service.IsOrderly :=
  ⟨fun i hi => (h.service i hi).isOrderly, h.outage⟩

/-- What a session is tidy by, but for what is bound, does not change. -/
theorem of_eq {σ' : Session} (h : σ.IsTidy) (hi : σ'.installation = σ.installation)
    (hs : σ'.service = σ.service) (hbound : σ'.context.bound = []) : σ'.IsTidy :=
  ⟨hi ▸ h.installation, hs ▸ h.service, hs ▸ h.outage, hbound⟩

theorem prepare (h : σ.IsTidy) (engineReplies contentReplies : List Reply) :
    (σ.prepare engineReplies contentReplies).IsTidy := h.of_eq rfl rfl h.unbound

/-- A modest talk leaves a session tidy, and what it logs carries nothing. -/
theorem talk (h : σ.IsTidy) {post : α → Prop} {x : Exchange α} (hx : x.Modest post) :
    (σ.talk x).2.IsTidy ∧ σ.context.issued ≤ (σ.talk x).2.context.issued ∧
      (σ.talk x).2.context.log = σ.context.log ++ (σ.logOf x).map Prod.fst ∧
      ∀ p ∈ σ.logOf x, p.2 = [] ∧ p.1.requestId = none := by
  obtain ⟨-, hgoes, hlog, hall⟩ := hx.carried World.answer σ.context σ.world
  rw [h.unbound] at hall
  exact ⟨h.of_eq rfl rfl (hgoes.bound.trans h.unbound), hgoes.issued, hlog, hall⟩

/-- Starting the service leaves a session tidy, and what it logs carries nothing. -/
theorem started (h : σ.IsTidy) :
    σ.started.IsTidy ∧ σ.started.service = σ.service ∧
      σ.context.issued ≤ σ.started.context.issued ∧
      σ.started.context.log = σ.context.log ++ σ.startLog.map Prod.fst ∧
      ∀ p ∈ σ.startLog, p.2 = [] ∧ p.1.requestId = none := by
  unfold Session.started startService startLog
  rcases Api.Routes.ofSettings σ.service.settings with f | routes
  · exact ⟨h, rfl, Nat.le_refl _, (List.append_nil _).symm, fun _ hp => by cases hp⟩
  dsimp only
  split
  · obtain ⟨htidy, hissued, hlog, hall⟩ := h.talk (Api.Service.modest_start σ.service)
    have hservice : (σ.talk σ.service.start.run).2.service = σ.service := rfl
    generalize σ.talk σ.service.start.run = outcome at *
    obtain ⟨f | _, τ⟩ := outcome
    · exact ⟨htidy, hservice, hissued, hlog, hall⟩
    · exact ⟨htidy.of_eq rfl rfl htidy.unbound, hservice, hissued, hlog, hall⟩
  · exact ⟨h, rfl, Nat.le_refl _, (List.append_nil _).symm, fun _ hp => by cases hp⟩

end IsTidy

/-- What is said of a request to a session: starting the service is a step outside of requests; all
that is logged while the request is handled carries the context of the request, and nothing is bound
after that; and the response, which there is once the service is started, names the identifier
unless the service has failed. -/
structure KeepsApart (σ : Session) (r : Api.Request) : Prop where
  starting : ∀ p ∈ σ.startLog, p.2 = [] ∧ p.1.requestId = none
  carried : ∀ p ∈ σ.requestLog r, p.2 = Api.Service.contextOf r (σ.identifier r) ∧
    p.1.requestId = some (.str (σ.identifier r))
  log : (σ.request r).2.context.log =
    σ.context.log ++ (σ.startLog ++ σ.requestLog r).map Prod.fst
  answered : σ.startService.1 = .ok () → ∃ a, (σ.request r).1 = .ok a ∧
    (¬σ.FailsOver r → a.header? Api.requestIdHeader = some (σ.identifier r)) ∧
    (σ.FailsOver r → a = Api.Service.forMethod r.method .unhandled)
  unstarted : ∀ f, σ.startService.1 = .error f → (σ.request r).1 = .error f
  cleared : (σ.request r).2.context.bound = []
  own : ∀ id, r.header? Api.requestIdHeader = some id → id ≠ "" → σ.identifier r = id

/-- The routes of a service that is started. -/
theorem exists_routes_of_started (h : σ.startService.1 = .ok ()) :
    ∃ routes, Api.Routes.ofSettings σ.service.settings = .ok routes := by
  unfold startService at h
  rcases hroutes : Api.Routes.ofSettings σ.service.settings with f | routes
  · rw [hroutes] at h
    cases h
  · exact ⟨routes, rfl⟩

theorem request_of_unstarted {f : Failure} (h : σ.startService.1 = .error f) (r : Api.Request) :
    σ.request r = (.error f, σ.started) := by
  unfold request Session.started
  generalize σ.startService = outcome at h ⊢
  obtain ⟨_ | _, τ⟩ := outcome <;> cases h
  rfl

theorem request_of_started (h : σ.startService.1 = .ok ()) (r : Api.Request) :
    σ.request r = (.ok (σ.started.talk (σ.started.service.handle r)).1,
      (σ.started.talk (σ.started.service.handle r)).2) := by
  unfold request Session.started
  generalize σ.startService = outcome at h ⊢
  obtain ⟨_ | _, τ⟩ := outcome <;> cases h
  rfl

theorem identifier_of_named {r : Api.Request} {id : String}
    (h : r.header? Api.requestIdHeader = some id) (hid : id ≠ "") : σ.identifier r = id := by
  unfold identifier Api.Service.idOf Api.Request.ownId?
  rw [h, Option.filter_some, if_pos (by simpa using hid)]
  rfl

namespace IsTidy

/-- Every request to a tidy session is kept apart from what comes before and after it. -/
theorem keepsApart (h : σ.IsTidy) (r : Api.Request) : σ.KeepsApart r := by
  obtain ⟨htidy, hservice, -, hlog, hall⟩ := h.started
  rcases hstart : σ.startService.1 with f | _
  · have hrequest := request_of_unstarted hstart r
    have hunlogged : σ.requestLog r = [] := by rw [requestLog, hstart]
    refine ⟨hall, ?carried, ?log, ?answered, ?unstarted, ?cleared, fun id => identifier_of_named⟩
    case carried => exact hunlogged ▸ fun p hp => nomatch hp
    case log => rw [hrequest, hunlogged, List.append_nil, hlog]
    case answered => exact fun hok => nomatch hstart.symm.trans hok
    case unstarted =>
      intro f' hf'
      cases hstart.symm.trans hf'
      rw [hrequest]
    case cleared => exact hrequest ▸ htidy.unbound
  · have hrequest := request_of_started hstart r
    rw [hservice, talk_eq] at hrequest
    obtain ⟨routes, hroutes⟩ := exists_routes_of_started hstart
    have hhandles : σ.service.Handles routes r σ.started.context σ.started.world :=
      Api.Service.handles h.isOrderly hroutes htidy.unbound
    have hlogged : σ.requestLog r = σ.started.logOf (σ.service.handle r) := by
      rw [requestLog, hstart]
    have hfails : σ.FailsOver r ↔ σ.service.FailsOver routes r
        (Api.Service.during r σ.started.context) σ.started.world := by
      simp [FailsOver, hroutes]
    refine ⟨hall, ?carried, ?log, ?answered, ?unstarted, ?cleared, fun id => identifier_of_named⟩
    case carried => exact hlogged ▸ hhandles.carried
    case log =>
      rw [hrequest, hlogged, List.map_append, ← List.append_assoc, ← hlog]
      exact hhandles.log
    case answered =>
      intro _
      rw [hrequest, hfails]
      exact ⟨_, rfl, hhandles.echoed, hhandles.unhandled⟩
    case unstarted => exact fun f hf => nomatch hstart.symm.trans hf
    case cleared => exact hrequest ▸ hhandles.cleared

/-- A request leaves a session tidy, and counts the identifier that it was given. -/
theorem request (h : σ.IsTidy) (r : Api.Request) :
    (σ.request r).2.IsTidy ∧ σ.context.issued ≤ (σ.request r).2.context.issued ∧
      (σ.startService.1 = .ok () →
        (Api.Service.identified r σ.started.context).issued ≤
          (σ.request r).2.context.issued) := by
  obtain ⟨htidy, hservice, hissued, -, -⟩ := h.started
  have hgrown : σ.started.context.issued ≤
      (Api.Service.identified r σ.started.context).issued := by
    unfold Api.Service.identified
    split
    · exact Nat.le_refl _
    · exact Nat.le_succ _
  have hcleared := (h.keepsApart r).cleared
  rcases hstart : σ.startService.1 with f | _
  · rw [request_of_unstarted hstart r]
    exact ⟨htidy, hissued, fun hok => nomatch hok⟩
  · obtain ⟨routes, hroutes⟩ := exists_routes_of_started hstart
    have hhandles : σ.service.Handles routes r σ.started.context σ.started.world :=
      Api.Service.handles h.isOrderly hroutes htidy.unbound
    rw [request_of_started hstart r, hservice, talk_eq] at hcleared ⊢
    exact ⟨htidy.of_eq rfl rfl hcleared, (hissued.trans hgrown).trans hhandles.issued,
      fun _ => hhandles.issued⟩

/-- A call leaves a session tidy, and what it logs carries nothing. -/
theorem call (h : σ.IsTidy) (c : Call) :
    (σ.call c).2.IsTidy ∧ σ.context.issued ≤ (σ.call c).2.context.issued ∧
      (σ.call c).2.context.log =
        σ.context.log ++ (σ.logOf (c.perform σ.installation)).map Prod.fst ∧
      ∀ p ∈ σ.logOf (c.perform σ.installation), p.2 = [] ∧ p.1.requestId = none :=
  h.talk (Call.orderly h.installation.isOrderly c).modest

/-- Every step leaves a session tidy, and takes back no identifier. -/
theorem act (h : σ.IsTidy) (step : Act) :
    (σ.act step).IsTidy ∧ σ.context.issued ≤ (σ.act step).context.issued := by
  cases step with
  | request engineReplies contentReplies r =>
    obtain ⟨htidy, hissued, -⟩ := (h.prepare engineReplies contentReplies).request r
    exact ⟨htidy, hissued⟩
  | turn t =>
    cases t with
    | call engineReplies contentReplies c =>
      obtain ⟨htidy, hissued, -⟩ := (h.prepare engineReplies contentReplies).call c
      exact ⟨htidy, hissued⟩
    | switch b status => exact ⟨h.of_eq rfl rfl h.unbound, Nat.le_refl _⟩

/-- Steps one after the other leave a session tidy, and take back no identifier. -/
theorem acts (h : σ.IsTidy) (steps : List Act) :
    (σ.acts steps).IsTidy ∧ σ.context.issued ≤ (σ.acts steps).context.issued := by
  induction steps generalizing σ with
  | nil => exact ⟨h, Nat.le_refl _⟩
  | cons step steps ih =>
    obtain ⟨htidy, hissued⟩ := h.act step
    obtain ⟨hend, hmore⟩ := ih htidy
    exact ⟨hend, hissued.trans hmore⟩

/-- An identifier that is handed out for a request is not handed out for a later one, until there
are no more. -/
theorem identifier_ne (h : σ.IsTidy) {r r' : Api.Request} (hr : r.ownId? = none)
    (hr' : r'.ownId? = none) (hstart : σ.startService.1 = .ok ()) {later : Session}
    (hlater : (σ.request r).2.context.issued ≤ later.started.context.issued)
    (hfew : later.started.context.issued < σ.started.context.issued + 16 ^ 32) :
    later.identifier r' ≠ σ.identifier r := by
  have hissued := (h.request r).2.2 hstart
  rw [Api.Service.identified, hr] at hissued
  unfold identifier Api.Service.idOf
  rw [hr, hr', Option.getD_none, Option.getD_none]
  intro heq
  refine Text.Hex.padded_ne (w := 32) ?_ ?_ (String.ofList_injective heq)
  · exact Nat.succ_lt_succ (Nat.lt_of_succ_le (hissued.trans hlater))
  · omega

end IsTidy

end Session

/-- Whatever steps a session has taken, nothing is bound in it, a call logs events that carry
nothing, and a request is kept apart from them. An identifier that is handed out for a request is
not handed out for a later one, until all that 32 hexadecimal digits can write have been. -/
theorem requests_keep_apart {σ : Session} (h : σ.IsTidy) (steps : List Session.Act) :
    (σ.acts steps).context.bound = [] ∧
      ∀ engineReplies contentReplies : List Reply,
        let ρ := (σ.acts steps).prepare engineReplies contentReplies
        (∀ c : Call,
          (ρ.call c).2.context.log = (ρ.logOf (c.perform ρ.installation)).map Prod.fst ∧
            ∀ p ∈ ρ.logOf (c.perform ρ.installation), p.2 = [] ∧ p.1.requestId = none) ∧
        ∀ r : Api.Request, ρ.KeepsApart r ∧
          ∀ (between : List Session.Act) (engineReplies' contentReplies' : List Reply)
              (r' : Api.Request),
            let later := ((ρ.request r).2.acts between).prepare engineReplies' contentReplies'
            ρ.startService.1 = .ok () → r.ownId? = none → r'.ownId? = none →
              later.started.context.issued < ρ.started.context.issued + 16 ^ 32 →
                later.identifier r' ≠ ρ.identifier r := by
  obtain ⟨htidy, -⟩ := h.acts steps
  refine ⟨htidy.unbound, fun engineReplies contentReplies => ?_⟩
  have hρ := htidy.prepare engineReplies contentReplies
  refine ⟨fun c => (hρ.call c).2.2, fun r => ⟨hρ.keepsApart r, ?_⟩⟩
  intro between engineReplies' contentReplies' r' later hstart hr hr' hfew
  obtain ⟨hend, hmore⟩ := (hρ.request r).1.acts between
  have hlater := (hend.prepare engineReplies' contentReplies').started.2.2.1
  exact hρ.identifier_ne hr hr' hstart (hmore.trans hlater) hfew

theorem Session.isTidy_serving (s : Settings) : (serving s).IsTidy :=
  ⟨.remote s, fun _ hi => by cases hi; exact .remote s, fun _ hf => (by cases hf), rfl⟩

/-- A request that names its identifier. -/
def Api.Request.named (id : String) : Request :=
  { forMetadata "a" with headers := [("host", "api.test"), ("X-Request-ID", id)] }

/-- A request that names an empty identifier, after one that names another and before one whose
backend has failed, is kept apart from both. -/
theorem nameless_after_named :
    let σ := Session.serving .standard
    let ρ := (σ.acts [.request [] [] (.named "abc")]).prepare [] []
    let later := ((ρ.request (.named "")).2.acts [.turn (.switch .engine (some 503))]).prepare [] []
    σ.IsTidy ∧ ρ.KeepsApart (.named "") ∧
      later.identifier (.forMetadata "b") ≠ ρ.identifier (.named "") ∧
      (ρ.requestLog (.named "")).map (fun p => (p.1.event.name, p.1.requestId)) =
        [("document_not_found", some (.str (ρ.identifier (.named "")))),
          ("request_rejected", some (.str (ρ.identifier (.named ""))))] := by
  intro σ ρ later
  have h := requests_keep_apart (Session.isTidy_serving .standard) [.request [] [] (.named "abc")]
  obtain ⟨happart, hfresh⟩ := (h.2 [] []).2 (.named "")
  obtain ⟨hok, hfew, hlog⟩ : ρ.startService.1.toBool = true ∧
      later.started.context.issued < ρ.started.context.issued + 16 ^ 32 ∧
      (ρ.requestLog (.named "")).map (fun p => (p.1.event.name, p.1.requestId)) =
        [("document_not_found", some (.str (ρ.identifier (.named "")))),
          ("request_rejected", some (.str (ρ.identifier (.named ""))))] := by
    decide +kernel
  have hstart : ρ.startService.1 = .ok () := by
    rcases hresult : ρ.startService.1 with f | _
    · rw [hresult] at hok
      cases hok
    · rfl
  refine ⟨Session.isTidy_serving _, happart, ?_, hlog⟩
  exact hfresh [.turn (.switch .engine (some 503))] [] [] (.forMetadata "b") hstart
    (by decide +kernel) (by decide +kernel) hfew

end ContentDepot
