import ContentDepot.Proofs.Index.LookingUp
import ContentDepot.Session.Basic

/-!
# How a request is handled

What precedes and follows the answer that the routes give changes neither the
status nor the content of an answer, and reaches no backend:

* `handle_hosted`: a request is handled within a context that it leaves at the end;
* `run_handle`: the response to a request is the answer that the routes give it;
* `respondBy_ok`: an answer with status 200 is that of the target;
* `Session.Serves.request_eq`: a session handles a request as its service does, which
  it starts before if need be.
-/

namespace ContentDepot

open Exchange

theorem Exchange.run_modify (f : Context → Context) (c : Context) (w : World) :
    run World.answer (modify f) c w = ((), f c, w) := rfl

namespace Api

namespace Origin

/-- Only a request of one method is made beforehand. -/
theorem preflight?_eq_none {origins : String} {r : Request} (h : r.method ≠ "OPTIONS") :
    preflight? origins r = none := by
  unfold preflight?
  rcases r.header? "origin" with _ | origin
  · rfl
  rcases r.header? "access-control-request-method" with _ | method
  · rfl
  simp [h]

/-- What an origin is told is in the headers. -/
theorem shared_eq (origins : String) (r : Request) (a : Response) :
    (shared origins r a).status = a.status ∧ (shared origins r a).content = a.content := by
  unfold shared tell
  split
  · exact ⟨rfl, rfl⟩
  · dsimp only
    split <;> exact ⟨rfl, rfl⟩

end Origin

namespace Service

variable {svc : Service} {routes : Routes} {r : Request} {c : Context} {w : World} {a : Response}

/-- The response that is sent to a request with an identifier. -/
def sent (r : Request) (id : String) : Option Response → Response
  | some a => forMethod r.method (a.withHeader requestIdHeader id)
  | none => forMethod r.method .unhandled

/-- What is done with a request whose host can be read. -/
theorem handle_hosted (h : r.namesHost = true) :
    svc.handle r = do
      let id ← identify r
      Exchange.modify fun c => { c with bound := contextOf r id }
      let answer ← svc.respondShared r
      Exchange.modify fun c => { c with bound := [] }
      return sent r id answer := by
  unfold handle
  simp only [h, Bool.not_true, Bool.false_eq_true, if_false]
  refine bind_congr fun id => bind_congr fun _ => bind_congr fun answer => bind_congr fun _ => ?_
  cases answer <;> rfl

/-- The response that is sent for an answer of the routes. -/
def delivered (svc : Service) (r : Request) (id : String) : Option Response → Response
  | some a => forMethod r.method
      ((Origin.shared svc.settings.corsOrigins r a).withHeader requestIdHeader id)
  | none => forMethod r.method .unhandled

theorem delivered_eq (svc : Service) {r : Request} (hm : r.method ≠ "HEAD") (id : String)
    (a : Response) :
    (svc.delivered r id (some a)).status = a.status ∧
      (svc.delivered r id (some a)).content = a.content := by
  rw [delivered, forMethod, if_neg hm]
  exact Origin.shared_eq ..

theorem status_forMethod (method : String) (a : Response) :
    (forMethod method a).status = a.status := by
  unfold forMethod
  split <;> rfl

theorem run_identify (r : Request) (c : Context) (w : World) :
    ∃ id c', run World.answer (identify r) c w = (id, c', w) := by
  unfold identify
  split <;> exact ⟨_, _, rfl⟩

/-- To a request whose host cannot be read there is only the response of a failure. -/
theorem run_handle_of_host (h : r.namesHost = false) (c : Context) (w : World) :
    (run World.answer (svc.handle r) c w).1.status = 500 := by
  unfold handle
  rw [run_bind, h]
  exact status_forMethod ..

/-- The response to a request is the answer that the routes give it, in a context of its own. -/
theorem run_handle (hroutes : Routes.ofSettings svc.settings = .ok routes)
    (hhost : r.namesHost = true) (hm : r.method ≠ "OPTIONS") (c : Context) (w : World) :
    ∃ id c₁ c₂,
      run World.answer (svc.handle r) c w =
        (svc.delivered r id (run World.answer (svc.respondBy routes r) c₁ w).1, c₂,
          (run World.answer (svc.respondBy routes r) c₁ w).2.2) := by
  obtain ⟨id, c', hid⟩ := run_identify r c w
  have hrespond : svc.respondShared r =
      (svc.respondBy routes r >>= fun a =>
        pure (a.map (Origin.shared svc.settings.corsOrigins r))) := by
    unfold respondShared respond
    rw [Origin.preflight?_eq_none hm, hroutes]
  refine ⟨id, { c' with bound := contextOf r id },
    { (run World.answer (svc.respondBy routes r)
        { c' with bound := contextOf r id } w).2.1 with bound := [] }, ?_⟩
  rw [handle_hosted hhost]
  simp only [run_bind, hid, hrespond, run_modify, run_pure]
  generalize run World.answer (svc.respondBy routes r) { c' with bound := contextOf r id } w =
    outcome
  obtain ⟨_ | a, c₂, w₂⟩ := outcome <;> rfl

/-- No error of the depot is answered as a success. -/
theorem run_answerError (e : StoreError) (c : Context) (w : World) :
    (run World.answer (answerError e) c w).2.2 = w ∧
      ∀ a, (run World.answer (answerError e) c w).1 = some a → a.status ≠ 200 := by
  have hstatus : e.kind.status ≠ 200 := by cases e.kind <;> decide
  unfold answerError
  dsimp only
  split
  · exact ⟨rfl, fun a ha => by cases ha; exact hstatus⟩
  · split
    · exact ⟨rfl, fun a ha => by cases ha⟩
    · exact ⟨rfl, fun a ha => by cases ha; exact hstatus⟩

/-- A report of metrics carries nothing. -/
theorem content_of_metrics (hresolve : routes.resolve r.method r.path r.query = .metrics)
    (ha : (run World.answer (svc.respondBy routes r) c w).1 = some a) : a.content = .empty := by
  unfold respondBy at ha
  rw [hresolve] at ha
  unfold Metrics.report at ha
  rcases hmedia : Metrics.mediaType ((Metrics.acceptList r).map Metrics.Accepted.ofChars) with f | m
  · rw [hmedia] at ha
    cases ha
  · rw [hmedia] at ha
    cases ha
    rfl

/-- An answer that the routes lead to is that of the target, or of its failure. -/
theorem run_respondBy {aim : Aim} (hresolve : routes.resolve r.method r.path r.query = .found aim)
    (c : Context) (w : World) :
    run World.answer (svc.respondBy routes r) c w =
      match carry World.answer (svc.perform r aim.issues aim.target) c w with
      | (.ok a, c', w') => (some a, c', w')
      | (.error (.error e), c', w') => run World.answer (answerError e) c' w'
      | (.error _, c', w') => (none, c', w') := by
  unfold respondBy
  rw [hresolve]
  dsimp only
  rw [run_bind]
  unfold carry
  generalize run World.answer (svc.perform r aim.issues aim.target).run c w = outcome
  obtain ⟨(_ | _ | _) | a, c', w'⟩ := outcome <;> rfl

/-- An answer with status 200 is that of a target that was reached. -/
theorem respondBy_ok {aim : Aim}
    (hresolve : routes.resolve r.method r.path r.query = .found aim)
    (ha : (run World.answer (svc.respondBy routes r) c w).1 = some a) (hs : a.status = 200) :
    ∃ c' w', carry World.answer (svc.perform r aim.issues aim.target) c w = (.ok a, c', w') ∧
      (run World.answer (svc.respondBy routes r) c w).2.2 = w' := by
  rw [run_respondBy hresolve] at ha ⊢
  generalize carry World.answer (svc.perform r aim.issues aim.target) c w = outcome at ha ⊢
  obtain ⟨(e | issues | f) | a', c', w'⟩ := outcome
  · exact absurd hs ((run_answerError e c' w').2 a ha)
  · cases ha
  · cases ha
  · cases ha
    exact ⟨c', w', rfl, rfl⟩

/-! ## Targets -/

variable {i : Installation}

theorem access_eq (hi : svc.installation = some i) (ho : svc.outage = none) :
    svc.access = pure (.depot i.depot) := by
  unfold access
  rw [hi, ho]

/-- A request to index whose body is read is carried out by the depot. -/
theorem perform_indexFile (hi : svc.installation = some i) (ho : svc.outage = none) {v : Json}
    (hbody : r.jsonBody = .value v) {q : IndexRequest}
    (hq : IndexRequest.check .modelAttributesType v = .ok q) :
    svc.perform r [] .indexFile =
      i.depot.indexFile (some q) >>= fun receipt => pure (.json 200 receipt.toJson) := by
  show svc.indexFile r = _
  unfold indexFile readJson
  rw [hbody, access_eq hi ho]
  dsimp only
  rw [pure_bind, indexRequest, hq]
  rfl

/-- A request for metadata under an identifier shows what the depot finds. -/
theorem perform_metadataById (hi : svc.installation = some i) (ho : svc.outage = none)
    (index id : String) :
    svc.perform r [] (.metadataById index id) =
      i.depot.metadataById (.str index) (.str id) >>= fun m => valueResponse (metadataJson m) := by
  unfold perform
  dsimp only
  rw [access_eq hi ho, pure_bind]
  rfl

end Service

end Api

/-! ## Sessions -/

/-- A session whose service works with the installation behind live backends. -/
structure Session.Serves (σ : Session) (s : Settings) : Prop where
  settings : σ.service.settings = s
  installation : σ.service.installation = some (.remote s)
  outage : σ.service.outage = none
  live : σ.world.Live

namespace Session

variable {s : Settings} {σ : Session} {r : Api.Request} {a : Api.Response}

/-- A session answers where the settings give routes. -/
theorem Serves.routes_of_ok (h : σ.Serves s) (ha : (σ.request r).1 = .ok a) :
    ∃ routes, Api.Routes.ofSettings s = .ok routes := by
  rcases hroutes : Api.Routes.ofSettings s with f | routes
  · unfold request startService at ha
    rw [h.settings, hroutes] at ha
    cases ha
  · exact ⟨routes, rfl⟩

/-- Opening the connections reaches no backend. -/
theorem run_start {svc : Api.Service} (hs : s.HostsAreRoots) (hsvc : svc.settings = s)
    (c : Context) (w : World) :
    ∃ c', run World.answer svc.start.run c w = (.ok (), c', w) := by
  obtain ⟨e, he, -⟩ := hs .content
  obtain ⟨e', he', -⟩ := hs .engine
  obtain ⟨c₁, h₁⟩ := carry_connect he (c.record ⟨.info, "Starting Filestore API...", []⟩) w
  obtain ⟨c₂, h₂⟩ := carry_connect he' c₁ w
  have hconnect : run World.answer (connectAll svc.settings).run
      (c.record ⟨.info, "Starting Filestore API...", []⟩) w = (.ok (), c₂, w) := by
    rw [hsvc]
    exact (carry_bind_of_ok h₁).trans h₂
  refine ⟨c₂.record ⟨.info, "Resources initialized successfully.", []⟩, ?_⟩
  unfold Api.Service.start
  simp only [ExceptT.run_mk, run_bind, emit, run_modify, hconnect]
  rfl

/-- A session handles a request as its service does. -/
theorem Serves.request_eq {routes : Api.Routes} (hs : s.HostsAreRoots) (h : σ.Serves s)
    (hroutes : Api.Routes.ofSettings s = .ok routes) (r : Api.Request) :
    ∃ c, (σ.request r).1 = .ok (run World.answer (σ.service.handle r) c σ.world).1 ∧
      (σ.request r).2.world = (run World.answer (σ.service.handle r) c σ.world).2.2 ∧
      (σ.request r).2.Serves s := by
  obtain ⟨c', hstart⟩ := run_start hs h.settings σ.context σ.world
  have hstarted : ∃ c b,
      σ.startService = (.ok (), { σ with startsService := b, context := c }) := by
    unfold startService
    rw [h.settings, hroutes]
    dsimp only
    split
    · unfold talk
      rw [hstart]
      exact ⟨_, _, rfl⟩
    · exact ⟨_, _, rfl⟩
  obtain ⟨c, b, hstarted⟩ := hstarted
  refine ⟨c, ?_⟩
  unfold request
  rw [hstarted]
  exact ⟨rfl, rfl, h.settings, h.installation, h.outage, World.live_run _ _ h.live⟩

/-- A response with status 200 is an answer that the routes give. -/
theorem Serves.answered {routes : Api.Routes} (hs : s.HostsAreRoots) (h : σ.Serves s)
    (hroutes : Api.Routes.ofSettings s = .ok routes) (hhead : r.method ≠ "HEAD")
    (hoptions : r.method ≠ "OPTIONS") (ha : (σ.request r).1 = .ok a) (h200 : a.status = 200) :
    ∃ c given, (run World.answer (σ.service.respondBy routes r) c σ.world).1 = some given ∧
      given.status = 200 ∧ given.content = a.content ∧
      (σ.request r).2.world = (run World.answer (σ.service.respondBy routes r) c σ.world).2.2 := by
  obtain ⟨c, hresponse, hworld, -⟩ := h.request_eq hs hroutes r
  rw [ha, Except.ok.injEq] at hresponse
  have hhost : r.namesHost = true := by
    by_contra hno
    rw [hresponse, Api.Service.run_handle_of_host (Bool.not_eq_true _ ▸ hno)] at h200
    exact absurd h200 (by decide)
  obtain ⟨id, c₁, c₂, hrun⟩ :=
    Api.Service.run_handle (h.settings ▸ hroutes) hhost hoptions c σ.world
  rw [hrun] at hresponse hworld
  rcases hrespond : (run World.answer (σ.service.respondBy routes r) c₁ σ.world).1 with _ | given
  · rw [hrespond] at hresponse
    rw [hresponse, Api.Service.delivered, Api.Service.status_forMethod] at h200
    exact absurd h200 (by decide)
  · rw [hrespond] at hresponse
    obtain ⟨hstatus, hcontent⟩ := Api.Service.delivered_eq σ.service hhead id given
    refine ⟨c₁, given, hrespond, ?_, ?_, hworld⟩
    · rw [← hstatus, ← h200, hresponse]
    · rw [← hcontent, hresponse]

/-- An answer that the routes give, whatever the context, is the response. -/
theorem Serves.answers {routes : Api.Routes} (hs : s.HostsAreRoots) (h : σ.Serves s)
    (hroutes : Api.Routes.ofSettings s = .ok routes) (hhead : r.method ≠ "HEAD")
    (hoptions : r.method ≠ "OPTIONS") (hhost : r.namesHost = true) {given : Api.Response}
    (hrespond : ∀ c, (run World.answer (σ.service.respondBy routes r) c σ.world).1 = some given) :
    ∃ a, (σ.request r).1 = .ok a ∧ a.status = given.status ∧ a.content = given.content := by
  obtain ⟨c, hresponse, -, -⟩ := h.request_eq hs hroutes r
  obtain ⟨id, c₁, c₂, hrun⟩ :=
    Api.Service.run_handle (h.settings ▸ hroutes) hhost hoptions c σ.world
  rw [hrun, hrespond c₁] at hresponse
  exact ⟨_, hresponse, Api.Service.delivered_eq σ.service hhead id given⟩

end Session

end ContentDepot
