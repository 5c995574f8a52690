import ContentDepot.Proofs.Api.Handling
import ContentDepot.Proofs.Depot.Orderliness
import ContentDepot.Proofs.Session.Modest

/-!
# The service is orderly

What the service does for a request is made of orderly steps, as the operations of its
installation are, and its response has no header with a request identifier
(`Response.IsUnnamed`) until the request that has been handled gives it its own:

* `Service.answers_perform`: what is done for a target, on an orderly installation;
* `Service.orderly_respondShared`: the response that the routes give;
* `Service.run_answerError_of_isPlain`: a plain error always has a response.
-/

namespace ContentDepot.Api

open Exchange (IsOrderly Modest run carry run_bind run_pure)

variable {α : Type}

/-! ## Responses -/

/-- A response without a header for the identifier of the request. -/
structure Response.IsUnnamed (a : Response) : Prop where
  free : ∀ h ∈ a.headers, h.1 ≠ requestIdHeader

namespace Response

theorem isUnnamed_json (status : Nat) (v : Json) : (json status v).IsUnnamed :=
  ⟨by simp [json, requestIdHeader]⟩

theorem isUnnamed_plain (status : Nat) (s : String) : (plain status s).IsUnnamed :=
  ⟨by simp [plain, requestIdHeader]⟩

theorem isUnnamed_octets (content : Bytes) : (octets content).IsUnnamed :=
  ⟨by simp [octets, requestIdHeader]⟩

theorem isUnnamed_detail (status : Nat) (sentence : String) : (detail status sentence).IsUnnamed :=
  isUnnamed_json ..

theorem isUnnamed_report {r : Request} {a : Response} (h : Metrics.report r = .ok a) :
    a.IsUnnamed := by
  unfold Metrics.report at h
  rcases hmedia : Metrics.mediaType ((Metrics.acceptList r).map Metrics.Accepted.ofChars) with
    f | m <;> rw [hmedia] at h <;> cases h
  exact ⟨by simp [requestIdHeader]⟩

theorem isUnnamed_rejected (issues : List Issue) : (rejected issues).IsUnnamed :=
  isUnnamed_json ..

theorem IsUnnamed.withHeader {a : Response} (h : a.IsUnnamed) {name : String}
    (hname : name ≠ requestIdHeader) (value : String) : (a.withHeader name value).IsUnnamed := by
  refine ⟨fun header hheader => ?_⟩
  rcases List.mem_append.1 hheader with hheader | hheader
  · exact h.free header hheader
  · rw [List.mem_singleton.1 hheader]
    exact hname

/-- The header that is added to such a response is the one that is read. -/
theorem IsUnnamed.header?_withHeader {a : Response} (h : a.IsUnnamed) (id : String) :
    (a.withHeader requestIdHeader id).header? requestIdHeader = some id := by
  have hnone : a.headers.find? (fun header => header.1 == requestIdHeader) = none :=
    List.find?_eq_none.2 fun header hheader => by
      simpa using h.free header hheader
  rw [header?, Response.withHeader, List.find?_append, hnone, Option.none_or,
    List.find?_cons_of_pos (by simp)]
  rfl

theorem header?_forMethod (method : String) (a : Response) (name : String) :
    (Service.forMethod method a).header? name = a.header? name := by
  unfold Service.forMethod
  split <;> rfl

end Response

namespace Origin

theorem isUnnamed_tell (origins origin : String) {a : Response} (h : a.IsUnnamed) :
    (tell origins origin a).IsUnnamed := by
  unfold tell
  dsimp only
  split
  · exact (h.withHeader (by decide) _).withHeader (by decide) _
  · exact h.withHeader (by decide) _

theorem isUnnamed_shared (origins : String) (r : Request) {a : Response} (h : a.IsUnnamed) :
    (shared origins r a).IsUnnamed := by
  unfold shared
  split
  · exact h
  · exact isUnnamed_tell _ _ h

theorem isUnnamed_preflight? {origins : String} {r : Request} {a : Response}
    (h : preflight? origins r = some a) : a.IsUnnamed := by
  unfold preflight? at h
  simp only [Option.pure_def, Option.bind_eq_bind, Option.bind_eq_some_iff] at h
  obtain ⟨origin, -, method, -, h⟩ := h
  split at h
  · cases h
  · cases h
    exact isUnnamed_tell _ _
      (iteInduction (fun _ => Response.isUnnamed_plain ..) fun _ => Response.isUnnamed_plain ..)

end Origin

/-! ## Targets -/

/-- An orderly operation that ends with a response without the header, or with a plain failure. -/
structure Answers (x : Action Response) : Prop where
  run : x.run.IsOrderly fun result => match result with
    | .ok a => a.IsUnnamed
    | .error f => f.IsPlain

namespace Answers

theorem given {a : Response} (h : a.IsUnnamed) : Answers (pure a) := ⟨.done h⟩

theorem throw {f : Failure} (h : f.IsPlain) : Answers (MonadExcept.throw f) := ⟨.done h⟩

theorem bind {x : Action α} {f : α → Action Response} (hx : Orderly Failure.IsPlain x)
    (hf : ∀ a, Answers (f a)) : Answers (x >>= f) := by
  refine ⟨?_⟩
  rw [ExceptT.run_bind]
  refine hx.run.bind fun result hresult => ?_
  cases result with
  | ok a => exact (hf a).run
  | error e => exact .done (hresult e rfl)

end Answers

/-- A way to a depot whose operations are orderly, or a plain failure in its place. -/
def Access.IsOrderly : Access → Prop
  | .depot d => d.IsOrderly Failure.IsPlain
  | .out f => f.IsPlain

theorem Access.IsOrderly.use {a : Access} (ha : a.IsOrderly) {operation : Depot → Action α}
    (h : ∀ d : Depot, d.IsOrderly Failure.IsPlain → Orderly Failure.IsPlain (operation d)) :
    Orderly Failure.IsPlain (a.use operation) := by
  cases a with
  | depot d => exact h d ha
  | out f => exact .throw ha

namespace Service

/-- A service with an orderly installation, if any, which is out of use in a plain way, if at all. -/
structure IsOrderly (s : Service) : Prop where
  installation : ∀ i, s.installation = some i → i.IsOrderly Failure.IsPlain
  outage : ∀ f, s.outage = some f → f.IsPlain

variable {s : Service}

theorem answers_access (hs : s.IsOrderly) {next : Access → Action Response}
    (h : ∀ a : Access, a.IsOrderly → Answers (next a)) : Answers (s.access >>= next) := by
  unfold access
  rcases ho : s.outage with _ | f
  · rcases hi : s.installation with _ | i
    · exact .throw trivial
    · exact h _ (hs.installation i hi).depot
  · exact h _ (hs.outage f ho)

theorem answers_checked {found : Checked α} {next : α → Action Response}
    (h : ∀ a, Answers (next a)) : Answers (checked found next) := by
  cases found with
  | ok a => exact h a
  | error issues => exact .given (Response.isUnnamed_rejected issues)

theorem answers_valueResponse (v : Except Fault Json) : Answers (valueResponse v) := by
  cases v with
  | ok v => exact .given (Response.isUnnamed_json ..)
  | error f => exact .throw trivial

/-- The response to a body that is not read as JSON. -/
theorem isUnnamed_readJson {r : Request} {a : Response} (h : readJson r = .error a) :
    a.IsUnnamed := by
  unfold readJson at h
  split at h <;> cases h
  · exact Response.isUnnamed_rejected ..
  · exact Response.isUnnamed_detail ..

/-- The response to a body that is no form. -/
theorem isUnnamed_readForm {r : Request} {a : Response} (h : readForm r = .error a) :
    a.IsUnnamed := by
  unfold readForm at h
  rcases hform : r.form with defect | form <;> rw [hform] at h <;> cases h
  exact Response.isUnnamed_detail ..

theorem answers_health (hs : s.IsOrderly) : Answers s.health := by
  unfold health
  dsimp only
  split
  · exact .given (Response.isUnnamed_json ..)
  · rename_i i hi
    have horderly := hs.installation i hi
    exact .bind horderly.contents.healthy fun _ => .bind horderly.index.healthy fun _ =>
      .given (Response.isUnnamed_json ..)

theorem answers_storeFile (hs : s.IsOrderly) (r : Request) : Answers (s.storeFile r) := by
  unfold storeFile
  split
  · exact .given (isUnnamed_readForm ‹_›)
  refine answers_access hs fun a ha => answers_checked fun content =>
    .bind (ha.use fun d hd => hd.storeFile _) fun hash => ?_
  split
  · exact .given (Response.isUnnamed_json ..)
  · exact .throw trivial

theorem answers_indexFile (hs : s.IsOrderly) (r : Request) : Answers (s.indexFile r) := by
  unfold indexFile
  split
  · exact .given (isUnnamed_readJson ‹_›)
  · exact answers_access hs fun a ha => answers_checked fun request =>
      .bind (ha.use fun d hd => hd.indexFile _) fun receipt => .given (Response.isUnnamed_json ..)

theorem answers_storeAndIndexFile (hs : s.IsOrderly) (r : Request) :
    Answers (s.storeAndIndexFile r) := by
  unfold storeAndIndexFile
  split
  · exact .given (isUnnamed_readForm ‹_›)
  refine answers_access hs fun a ha => answers_checked fun (content, text) => ?_
  dsimp only
  split
  · exact .throw (StoreError.isPlain rfl)
  · exact .bind (ha.use fun d hd => hd.storeAndIndexFile _ _) fun receipt =>
      .given (Response.isUnnamed_json ..)

/-- The error of parameters that admit no page. -/
theorem isPlain_of_pageable {p : SearchParameters} {default maximum : Int} {e : StoreError}
    (h : p.pageable default maximum = .error e) : e.IsPlain := by
  unfold SearchParameters.pageable at h
  dsimp only at h
  split at h
  · cases h
    exact StoreError.isPlain rfl
  · exact Pageable.isPlain_of_make h

theorem answers_searchFiles (hs : s.IsOrderly) (r : Request) (missing : List Issue)
    (index : String) : Answers (s.searchFiles r missing index) := by
  unfold searchFiles
  split
  · exact .given (isUnnamed_readJson ‹_›)
  · exact answers_access hs fun a ha => answers_checked fun (parameters, query) =>
      .bind (.ofExcept fun _ => isPlain_of_pageable) fun pageable =>
        .bind (ha.use fun d hd => hd.searchFiles ..) fun page => answers_valueResponse _

/-- Whatever is asked for, an orderly installation makes the service answer in order. -/
theorem answers_perform (hs : s.IsOrderly) (r : Request) (missing : List Issue) (t : Target) :
    Answers (s.perform r missing t) := by
  cases t with
  | health => exact answers_health hs
  | storeFile => exact answers_storeFile hs r
  | indexFile => exact answers_indexFile hs r
  | storeAndIndexFile => exact answers_storeAndIndexFile hs r
  | fetchFile hash =>
    exact answers_access hs fun a ha => answers_checked fun _ =>
      .bind (ha.use fun d hd => hd.fileByHash _) fun _ => .given (Response.isUnnamed_octets _)
  | metadataByHash index hash =>
    exact answers_access hs fun a ha => answers_checked fun _ =>
      .bind (ha.use fun d hd => hd.metadataByHash _ _) fun _ => answers_valueResponse _
  | metadataById index id =>
    exact answers_access hs fun a ha => answers_checked fun _ =>
      .bind (ha.use fun d hd => hd.metadataById _ _) fun _ => answers_valueResponse _
  | searchFiles index => exact answers_searchFiles hs r missing index
  | createIndex index =>
    exact answers_access hs fun a ha => answers_checked fun _ =>
      .bind (ha.use fun d hd => hd.createIndex _) fun _ => .given (Response.isUnnamed_json ..)

/-! ## Answers -/

/-- A plain error is answered, whatever its kind. -/
theorem orderly_answerError {e : StoreError} (he : e.IsPlain) :
    (answerError e).IsOrderly fun answer => ∃ a, answer = some a ∧ a.IsUnnamed := by
  have hown : (Entries.keys e.context).any ownKeys.contains = false := by
    rw [List.any_eq_false]
    intro key hkey
    obtain ⟨p, hp, rfl⟩ := List.mem_map.1 hkey
    simpa using (List.not_mem_of_not_mem_cons (he p hp) : p.1 ∉ ownKeys)
  have hevent : Event.IsPlain ⟨.error, "request_failed", e.context⟩ := fun p hp =>
    List.ne_of_not_mem_cons (he p hp)
  unfold answerError
  simp only [hown, Bool.false_eq_true, if_false]
  split
  · exact .bind (.emit ..) fun _ _ => .done ⟨_, rfl, Response.isUnnamed_json ..⟩
  · exact .bind (.emitWith hevent) fun _ _ => .done ⟨_, rfl, Response.isUnnamed_json ..⟩

theorem orderly_respondBy (hs : s.IsOrderly) (routes : Routes) (r : Request) :
    (s.respondBy routes r).IsOrderly fun answer => ∀ a, answer = some a → a.IsUnnamed := by
  unfold respondBy
  split
  · rcases hreport : Metrics.report r with f | a
    · exact .done fun _ h => by cases h
    · exact .done fun _ h => by cases h; exact Response.isUnnamed_report hreport
  · exact .done fun _ h => by cases h; exact Response.isUnnamed_detail ..
  · exact .done fun _ h => by
      cases h
      exact (Response.isUnnamed_detail ..).withHeader (by decide) _
  · exact .done fun _ h => by cases h; exact ⟨by simp [requestIdHeader]⟩
  · refine (answers_perform hs r _ _).run.bind fun result hresult => ?_
    rcases result with (e | issues | f) | a
    · refine (orderly_answerError hresult).mono fun answer hanswer b hb => ?_
      obtain ⟨a, rfl, hfree⟩ := hanswer
      cases hb
      exact hfree
    · exact .done fun _ h => by cases h
    · exact .done fun _ h => by cases h
    · exact .done fun _ h => by cases h; exact hresult

/-- The response that is given has no header with the identifier of a request. -/
theorem orderly_respondShared (hs : s.IsOrderly) (r : Request) :
    (s.respondShared r).IsOrderly fun answer => ∀ a, answer = some a → a.IsUnnamed := by
  unfold respondShared
  split
  · rename_i response hresponse
    exact .done fun _ h => by cases h; exact Origin.isUnnamed_preflight? hresponse
  · refine IsOrderly.bind (m := fun answer => ∀ a, answer = some a → a.IsUnnamed) ?_
      fun answer hanswer => .done fun a ha => ?_
    · unfold respond
      split
      · exact orderly_respondBy hs _ r
      · exact .done fun _ h => by cases h
    · obtain ⟨b, hb, rfl⟩ := Option.map_eq_some_iff.1 ha
      exact Origin.isUnnamed_shared _ r (hanswer b hb)

/-- The service fails over a request: the host that the request names cannot be read, or no report
of metrics is acceptable to it, or the operation that it asks for breaks off without an error of
the depot. -/
inductive FailsOver (s : Service) (routes : Routes) (r : Request) (c : Context) (w : World) : Prop
  | host (hostless : r.namesHost = false)
  | report {f : Fault} (simple : Origin.preflight? s.settings.corsOrigins r = none)
    (leads : routes.resolve r.method r.path r.query = .metrics)
    (outcome : Metrics.report r = .error f)
  | operation {aim : Aim} {f : Failure}
    (simple : Origin.preflight? s.settings.corsOrigins r = none)
    (leads : routes.resolve r.method r.path r.query = .found aim)
    (outcome : (Exchange.carry World.answer (s.perform r aim.issues aim.target) c w).1 = .error f)
    (unmapped : ∀ e, f ≠ .error e)

/-- What comes of an operation: no response just if it broke off without an error of the depot. -/
theorem run_respondBy_found {routes : Routes} {r : Request} {aim : Aim} {c : Context} {w : World}
    (hs : s.IsOrderly) (hleads : routes.resolve r.method r.path r.query = .found aim) :
    (run World.answer (s.respondBy routes r) c w).1 = none ↔
      ∃ f, (carry World.answer (s.perform r aim.issues aim.target) c w).1 = .error f ∧
        ∀ e, f ≠ .error e := by
  have hplain := ((answers_perform hs r aim.issues aim.target).run.modest.carried World.answer c w).1
  rw [run_respondBy hleads]
  unfold carry
  generalize run World.answer (s.perform r aim.issues aim.target).run c w = outcome at hplain ⊢
  obtain ⟨(e | issues | f) | a, c', w'⟩ := outcome
  · obtain ⟨a, ha, -⟩ := ((orderly_answerError hplain).modest.carried World.answer c' w').1
    simp [ha]
  all_goals simp

/-- The routes give no response just where the service fails over the request. -/
theorem run_respondBy_eq_none_iff {routes : Routes} {r : Request} {c : Context} {w : World}
    (hs : s.IsOrderly) (hhost : r.namesHost = true)
    (hsimple : Origin.preflight? s.settings.corsOrigins r = none) :
    (run World.answer (s.respondBy routes r) c w).1 = none ↔ s.FailsOver routes r c w := by
  constructor
  · intro hnone
    rcases hleads : routes.resolve r.method r.path r.query with aim | allowed | _ | path | _
    case found =>
      obtain ⟨f, houtcome, hunmapped⟩ := (run_respondBy_found hs hleads).1 hnone
      exact .operation hsimple hleads houtcome hunmapped
    all_goals
      unfold respondBy at hnone
      rw [hleads] at hnone
    case metrics =>
      rcases hreport : Metrics.report r with f | a
      · exact .report hsimple hleads hreport
      · rw [hreport] at hnone
        cases hnone
    all_goals cases hnone
  · intro hfails
    cases hfails with
    | host hno => simp [hhost] at hno
    | report _ hleads houtcome =>
      unfold respondBy
      rw [hleads]
      dsimp only
      rw [houtcome]
      rfl
    | operation _ hleads houtcome hunmapped =>
      exact (run_respondBy_found hs hleads).2 ⟨_, houtcome, hunmapped⟩

/-- To a request whose host can be read there is no response just where the service fails over
it. -/
theorem run_respondShared_eq_none_iff {routes : Routes} {r : Request} {c : Context} {w : World}
    (hs : s.IsOrderly) (hroutes : Routes.ofSettings s.settings = .ok routes)
    (hhost : r.namesHost = true) :
    (run World.answer (s.respondShared r) c w).1 = none ↔ s.FailsOver routes r c w := by
  unfold respondShared respond
  rw [hroutes]
  rcases hpreflight : Origin.preflight? s.settings.corsOrigins r with _ | response
  · rw [← run_respondBy_eq_none_iff hs hhost hpreflight]
    simp only [run_bind, run_pure, Option.map_eq_none_iff]
  · constructor
    · intro h
      cases h
    · intro hfails
      cases hfails with
      | host hno => simp [hhost] at hno
      | report hsimple => simp [hpreflight] at hsimple
      | operation hsimple => simp [hpreflight] at hsimple

/-- Starting is modest, whether the connections are opened or not. -/
theorem modest_start (s : Service) : Modest (fun _ => True) s.start.run := by
  refine .bind (.emit ..) fun _ _ => (Modest.connectAll s.settings).bind fun result _ => ?_
  cases result <;> exact .bind (.emit ..) fun _ _ => trivial

end Service

end ContentDepot.Api
