import ContentDepot.Proofs.Exchange.Addressing
import ContentDepot.Proofs.Exchange.Carry
import ContentDepot.Proofs.InMemory.Engine
import ContentDepot.Session.World

/-!
# Talks with the engine in memory

Where no replies are prepared, requests to the engine meet the one in memory
(`World.Live`). The settings are taken to name hosts, not places below them
(`Settings.HostsAreRoots`).

* `call_ok`: what a request that got a response has changed.
* `call_of_target`: a request whose address is admitted gets its answer.
-/

namespace ContentDepot

open InMemory

/-- Both backends in memory answer. -/
structure World.Live (w : World) : Prop where
  inMemory : w.inMemory = true
  engineReplies : w.engineReplies = []
  contentReplies : w.contentReplies = []

/-- The URL of a backend is the root of its host. -/
def Settings.HostIsRoot (s : Settings) (b : Backend) : Prop :=
  ∃ e, s.endpoint? b = some e ∧ e.address.base.IsRoot

/-- The URL of each backend is the root of its host. -/
def Settings.HostsAreRoots (s : Settings) : Prop :=
  ∀ b, ∃ e, s.endpoint? b = some e ∧ e.address.base.IsRoot

/-- An endpoint at the root of the host of the engine. -/
structure Endpoint.IsEngine (e : Endpoint) : Prop where
  backend : e.backend = .engine
  root : e.address.base.IsRoot

/-- Whether every number in a payload has a written form. -/
def Payload.isSendable : Payload → Bool
  | .json v => v.sendable
  | _ => true

/-- What a reply means to an attempt. -/
def Reply.result : Reply → Except Trouble Response
  | .response resp => .ok resp
  | .disrupted message => .error (.cause (.transport message))
  | .fault f => .error (.cause (.fault f))

/-- A failure with an error of the backend. -/
def Failure.IsBackend (f : Failure) : Prop := ∃ e, f = .error e ∧ e.kind = .backend

/-- What a request is made of. -/
structure Request.Made (url : Url) (verb : Verb) (payload : Payload) (r : Request) : Prop where
  verb : r.verb = verb
  payload : r.payload = payload
  path : r.path = if url.path.isEmpty then "/" else String.ofList url.path

/-- The segments of a request are those of its URL; the root has none. -/
theorem Request.Made.segments {url : Url} {verb : Verb} {payload : Payload} {r : Request}
    (h : r.Made url verb payload) :
    Engine.segments r.path = Engine.segments (String.ofList url.path) := by
  have hroot : Engine.segments "/" = Engine.segments (String.ofList []) := by decide
  rw [h.path]
  split
  · rename_i he
    rw [hroot, List.isEmpty_iff.1 he]
  · rfl

theorem Settings.backend_of_endpoint? {s : Settings} {b : Backend} {e : Endpoint}
    (h : s.endpoint? b = some e) : e.backend = b := by
  simp only [Settings.endpoint?, Option.map_eq_some_iff] at h
  obtain ⟨a, -, rfl⟩ := h
  rfl

theorem Settings.HostsAreRoots.isEngine {s : Settings} {e : Endpoint} (hs : s.HostsAreRoots)
    (h : s.endpoint? .engine = some e) : e.IsEngine := by
  obtain ⟨e', he', hr⟩ := hs .engine
  obtain rfl : e = e' := Option.some.inj (h.symm.trans he')
  exact ⟨backend_of_endpoint? h, hr⟩

/-- The settings that arise where nothing is given. -/
def Settings.standard : Settings where
  appName := "Filestore"
  environment := "development"
  debug := true
  logLevel := "info"
  version := "0.1.0"
  apiHost := "0.0.0.0"
  apiPort := 8040
  apiRoot := "/filestore"
  corsOrigins := "http://localhost:3000"
  contentHost := "http://localhost:5001"
  contentTimeout := .ofInt 30
  engineHost := "http://localhost:9200"
  engineUser := ""
  enginePassword := ""
  engineTimeout := .ofInt 10
  fillAbsent := true
  defaultPageSize := 20
  maxPageSize := 1000
  metricsEnabled := true

example : Settings.check [] = .ok .standard := by decide +kernel

theorem Settings.hostsAreRoots_standard : Settings.standard.HostsAreRoots := by
  have hroot : ∀ b, ((standard.endpoint? b).map fun e =>
      (e.address.base.scheme, e.address.base.resource)) = some ("http".toList, ['/']) := by
    intro b
    cases b <;> decide
  intro b
  obtain ⟨e, he, hr⟩ := Option.map_eq_some_iff.1 (hroot b)
  rw [Prod.mk.injEq] at hr
  exact ⟨e, he, hr.1 ▸ by decide, hr.2⟩

namespace World

variable {w w' : World} {r : Request}

/-- A request to the engine changes the engine alone. -/
theorem answer_engine (hw : w.Live) (hr : r.backend = .engine) :
    w.answer r = ((w.engine.answer r).1,
      { w with engine := (w.engine.answer r).2, sent := w.sent ++ [r] }) := by
  simp only [answer, prepared?, backendAnswer, hr, hw.engineReplies, hw.inMemory, if_true]

/-- A request to the content store changes the content store alone. -/
theorem answer_content (hw : w.Live) (hr : r.backend = .content) :
    w.answer r = ((w.contents.answer r).1,
      { w with contents := (w.contents.answer r).2, sent := w.sent ++ [r] }) := by
  simp only [answer, prepared?, backendAnswer, hr, hw.contentReplies, hw.inMemory, if_true]

theorem live_answer (hw : w.Live) (r : Request) : (w.answer r).2.Live := by
  obtain ⟨hm, he, hc⟩ := hw
  simp only [answer, prepared?, backendAnswer, he, hc, hm, if_true]
  rcases r.backend with _ | _ <;> exact ⟨rfl, rfl, rfl⟩

/-- What backends keep at every request they keep in a talk. -/
theorem keeps_run {α : Type} {P : World → Prop}
    (hP : ∀ {w : World}, P w → ∀ r : Request, P (w.answer r).2) (x : Exchange α) (c : Context)
    (hw : P w) : P (x.run World.answer c w).2.2 := by
  induction x generalizing c w with
  | done a => exact hw
  | send r next ih => exact ih _ c (hP hw r)
  | look next ih => exact ih c c hw
  | change f next ih => exact ih (f c) hw

/-- The backends in memory go on answering, whatever is asked of them. -/
theorem live_run {α : Type} (x : Exchange α) (c : Context) (hw : w.Live) :
    (x.run World.answer c w).2.2.Live := keeps_run live_answer x c hw

theorem live_of_carry {ε α : Type} {x : ExceptT ε Exchange α} {c c' : Context}
    {result : Except ε α} (hw : w.Live)
    (h : Exchange.carry World.answer x c w = (result, c', w')) : w'.Live := by
  have := live_run x.run c hw
  rwa [show (x.run.run World.answer c w).2.2 = w' from congrArg (·.2.2) h] at this

/-- The backends answer on, and no document has changed. -/
structure Keeps (w w' : World) : Prop where
  live : w'.Live
  engine : w.engine.Unwritten w'.engine

theorem Keeps.refl (hw : w.Live) : w.Keeps w := ⟨hw, .refl _⟩

theorem Keeps.trans {w'' : World} (h : w.Keeps w') (h' : w'.Keeps w'') : w.Keeps w'' :=
  ⟨h'.live, h.engine.trans h'.engine⟩

end World

namespace Endpoint

variable {e : Endpoint} {w w' : World} {c c' : Context} {verb : Verb} {path : String}
  {query : List (String × String)} {payload : Payload} {resp : Response} {url : Url} {r : Request}

theorem request_eq (e : Endpoint) (url : Url) (verb : Verb) (query : List (String × String))
    (payload : Payload) :
    e.request url verb query payload =
      if Url.maxLength < Address.queryLength query then .error .invalidAddress
      else if payload.isSendable then
        .ok ⟨e.backend, verb, if url.path.isEmpty then "/" else String.ofList url.path,
          if query.isEmpty then grouped (parseQuery (url.query.getD [])) else query,
          e.credentials, payload⟩
      else .error .badValue := by
  unfold request
  by_cases hq : Url.maxLength < Address.queryLength query
  · rw [if_pos hq, if_pos hq]
    rfl
  · rw [if_neg hq, if_neg hq]
    cases payload with
    | empty => rfl
    | file content => rfl
    | json v => cases h : v.sendable <;> simp only [Payload.isSendable, h] <;> rfl

theorem made_of_request (h : e.request url verb query payload = .ok r) :
    r.backend = e.backend ∧ payload.isSendable = true ∧ Request.Made url verb payload r := by
  rw [request_eq] at h
  split at h
  · cases h
  · split at h
    · rename_i hp
      cases h
      exact ⟨rfl, hp, rfl, rfl, rfl⟩
    · cases h

/-- A request with parameters of its own has these. -/
theorem query_of_request (hq : query ≠ []) (h : e.request url verb query payload = .ok r) :
    r.query = query := by
  rw [request_eq] at h
  split at h
  · cases h
  · split at h
    · cases h
      exact if_neg fun hempty => hq (List.isEmpty_iff.1 hempty)
    · cases h

theorem namesScheme_of_target {a : Address} (ha : a.base.IsRoot) {cs : List Char}
    (h : a.target (String.ofList ('/' :: cs)) = .ok url) : url.namesScheme = true := by
  obtain ⟨-, -, hs, -⟩ := Address.path_of_target ha h
  have : url.scheme.isEmpty = false := by rw [hs]; simpa using ha.scheme
  simp only [Url.namesScheme, this, Bool.not_false, Bool.true_or]

/-- A request that got a response was made, and the engine has answered it. -/
theorem call_ok (he : e.IsEngine) (hw : w.Live)
    (h : Exchange.carry World.answer (e.call verb path query payload) c w = (.ok resp, c', w')) :
    ∃ url r, e.address.target path = .ok url ∧ payload.isSendable = true ∧
      Request.Made url verb payload r ∧ (w.engine.answer r).1 = .response resp ∧
      w'.engine = (w.engine.answer r).2 ∧ w'.Live ∧ c' = c := by
  obtain ⟨url, r, ht, hr, -, ha, rfl⟩ := Exchange.carry_call_ok.1 h
  obtain ⟨hb, hs, hm⟩ := made_of_request hr
  rw [World.answer_engine hw (hb.trans he.backend), Prod.mk.injEq] at ha
  obtain ⟨ha, rfl⟩ := ha
  exact ⟨url, r, ht, hs, hm, ha, rfl, ⟨hw.inMemory, hw.engineReplies, hw.contentReplies⟩, rfl⟩

/-- A request that the address admits gets the answer of the engine. -/
theorem call_of_target (he : e.IsEngine) (hw : w.Live) {name : String}
    {segments : List (List Char)}
    (ht : e.address.target (Address.reference name segments) = .ok url)
    (verb : Verb) (hq : Address.queryLength query ≤ Url.maxLength) (hp : payload.isSendable = true)
    (c : Context) :
    ∃ r w', Request.Made url verb payload r ∧ w'.engine = (w.engine.answer r).2 ∧ w'.Live ∧
      Exchange.carry World.answer (e.call verb (Address.reference name segments) query payload) c w =
        ((w.engine.answer r).1.result, c, w') := by
  obtain ⟨r, hr⟩ : ∃ r, e.request url verb query payload = .ok r := by
    rw [request_eq, if_neg (by omega), if_pos hp]
    exact ⟨_, rfl⟩
  obtain ⟨hb, -, hm⟩ := made_of_request hr
  refine ⟨r, { w with engine := (w.engine.answer r).2, sent := w.sent ++ [r] }, hm, rfl,
    ⟨hw.inMemory, hw.engineReplies, hw.contentReplies⟩, ?_⟩
  rw [Exchange.carry_call_of_made ht hr, World.answer_engine hw (hb.trans he.backend)]
  rcases (w.engine.answer r).1 with resp | message | f
  · simp only [received, namesScheme_of_target he.root ht, if_true]
    rfl
  · rfl
  · rfl

end Endpoint

end ContentDepot
