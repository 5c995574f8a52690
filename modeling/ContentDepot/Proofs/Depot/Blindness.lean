import ContentDepot.Proofs.Depot.Contents
import ContentDepot.Proofs.Session.Blind
import ContentDepot.Proofs.Session.Steps

/-!
# What calls do not see

Which contents there are is seen only by a call that asks for one of them. Every
other call is blind to contents under a hash that it does not name, and so is a
history of calls with backends that begin to fail and work again between them
(`alike_runSteps`). So what the next call gives does not depend on them either
(`outcome_of_alike`).
-/

namespace ContentDepot

open Exchange InMemory

variable {s : Settings} {e : Endpoint} {extra : String → Prop}

namespace MetadataIndex

variable {name : String} {id : Json}

theorem blind_createIfMissing (he : e.IsEngine) (trust : Bool) :
    Blind extra (createIfMissing e name trust) := by
  unfold createIfMissing
  refine .context_bind (fun c c' h => by rw [h]) fun c => ?_
  split
  · exact .pure _
  refine .bind (.call_engine he) fun r => ?_
  split
  · exact .markMapped name
  refine .bind (.call_engine he) fun r => .bind (.ofRead _) fun known => ?_
  cases known with
  | true => exact .markMapped name
  | false => exact .bind (.check r) fun _ => .bind (.emit ..) fun _ => .markMapped name

theorem blind_documentExists (he : e.IsEngine) : Blind extra (documentExists e name id) := by
  unfold documentExists
  split
  · exact .pure _
  refine .bind (.call_engine he) fun r => ?_
  split
  · exact .pure _
  · exact .bind (.check r) fun _ => .bind (.ofRead _) fun _ => .bind (.ofRead _) fun _ => .pure _

theorem blind_writeDocument (he : e.IsEngine) (isThere : Bool) (source : Entries Json) :
    Blind extra (writeDocument e name id isThere source) := by
  unfold writeDocument
  split
  · exact .call_engine he
  · split <;> exact .call_engine he

theorem blind_writing (he : e.IsEngine) (source : Entries Json) (writable : Bool) :
    Blind extra (writing e name id source writable) := by
  unfold writing
  refine .bind (blind_createIfMissing he true) fun _ => .bind (blind_documentExists he)
    fun isThere => ?_
  split
  · exact .throw_bind ..
  · exact .bind (blind_writeDocument he ..) fun r => .bind (.check r) fun _ =>
      .bind (.ofRead _) fun _ => .bind (.ofRead _) fun _ => .bind (.call_engine he) fun r =>
        .bind (.check r) fun _ => .pure _

theorem blind_lookingUp (he : e.IsEngine) : Blind extra (lookingUp e name id) := by
  unfold lookingUp
  refine .bind (.call_engine he) fun r => ?_
  dsimp only
  split
  · exact .throw_bind ..
  · refine .bind (.check r) fun _ => .bind (.ofRead _) fun _ => .bind (.ofRead _) fun _ => ?_
    split
    · exact .throw_bind ..
    · exact .ofRead _

/-- What a request to search asks for, and what is read off the answer. -/
theorem blind_asking {α : Type} {events : List Event} {body : Json}
    {read : Json → Except Cause α} (he : e.IsEngine) :
    Blind extra (do
      Exchange.emitAll events
      let r ← e.call .post ("/" ++ name ++ "/_search") searchQuery (.json body)
      Search.check r
      let answer ← Attempt.ofRead r.json
      Attempt.ofRead (read answer) : Attempt α) :=
  .bind (.emitAll events) fun _ => .bind (.call_engine he) fun r => .bind (.check r) fun _ =>
    .bind (.ofRead _) fun _ => .ofRead _

end MetadataIndex

namespace Depot

open MetadataIndex

variable {index id hash : Json}

theorem blind_search (hs : s.HostsAreRoots) (query : Option Query) (pageable : Option Pageable) :
    Blind extra ((Depot.remote s).index.search pageable index query) := by
  obtain ⟨e, he, -⟩ := hs .engine
  show Blind extra (remoteSearch s pageable index query)
  cases pageable with
  | none => exact .throw _
  | some p => exact .named he fun t => .guarded (blind_asking (hs.isEngine he)) fun t => .fail ..

theorem blind_count (hs : s.HostsAreRoots) (query : Option Query) :
    Blind extra ((Depot.remote s).index.count index query) := by
  obtain ⟨e, he, -⟩ := hs .engine
  exact .named he fun t => .guarded (blind_asking (hs.isEngine he)) fun t => .fail ..

theorem blind_searchFiles (hs : s.HostsAreRoots) (query : Option Query)
    (pageable : Option Pageable) :
    Blind extra ((Depot.remote s).searchFiles index query pageable) := by
  refine .require_bind fun _ => ?_
  cases pageable with
  | none => exact .throw _
  | some p => exact .bind (blind_search hs ..) fun _ => .bind (blind_count hs _) fun _ => .pure _

theorem blind_metadataByHash (hs : s.HostsAreRoots) :
    Blind extra ((Depot.remote s).metadataByHash index hash) := by
  refine .require_bind fun _ => .require_bind fun _ => .bind (blind_search hs ..) fun ms => ?_
  cases ms with
  | nil => exact .bind (.emit ..) fun _ => .throw _
  | cons m ms => exact .pure m

theorem blind_metadataById (hs : s.HostsAreRoots) :
    Blind extra ((Depot.remote s).metadataById index id) := by
  obtain ⟨e, he, -⟩ := hs .engine
  refine .require_bind fun _ => .require_bind fun _ => .require_bind fun _ => .require_bind
    fun _ => .bind (.lowered index) fun t => .connected_bind he
      (.guarded (blind_lookingUp (hs.isEngine he)) fun t => ?_)
  cases t with
  | absent => exact .bind (.emit ..) fun _ => .throw _
  | _ => exact .fail ..

theorem blind_createIndex (hs : s.HostsAreRoots) :
    Blind extra ((Depot.remote s).createIndex index) := by
  obtain ⟨e, he, -⟩ := hs .engine
  exact .require_bind fun _ => .named he fun t =>
    .guarded (blind_createIfMissing (hs.isEngine he) false) fun t => .fail ..

theorem blind_indexUnder (hs : s.HostsAreRoots) (r : IndexRequest) :
    Blind extra ((Depot.remote s).indexUnder r hash) := by
  obtain ⟨e, he, -⟩ := hs .engine
  refine .require_bind fun _ => .require_bind fun _ => .bind (.shielded ?_) fun _ => .ofChecked _
  exact .require_bind fun _ => .require_bind fun _ => .bind (.lowered _) fun t =>
    .connected_bind he (.guarded (blind_writing (hs.isEngine he) ..) fun t => .fail ..)

theorem blind_storeFile (hs : s.HostsAreRoots) (hextra : ¬ extra "") (content : Option Bytes) :
    Blind extra ((Depot.remote s).storeFile content) := by
  obtain ⟨e, he, -⟩ := hs .content
  refine .shielded ?_
  show Blind extra (ContentStore.remoteStore s content)
  cases content with
  | none => exact .throw _
  | some bytes =>
    refine .connected_bind he (.guarded ?_ fun t => .failWith ..)
    unfold ContentStore.storing
    refine .bind (.call_content (Settings.backend_of_endpoint? he) fun url r hr => ?_) fun r => ?_
    · rw [Blobs.parameter, Endpoint.query_of_request (by simp) hr]
      exact hextra
    · split
      · exact .throw _
      · exact .bind (.ofRead _) fun _ => .ofRead _

end Depot

/-- The hash of the content that a call asks for. -/
def DepotCall.asked? : DepotCall → Option String
  | fileByHash hash => Entries.get? (ContentStore.parameters "arg" hash) "arg"
  | _ => none

namespace Depot

variable {hash : Json}

/-- What is no blank is asked for with one parameter at least. -/
theorem get?_parameters (h : hash.isBlank = false) :
    (Entries.get? (ContentStore.parameters "arg" hash) "arg").isSome = true := by
  cases hash with
  | arr items =>
    cases items with
    | nil => cases h
    | cons v vs => rfl
  | _ => rfl

theorem blind_fileByHash (hs : s.HostsAreRoots)
    (hextra : ∀ k, (DepotCall.fileByHash hash).asked? = some k → ¬ extra k) :
    Blind extra ((Depot.remote s).fileByHash hash) := by
  obtain ⟨e, he, -⟩ := hs .content
  refine .require_bind fun hb => .shielded ?_
  show Blind extra (ContentStore.remoteFetch s hash)
  refine .require_bind fun _ => .connected_bind he (.bind (.guarded
    (.call_content (Settings.backend_of_endpoint? he) fun url r hr => ?_) fun t => .failWith ..)
      fun r => ?_)
  · obtain ⟨k, hk⟩ := Option.isSome_iff_exists.1 (get?_parameters hb)
    rw [Blobs.parameter, Endpoint.query_of_request _ hr, hk]
    · exact hextra k hk
    · intro hnil
      rw [hnil] at hk
      cases hk
  · have hrest : ∀ absent : Bool, Blind extra (if absent = true then do
          Exchange.emit .warning "content_not_found"
          Action.refuse (.noContent hash)
        else if r.status ≠ 200 then do
          Exchange.emit .error "fetch_content_failed"
          Action.refuse (.contentStatus r.status hash)
        else Pure.pure r.body.toBytes : Action Bytes) := by
      intro absent
      split
      · exact .bind (.emit ..) fun _ => .throw _
      · split
        · exact .bind (.emit ..) fun _ => .throw _
        · exact .pure _
    dsimp only
    split
    · exact .bind (.pure _) hrest
    · split
      · split
        · exact .bind (.pure _) hrest
        · exact .throw_bind ..
      · exact .bind (.pure _) hrest

end Depot

/-! ## Calls and histories -/

namespace Session

variable {σ σ' : Session}

theorem blind_talk {α : Type} {give : α → Outcome} {action : Action α} (h : Blind extra action)
    (hw : σ.world.Live) (hw' : σ'.world.Live) (halike : Alike extra σ.standing σ'.standing) :
    (σ'.talk (Outcome.ofAction give action)).1 = (σ.talk (Outcome.ofAction give action)).1 ∧
      Alike extra (σ.talk (Outcome.ofAction give action)).2.standing
        (σ'.talk (Outcome.ofAction give action)).2.standing := by
  obtain ⟨hresult, hleft⟩ := h.carried σ.context σ.world σ'.context σ'.world hw hw' halike
  rw [talk_ofAction, talk_ofAction, hresult]
  exact ⟨rfl, hleft⟩

/-- A call that asks for none of the contents gives the same. -/
theorem call_of_alike (hs : s.HostsAreRoots) (hextra : ¬ extra "") (h : σ.IsOver s)
    (h' : σ'.IsOver s) (halike : Alike extra σ.standing σ'.standing) {c : DepotCall}
    (hc : ∀ k, c.asked? = some k → ¬ extra k) :
    (σ'.call (.depot c)).1 = (σ.call (.depot c)).1 ∧
      Alike extra (σ.call (.depot c)).2.standing (σ'.call (.depot c)).2.standing := by
  rw [h.call_eq, h'.call_eq]
  cases c with
  | storeFile content =>
    exact blind_talk (Depot.blind_storeFile hs hextra content) h.live h'.live halike
  | indexFile request =>
    refine blind_talk ?_ h.live h'.live halike
    cases request with
    | none => exact .throw _
    | some r => exact Depot.blind_indexUnder hs r
  | storeAndIndexFile content request =>
    refine blind_talk ?_ h.live h'.live halike
    cases request with
    | none => exact .throw _
    | some r =>
      exact .require_bind fun _ => .bind (Depot.blind_storeFile hs hextra content) fun _ =>
        .reportingOrphan (Depot.blind_indexUnder hs r)
  | fileByHash hash => exact blind_talk (Depot.blind_fileByHash hs hc) h.live h'.live halike
  | metadataById index id => exact blind_talk (Depot.blind_metadataById hs) h.live h'.live halike
  | metadataByHash index hash =>
    exact blind_talk (Depot.blind_metadataByHash hs) h.live h'.live halike
  | searchFiles index query pageable =>
    exact blind_talk (Depot.blind_searchFiles hs query pageable) h.live h'.live halike
  | createIndex index => exact blind_talk (Depot.blind_createIndex hs) h.live h'.live halike

/-- A call that asks for a content leaves everything as it is. -/
theorem standing_fileByHash (hs : s.HostsAreRoots) (h : σ.IsOver s) (hash : Json) :
    (σ.call (.depot (.fileByHash hash))).2.standing = σ.standing := by
  rw [h.call_eq]
  rcases (WP.fileByHash (hs .content) hash).talk (g := .content) h.live with
    ⟨a, -, hleft⟩ | ⟨f, -, hleft⟩ <;> exact hleft

/-- Whatever a call asks for, it leaves what was alike alike. -/
theorem alike_step (hs : s.HostsAreRoots) (hextra : ¬ extra "") (h : σ.IsOver s)
    (h' : σ'.IsOver s) (halike : Alike extra σ.standing σ'.standing) (step : Step) :
    Alike extra (σ.step step).2.standing (σ'.step step).2.standing := by
  cases step with
  | call c =>
    rcases hc : c.asked? with _ | k
    · exact (call_of_alike hs hextra h h' halike fun k hk => by rw [hc] at hk; cases hk).2
    -- A call that asks for a content may give another outcome, but it changes nothing.
    · cases c with
      | fileByHash hash =>
        show Alike extra (σ.call _).2.standing (σ'.call _).2.standing
        rwa [standing_fileByHash hs h, standing_fileByHash hs h']
      | _ => cases hc
  | switch b status =>
    rw [standing_switch, standing_switch]
    obtain ⟨hmapped, hengine, hfailing, hblobs⟩ := halike
    cases b with
    | content => exact ⟨hmapped, hengine, rfl, hblobs⟩
    | engine =>
      refine ⟨hmapped, ?_, hfailing, hblobs⟩
      simp only [Standing.switch, hengine]

theorem alike_runSteps (hs : s.HostsAreRoots) (hextra : ¬ extra "") (h : σ.IsOver s)
    (h' : σ'.IsOver s) (halike : Alike extra σ.standing σ'.standing) (steps : List Step) :
    Alike extra (σ.runSteps steps).2.standing (σ'.runSteps steps).2.standing := by
  induction steps generalizing σ σ' with
  | nil => exact halike
  | cons step steps ih =>
    exact ih (h.step step) (h'.step step) (alike_step hs hextra h h' halike step)

/-- After the same history a call that asks for none of the contents gives the same. -/
theorem outcome_of_alike (hs : s.HostsAreRoots) (hextra : ¬ extra "") (h : σ.IsOver s)
    (h' : σ'.IsOver s) (halike : Alike extra σ.standing σ'.standing) (steps : List Step)
    {c : DepotCall} (hc : ∀ k, c.asked? = some k → ¬ extra k) :
    ((σ'.runSteps steps).2.call (.depot c)).1 = ((σ.runSteps steps).2.call (.depot c)).1 :=
  (call_of_alike hs hextra (h.runSteps steps) (h'.runSteps steps)
    (alike_runSteps hs hextra h h' halike steps) hc).1

end Session

end ContentDepot
