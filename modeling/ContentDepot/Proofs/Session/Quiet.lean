import ContentDepot.Depot
import ContentDepot.Proofs.Index.Paths

/-!
# Operations that write nothing

An operation is quiet if no document changes while it is carried out, however it
ends (`Quiet`). Quiet steps make quiet operations; of the requests, those to the
content store are quiet, those that read, and those that lead to an index as a
whole or to a search.
-/

namespace ContentDepot

open Exchange InMemory

/-- Opposite live backends the operation changes no document. -/
def Quiet {ε α : Type} (x : ExceptT ε Exchange α) : Prop :=
  ∀ (c : Context) (w : World), w.Live → w.Keeps (carry World.answer x c w).2.2

namespace Quiet

variable {ε α β : Type}

theorem keeps {x : ExceptT ε Exchange α} {c c' : Context} {w w' : World} {result : Except ε α}
    (hx : Quiet x) (hw : w.Live) (h : carry World.answer x c w = (result, c', w')) :
    w.Keeps w' := by
  have hk := hx c w hw
  rwa [h] at hk

theorem pure (a : α) : Quiet (Pure.pure a : ExceptT ε Exchange α) := fun _ _ hw => .refl hw

theorem throw (e : ε) : Quiet (MonadExcept.throw e : ExceptT ε Exchange α) := fun _ _ hw => .refl hw

/-- What follows a quiet step only has to be quiet for what the step can give. -/
theorem bind_of {x : ExceptT ε Exchange α} {f : α → ExceptT ε Exchange β} (hx : Quiet x)
    (hf : ∀ a c w c' w', carry World.answer x c w = (.ok a, c', w') → Quiet (f a)) :
    Quiet (x >>= f) := by
  intro c w hw
  have hk := hx c w hw
  have hfa := fun a => hf a c w
  rw [carry_bind]
  generalize carry World.answer x c w = result at hk hfa ⊢
  obtain ⟨e | a, c', w'⟩ := result
  · exact hk
  · exact hk.trans (hfa a c' w' rfl c' w' hk.live)

theorem bind {x : ExceptT ε Exchange α} {f : α → ExceptT ε Exchange β} (hx : Quiet x)
    (hf : ∀ a, Quiet (f a)) : Quiet (x >>= f) := .bind_of hx fun a _ _ _ _ _ => hf a

/-- Nothing follows a failure. -/
theorem throw_bind (e : ε) (f : α → ExceptT ε Exchange β) :
    Quiet (MonadExcept.throw e >>= f) := .bind_of (.throw e) fun _ _ _ _ _ h => by cases h

theorem context : Quiet (liftM Exchange.context : ExceptT ε Exchange Context) := by
  intro c w hw
  rw [carry_context]
  exact .refl hw

theorem modify (f : Context → Context) :
    Quiet (liftM (Exchange.modify f) : ExceptT ε Exchange Unit) := by
  intro c w hw
  rw [carry_modify]
  exact .refl hw

theorem emit (level : Level) (name : String) :
    Quiet (liftM (Exchange.emit level name) : ExceptT ε Exchange Unit) := modify _

theorem emitAll (events : List Event) :
    Quiet (liftM (Exchange.emitAll events) : ExceptT ε Exchange Unit) := by
  intro c w hw
  rw [carry_emitAll]
  exact .refl hw

theorem ofRead (read : Except Cause α) : Quiet (Attempt.ofRead read) := by
  cases read with
  | ok a => exact .pure a
  | error cause => exact .throw _

theorem guarded {x : Attempt α} {onTrouble : Trouble → Action α} (hx : Quiet x)
    (ht : ∀ t, Quiet (onTrouble t)) : Quiet (x.guarded onTrouble) := by
  intro c w hw
  have hk := hx c w hw
  rw [carry_guarded]
  generalize carry World.answer x c w = result at hk ⊢
  obtain ⟨t | a, c', w'⟩ := result
  · exact hk.trans (ht t c' w' hk.live)
  · exact hk

theorem require (v : Json) (name : String) : Quiet (Action.require v name) := by
  intro c w hw
  rw [carry_require]
  split <;> exact .refl hw

theorem shielded {activity : Activity} {name : String} {action : Action α} (h : Quiet action) :
    Quiet (Depot.shielded activity name action) := by
  intro c w hw
  have hk := h c w hw
  unfold Depot.shielded
  rw [carry_mk_bind]
  generalize carry World.answer action c w = result at hk ⊢
  obtain ⟨(_ | _ | _) | _, c', w'⟩ := result <;> exact hk

/-! ## Requests -/

variable {e : Endpoint} {verb : Verb} {path : String} {query : List (String × String)}
  {payload : Payload}

/-- A request is quiet if the answer to it is. -/
theorem call (h : ∀ url r (w : World), e.address.target path = .ok url → r.backend = e.backend →
    Request.Made url verb payload r → w.Live → w.Keeps (World.answer r w).2) :
    Quiet (e.call verb path query payload) := by
  intro c w hw
  rcases ht : e.address.target path with f | url
  · rw [carry_call_of_refused ht]
    exact .refl hw
  rcases hr : e.request url verb query payload with f | r
  · have hc : carry World.answer (e.call verb path query payload) c w =
        (.error (.cause (.fault f)), c, w) := by
      unfold Endpoint.call
      simp only [ht, hr, Bind.bind, Except.bind]
      rfl
    rw [hc]
    exact .refl hw
  · have hk := h url r w ht (Endpoint.made_of_request hr).1 (Endpoint.made_of_request hr).2.2 hw
    rw [carry_call_of_made ht hr]
    rcases (World.answer r w).1 with resp | message | f
    · unfold Endpoint.received
      dsimp only
      split <;> exact hk
    · exact hk
    · exact hk

/-- Requests to the content store do not reach the documents. -/
theorem call_content (he : e.backend = .content) : Quiet (e.call verb path query payload) := by
  refine .call fun url r w _ hb _ hw => ?_
  obtain ⟨hm, hc, hq⟩ := hw
  simp only [World.answer, World.prepared?, World.backendAnswer, hb, he, hq, hm, if_true]
  exact ⟨⟨rfl, hc, rfl⟩, .refl _⟩

/-- A request to the engine is quiet if the engine's answer is. -/
theorem call_engine (he : e.IsEngine)
    (h : ∀ url r engine, e.address.target path = .ok url → Request.Made url verb payload r →
      Engine.Unwritten engine (engine.answer r).2) :
    Quiet (e.call verb path query payload) := by
  refine .call fun url r w ht hb hm hw => ?_
  rw [World.answer_engine hw (hb.trans he.backend)]
  exact ⟨⟨hw.inMemory, hw.engineReplies, hw.contentReplies⟩, h url r w.engine ht hm⟩

/-- Requests to read are quiet. -/
theorem call_read (he : e.IsEngine) (hv : verb = .get ∨ verb = .head) :
    Quiet (e.call verb path query .empty) :=
  .call_engine he fun _ _ _ _ hm => Engine.answer_unwritten hm.payload (hm.verb ▸ hv)

/-- Requests that lead to an index as a whole are quiet. -/
theorem call_index {name index : String} (he : e.IsEngine) (hl : e.address.Leads name index) :
    Quiet (e.call verb (MetadataIndex.indexPath name) query payload) := by
  refine .call_engine he fun url r engine ht hm => ?_
  rw [MetadataIndex.indexPath_eq] at ht
  exact Engine.answer_unwritten_of_index
    (hm.segments.trans (hl [] url Text.DotSegments.anchored_nil ht))

/-- Searches are quiet. -/
theorem call_search {name index : String} (he : e.IsEngine) (hl : e.address.Leads name index) :
    Quiet (e.call verb ("/" ++ name ++ "/_search") query payload) := by
  refine .call_engine he fun url r engine ht hm => ?_
  rw [show "/" ++ name ++ "/_search" = Address.reference name ["_search".toList] from
    MetadataIndex.path_word_eq name "_search"] at ht
  have hs := hm.segments.trans
    (hl _ url (Text.DotSegments.anchored_word Text.DotSegments.isWord_search) ht)
  rw [Text.DotSegments.foldl_word Text.DotSegments.isWord_search,
    Address.meanings_word Text.DotSegments.isWord_search] at hs
  exact Engine.answer_unwritten_of_search hs

theorem check (r : Response) : Quiet (Search.check r) := by
  unfold Search.check
  split
  · exact .pure _
  · exact .bind (.ofRead _) fun _ => .throw _

end Quiet

end ContentDepot
