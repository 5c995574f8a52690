import ContentDepot.Proofs.Session.Standing

/-!
# Contents that an operation does not see

Two standings are alike if they differ at most in contents under some hashes
(`Alike`). An operation is blind to these contents if it ends in the same way from
standings that are alike, and leaves them alike (`Blind`). What the process has
logged and which of its connections are open makes no difference either.

* `Blind.bind`, `Blind.guarded`, `Blind.shielded`: along the text of an operation;
* `Blind.call_engine`, `Blind.call_content`: a request that does not ask for one of
  the contents;
* `Blind.connected_bind`: whether a connection was open is not seen.
-/

namespace ContentDepot

open Exchange InMemory

/-- Contents that differ at most under some hashes. -/
structure InMemory.Blobs.Alike (extra : String → Prop) (b b' : Blobs) : Prop where
  failing : b'.failing = b.failing
  blobs : ∀ hash, ¬ extra hash → Entries.get? b'.blobs hash = Entries.get? b.blobs hash

theorem InMemory.Blobs.Alike.add {extra : String → Prop} {b b' : Blobs} (h : b.Alike extra b')
    (content : Bytes) : (b.add content).Alike extra (b'.add content) where
  failing := h.failing
  blobs hash hh := by
    simp only [Blobs.add, Entries.get?_put]
    split
    · rfl
    · exact h.blobs hash hh

/-- A request that does not ask for a content under one of the hashes does not tell them apart. -/
theorem InMemory.Blobs.Alike.answer {extra : String → Prop} {b b' : Blobs} {r : Request}
    (h : b.Alike extra b') (hr : ¬ extra (Blobs.parameter r "arg")) :
    (b'.answer r).1 = (b.answer r).1 ∧ (b.answer r).2.Alike extra (b'.answer r).2 := by
  have hget := h.blobs _ hr
  unfold Blobs.answer
  rw [h.failing]
  cases hf : b.failing with
  | some status => exact ⟨rfl, h⟩
  | none =>
    dsimp only
    split
    · exact ⟨rfl, h⟩
    split
    · split
      · rename_i content _
        have hadd := h.add content
        simp only [Blobs.add, h.failing, hf] at hadd
        exact ⟨rfl, hadd⟩
      · exact ⟨rfl, h⟩
    split
    · rw [hget]
      split <;> exact ⟨rfl, h⟩
    · exact ⟨rfl, h⟩

/-- Standings that differ at most in contents under some hashes. -/
structure Alike (extra : String → Prop) (st st' : Standing) : Prop where
  mapped : st'.mapped = st.mapped
  engine : st'.engine = st.engine
  contents : st.contents.Alike extra st'.contents

theorem Alike.refl (extra : String → Prop) (st : Standing) : Alike extra st st :=
  ⟨rfl, rfl, rfl, fun _ _ => rfl⟩

theorem Alike.mark {extra : String → Prop} {st st' : Standing} (h : Alike extra st st')
    (index : String) : Alike extra (st.mark index) (st'.mark index) := by
  refine ⟨?_, h.engine, h.contents⟩
  simp only [Standing.mark, h.mapped]

/-- From standings that are alike the operation ends in one way, and leaves them alike. -/
structure Blind {ε α : Type} (extra : String → Prop) (x : ExceptT ε Exchange α) : Prop where
  carried : ∀ c w c' w', w.Live → w'.Live → Alike extra (.of c w) (.of c' w') →
    (carry World.answer x c' w').1 = (carry World.answer x c w).1 ∧
      Alike extra (.of (carry World.answer x c w).2.1 (carry World.answer x c w).2.2)
        (.of (carry World.answer x c' w').2.1 (carry World.answer x c' w').2.2)

namespace Blind

variable {ε α β : Type} {extra : String → Prop}

theorem pure (a : α) : Blind extra (Pure.pure a : ExceptT ε Exchange α) :=
  ⟨fun _ _ _ _ _ _ h => ⟨rfl, h⟩⟩

theorem throw (e : ε) : Blind extra (MonadExcept.throw e : ExceptT ε Exchange α) :=
  ⟨fun _ _ _ _ _ _ h => ⟨rfl, h⟩⟩

theorem bind {x : ExceptT ε Exchange β} {f : β → ExceptT ε Exchange α} (hx : Blind extra x)
    (hf : ∀ b, Blind extra (f b)) : Blind extra (x >>= f) := by
  refine ⟨fun c w c' w' hw hw' h => ?_⟩
  obtain ⟨hresult, hleft⟩ := hx.carried c w c' w' hw hw' h
  rw [carry_bind, carry_bind]
  -- Both runs fail with the same, or both go on with the same: mixed cases contradict `hresult`.
  rcases hc : carry World.answer x c w with ⟨e | b, c₁, w₁⟩ <;>
    rcases hc' : carry World.answer x c' w' with ⟨e' | b', c₁', w₁'⟩ <;>
    rw [hc, hc'] at hresult hleft <;> cases hresult
  · exact ⟨rfl, hleft⟩
  · exact (hf b).carried c₁ w₁ c₁' w₁' (World.live_of_carry hw hc) (World.live_of_carry hw' hc')
      hleft

/-- Nothing follows a failure. -/
theorem throw_bind (e : ε) (f : β → ExceptT ε Exchange α) :
    Blind extra (MonadExcept.throw e >>= f) :=
  ⟨fun _ _ _ _ _ _ h => ⟨rfl, h⟩⟩

/-- Of the context no more is seen than which indices are known. -/
theorem context_bind {f : Context → ExceptT ε Exchange α}
    (hf : ∀ c c', c'.mapped = c.mapped → f c' = f c) (h : ∀ c, Blind extra (f c)) :
    Blind extra ((liftM Exchange.context : ExceptT ε Exchange Context) >>= f) := by
  refine ⟨fun c w c' w' hw hw' halike => ?_⟩
  rw [carry_bind_of_ok (carry_context ..), carry_bind_of_ok (carry_context ..),
    hf c c' halike.mapped]
  exact (h c).carried c w c' w' hw hw' halike

theorem emit (level : Level) (name : String) :
    Blind extra (liftM (Exchange.emit level name) : ExceptT ε Exchange Unit) := by
  refine ⟨fun c w c' w' _ _ h => ?_⟩
  rw [carry_emit, carry_emit]
  exact ⟨rfl, h⟩

theorem emitAll (events : List Event) :
    Blind extra (liftM (Exchange.emitAll events) : ExceptT ε Exchange Unit) := by
  refine ⟨fun c w c' w' _ _ h => ?_⟩
  rw [carry_emitAll, carry_emitAll]
  refine ⟨rfl, ?_⟩
  rw [Standing.of_foldl_record, Standing.of_foldl_record]
  exact h

theorem markMapped (index : String) :
    Blind extra (liftM (Exchange.modify (·.markMapped index)) : ExceptT ε Exchange Unit) := by
  refine ⟨fun c w c' w' _ _ h => ?_⟩
  rw [carry_modify, carry_modify]
  refine ⟨rfl, ?_⟩
  rw [Standing.of_markMapped, Standing.of_markMapped]
  exact h.mark index

/-- After a step that always gives the same, and leaves the standing as it is. -/
theorem silent_bind {x : ExceptT ε Exchange β} {b : β} {f : β → ExceptT ε Exchange α}
    (hx : ∀ st, WP st x (fun b' st' => b' = b ∧ st' = st) fun _ _ => False)
    (h : Blind extra (f b)) : Blind extra (x >>= f) := by
  refine ⟨fun c w c' w' hw hw' halike => ?_⟩
  have hstep := (hx _).carried c w hw rfl
  have hstep' := (hx _).carried c' w' hw' rfl
  rw [carry_bind, carry_bind]
  rcases hc : carry World.answer x c w with ⟨e | b, c₁, w₁⟩ <;> rw [hc] at hstep
  · exact hstep.elim
  rcases hc' : carry World.answer x c' w' with ⟨e' | b', c₁', w₁'⟩ <;> rw [hc'] at hstep'
  · exact hstep'.elim
  obtain ⟨rfl, hleft⟩ := hstep
  obtain ⟨rfl, hleft'⟩ := hstep'
  refine h.carried c₁ w₁ c₁' w₁' (World.live_of_carry hw hc) (World.live_of_carry hw' hc') ?_
  rwa [hleft, hleft']

/-- What follows a refusal of what is blank only has to be blind for what is not. -/
theorem require_bind {v : Json} {name : String} {f : Unit → Action α}
    (h : v.isBlank = false → Blind extra (f ())) :
    Blind extra (Action.require v name >>= f) := by
  refine ⟨fun c w c' w' hw hw' halike => ?_⟩
  rw [carry_bind, carry_bind, carry_require, carry_require]
  cases hb : v.isBlank with
  | true => exact ⟨rfl, halike⟩
  | false => exact (h hb).carried c w c' w' hw hw' halike

theorem ofChecked (checked : Checked α) : Blind extra (Action.ofChecked checked) := by
  cases checked with
  | ok a => exact .pure a
  | error issues => exact .throw _

theorem ofRead (read : Except Cause α) : Blind extra (Attempt.ofRead read) := by
  cases read with
  | ok a => exact .pure a
  | error cause => exact .throw _

theorem check (r : Response) : Blind extra (Search.check r) := by
  unfold Search.check
  split
  · exact .pure _
  · exact .bind (.ofRead _) fun _ => .throw _

theorem guarded {x : Attempt α} {onTrouble : Trouble → Action α} (hx : Blind extra x)
    (ht : ∀ t, Blind extra (onTrouble t)) : Blind extra (x.guarded onTrouble) := by
  refine ⟨fun c w c' w' hw hw' h => ?_⟩
  obtain ⟨hresult, hleft⟩ := hx.carried c w c' w' hw hw' h
  rw [carry_guarded, carry_guarded]
  rcases hc : carry World.answer x c w with ⟨t | a, c₁, w₁⟩ <;>
    rcases hc' : carry World.answer x c' w' with ⟨t' | a', c₁', w₁'⟩ <;>
    rw [hc, hc'] at hresult hleft <;> cases hresult
  · exact (ht t).carried c₁ w₁ c₁' w₁' (World.live_of_carry hw hc) (World.live_of_carry hw' hc')
      hleft
  · exact ⟨rfl, hleft⟩

section Actions

variable {action : Action α}

theorem shielded {activity : Activity} {name : String} (h : Blind extra action) :
    Blind extra (Depot.shielded activity name action) := by
  refine ⟨fun c w c' w' hw hw' halike => ?_⟩
  obtain ⟨hresult, hleft⟩ := h.carried c w c' w' hw hw' halike
  unfold Depot.shielded
  rw [carry_mk_bind, carry_mk_bind, hresult]
  generalize carry World.answer action c w = left at hleft ⊢
  generalize carry World.answer action c' w' = left' at hleft ⊢
  obtain ⟨(_ | _ | _) | _, c₁, w₁⟩ := left <;> exact ⟨rfl, hleft⟩

theorem reportingOrphan {r : IndexRequest} {hash : Json} (h : Blind extra action) :
    Blind extra (Depot.reportingOrphan r hash action) := by
  refine ⟨fun c w c' w' hw hw' halike => ?_⟩
  obtain ⟨hresult, hleft⟩ := h.carried c w c' w' hw hw' halike
  unfold Depot.reportingOrphan
  rw [carry_mk_bind, carry_mk_bind, hresult]
  generalize carry World.answer action c w = left at hleft ⊢
  generalize carry World.answer action c' w' = left' at hleft ⊢
  obtain ⟨(_ | _ | _) | _, c₁, w₁⟩ := left <;> exact ⟨rfl, hleft⟩

theorem fail (activity : Activity) (name : String) (t : Trouble) :
    Blind extra (MetadataIndex.fail activity name t : Action α) :=
  .bind (.emit ..) fun _ => by cases t <;> exact .throw _

theorem failWith (activity : Activity) (name : String) (t : Trouble) :
    Blind extra (ContentStore.failWith activity name t : Action α) :=
  .bind (.emit ..) fun _ => by cases t <;> exact .throw _

theorem lowered (index : Json) : Blind extra (MetadataIndex.lowered index) := by
  cases index <;> first | exact .pure _ | exact .throw _

/-- The endpoint of a backend that settings name is there, whether the connection was open or
not. -/
theorem connected_bind {s : Settings} {b : Backend} {e : Endpoint} {f : Endpoint → Action α}
    (he : s.endpoint? b = some e) (h : Blind extra (f e)) :
    Blind extra (ContentDepot.connected s b >>= f) := by
  refine .silent_bind (b := e) (fun st => ?_) h
  have hconnected : WP st (ContentDepot.connected s b >>= Pure.pure)
      (fun e' st' => e' = e ∧ st' = st) fun _ _ => False := .connected_bind he (.pure ⟨rfl, rfl⟩)
  rwa [bind_pure] at hconnected

/-- An operation on an index is blind if what it does there is. -/
theorem named {s : Settings} {e : Endpoint} {index : Json} {name : String}
    {f : String → Endpoint → Action α} (he : s.endpoint? .engine = some e)
    (h : ∀ t, Blind extra (f t e)) :
    Blind extra (do
      Action.require index name
      let t ← MetadataIndex.lowered index
      let e ← ContentDepot.connected s .engine
      f t e) :=
  .require_bind fun _ => .bind (.lowered index) fun t => .connected_bind he (h t)

end Actions

/-! ## Requests -/

section Requests

variable {e : Endpoint} {verb : Verb} {path : String} {query : List (String × String)}
  {payload : Payload}

/-- A request is blind to what the answer to it is blind to. -/
theorem call (h : ∀ url r c w c' w', e.address.target path = .ok url →
    e.request url verb query payload = .ok r → w.Live → w'.Live →
    Alike extra (.of c w) (.of c' w') →
      (World.answer r w').1 = (World.answer r w).1 ∧
        Alike extra (.of c (World.answer r w).2) (.of c' (World.answer r w').2)) :
    Blind extra (e.call verb path query payload) := by
  refine ⟨fun c w c' w' hw hw' halike => ?_⟩
  rcases ht : e.address.target path with f | url
  · rw [carry_call_of_refused ht, carry_call_of_refused ht]
    exact ⟨rfl, halike⟩
  rcases hr : e.request url verb query payload with f | r
  · rw [carry_call_of_unmade ht hr, carry_call_of_unmade ht hr]
    exact ⟨rfl, halike⟩
  · obtain ⟨hreply, hleft⟩ := h url r c w c' w' ht hr hw hw' halike
    rw [carry_call_of_made ht hr, carry_call_of_made ht hr, hreply]
    rcases (World.answer r w).1 with resp | message | f
    · unfold Endpoint.received
      dsimp only
      split <;> exact ⟨rfl, hleft⟩
    · exact ⟨rfl, hleft⟩
    · exact ⟨rfl, hleft⟩

/-- Requests to the engine do not see contents at all. -/
theorem call_engine (he : e.IsEngine) : Blind extra (e.call verb path query payload) := by
  refine .call fun url r c w c' w' _ hr hw hw' h => ?_
  have hb := (Endpoint.made_of_request hr).1.trans he.backend
  rw [World.answer_engine hw hb, World.answer_engine hw' hb,
    show w'.engine = w.engine from h.engine]
  exact ⟨rfl, h.mapped, rfl, h.contents⟩

/-- A request to the content store does not see contents that it does not ask for. -/
theorem call_content (hb : e.backend = .content)
    (hr : ∀ url r, e.request url verb query payload = .ok r → ¬ extra (Blobs.parameter r "arg")) :
    Blind extra (e.call verb path query payload) := by
  refine .call fun url r c w c' w' _ hreq hw hw' h => ?_
  have hcontent := (Endpoint.made_of_request hreq).1.trans hb
  obtain ⟨hanswer, hleft⟩ := InMemory.Blobs.Alike.answer h.contents (hr url r hreq)
  rw [World.answer_content hw hcontent, World.answer_content hw' hcontent]
  exact ⟨hanswer, h.mapped, h.engine, hleft⟩

end Requests

end Blind

end ContentDepot
