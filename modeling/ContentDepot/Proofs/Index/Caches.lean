import ContentDepot.Proofs.Index.Certainty
import ContentDepot.Proofs.Session.Conduct
import ContentDepot.Session.Call

/-!
# What processes know of the indices

A process keeps the names of the indices that it has found or created, and does not
ask for these again. Whatever calls go on at once in however many processes, under a
plain name that a process knows there is an index (`World.Reached.sound`): a name is
kept only after the engine has said so, and no request takes an index away.
-/

namespace ContentDepot

open Exchange InMemory Address Text.DotSegments

namespace InMemory.Engine

variable {e : Engine} {r : Request} {resp : Response} {index : String}

/-- An engine that says that an index is there has it. -/
theorem has_of_head (hout : IsOutside e.failing) (hv : r.verb = .head)
    (hs : segments r.path = [index]) (hresp : (e.answer r).1 = .response resp)
    (hstatus : resp.status = 200) : Entries.has e.indices index = true := by
  rcases hf : e.failing with _ | status
  · rw [answer_index hf hs, answerIndex, hv] at hresp
    cases hresp
    by_contra hno
    rw [if_neg hno] at hstatus
    cases hstatus
  · rw [answer_of_failing hf] at hresp
    cases hresp
    obtain rfl : status = 200 := hstatus
    exact absurd ⟨by decide, by decide⟩ (hout _ hf)

/-- An index that was created, or could not be because it is there, is there. -/
theorem has_of_put (hout : IsOutside e.failing) (hv : r.verb = .put)
    (hs : segments r.path = [index]) (hresp : (e.answer r).1 = .response resp)
    (hok : resp.isSuccess = true ∨ MetadataIndex.alreadyExists resp = .ok true) :
    Entries.has (e.answer r).2.indices index = true := by
  rcases hf : e.failing with _ | status
  · rw [answer_index hf hs, answerIndex, hv]
    dsimp only
    split
    · rename_i hx
      exact hx
    · simp only [Entries.has, Entries.get?_put_self, Option.isSome_some]
  · rw [answer_of_failing hf] at hresp
    cases hresp
    rw [isSuccess_failure (hout status hf), MetadataIndex.alreadyExists_failure] at hok
    rcases hok with hok | hok <;> cases hok

end InMemory.Engine

namespace MetadataIndex

/-- A talk may do all that requests do, and knows of one name at most that an index is there. -/
def caching : Conduct (Option String) where
  trusts := IsPlainName
  Fact _ φ w := IsOutside w.engine.failing ∧
    ∀ name, φ = some name → IsPlainName name → Entries.has w.engine.indices name = true
  Step _ _ w _ w' := w'.engine.failing = w.engine.failing
  lasts r hw h := by
    refine ⟨?_, fun name hn hp => World.has_answer hw (h.2 name hn hp) r⟩
    rw [World.failing_answer hw]
    exact h.1

section Caching

variable {e : Endpoint} {i : Nat} {φ : Option String} {name : String} {verb : Verb}
  {query : List (String × String)} {payload : Payload}

/-- After any request the talk knows what it knew. -/
theorem caching_call {path : String} (ha : e.address.base.IsRoot)
    (hp : path.toList.head? = some '/') :
    caching.Keeps i φ (e.call verb path query payload) (fun φ' _ => φ' = φ)
      (fun φ' _ => φ' = φ) := by
  obtain ⟨cs, hcs⟩ := List.head?_eq_some_iff.1 hp
  rw [← String.ofList_toList (s := path), hcs]
  refine .call ha (fun _ _ => rfl) fun url r _ _ w hw hf =>
    ⟨φ, World.failing_answer hw r, caching.lasts r hw hf, ?_⟩
  split <;> rfl

/-- A request for what a plain name leads to goes to the engine. -/
theorem answer_of_plain {w : World} {url : Url} {r : Request} (hw : w.Live) (he : e.IsEngine)
    (hn : IsPlainName name) (ht : e.address.target (reference name []) = .ok url)
    (hr : e.request url verb query payload = .ok r) :
    w.answer r = ((w.engine.answer r).1,
        { w with engine := (w.engine.answer r).2, sent := w.sent ++ [r] }) ∧
      Engine.segments r.path = [name] ∧ r.verb = verb := by
  obtain ⟨hb, -, hm⟩ := Endpoint.made_of_request hr
  exact ⟨World.answer_engine hw (hb.trans he.backend),
    hm.segments.trans (leads_of_plain he.root hn [] url anchored_nil ht), hm.verb⟩

/-- Creating an index, where an index of the name is there when its name is kept. -/
theorem caching_createIfMissing (he : e.IsEngine) (trust : Bool) :
    caching.Keeps i φ (createIfMissing e name trust) (fun _ _ => True) (fun _ _ => True) := by
  unfold createIfMissing
  rw [indexPath_eq]
  refine .context_bind fun c w _ _ hf => ⟨φ, rfl, hf, ?_⟩
  split
  · exact .pure trivial
  have hmark : caching.Keeps i (some name)
      (liftM (Exchange.modify (·.markMapped name)) : Attempt Unit) (fun _ _ => True)
      (fun _ _ => True) := .markMapped (fun w hw hp => hw.2 name rfl hp) trivial
  refine .bind (m := fun φ r => r.status = 200 → φ = some name)
    (.call he.root (fun _ _ => trivial) fun url r ht hr w hw hf => ?_) fun φ r hφ => ?_
  · cases hreply : (w.answer r).1 with
    | response resp =>
      by_cases hstatus : resp.status = 200
      · refine ⟨some name, World.failing_answer hw r, ⟨(caching.lasts r hw hf).1, ?_⟩, fun _ => rfl⟩
        rintro _ ⟨⟩ hn
        obtain ⟨hans, hs, hv⟩ := answer_of_plain hw he hn ht hr
        rw [hans] at hreply
        exact World.has_answer hw (Engine.has_of_head hf.1 hv hs hreply hstatus) r
      · exact ⟨φ, World.failing_answer hw r, caching.lasts r hw hf, fun h => absurd h hstatus⟩
    | disrupted message => exact ⟨φ, World.failing_answer hw r, caching.lasts r hw hf, trivial⟩
    | fault f => exact ⟨φ, World.failing_answer hw r, caching.lasts r hw hf, trivial⟩
  split
  · rename_i hstatus
    rw [hφ hstatus]
    exact hmark
  refine .bind (m := fun φ r => r.isSuccess = true ∨ alreadyExists r = .ok true →
      φ = some name)
    (.call he.root (fun _ _ => trivial) fun url r ht hr w hw hf => ?_) fun φ r hφ => ?_
  · cases hreply : (w.answer r).1 with
    | response resp =>
      by_cases hok : resp.isSuccess = true ∨ alreadyExists resp = .ok true
      · refine ⟨some name, World.failing_answer hw r, ⟨(caching.lasts r hw hf).1, ?_⟩, fun _ => rfl⟩
        rintro _ ⟨⟩ hn
        obtain ⟨hans, hs, hv⟩ := answer_of_plain hw he hn ht hr
        rw [hans] at hreply ⊢
        exact Engine.has_of_put hf.1 hv hs hreply hok
      · exact ⟨φ, World.failing_answer hw r, caching.lasts r hw hf, fun h => absurd h hok⟩
    | disrupted message => exact ⟨φ, World.failing_answer hw r, caching.lasts r hw hf, trivial⟩
    | fault f => exact ⟨φ, World.failing_answer hw r, caching.lasts r hw hf, trivial⟩
  refine .ofRead_bind (fun _ _ => trivial) fun known hknown => ?_
  cases known with
  | true =>
    rw [if_pos rfl, hφ (.inr hknown)]
    exact hmark
  | false =>
    rw [if_neg Bool.false_ne_true]
    refine .check_bind (fun _ _ => trivial) fun hr => ?_
    rw [hφ (.inl hr)]
    exact .emit_bind hmark

/-- A request and what is read off the answer. -/
theorem caching_asking {β : Type} {path : String} {f : Response → Attempt β}
    (ha : e.address.base.IsRoot) (hp : path.toList.head? = some '/')
    (hf : ∀ φ r, caching.Keeps i φ (f r) (fun _ _ => True) (fun _ _ => True)) :
    caching.Keeps i φ (e.call verb path query payload >>= f) (fun _ _ => True)
      (fun _ _ => True) :=
  .bind ((caching_call ha hp).mono (fun _ _ h => h) fun _ _ _ => trivial) fun φ r _ => hf φ r

theorem caching_fail {α : Type} {activity : Activity} {event : String} {t : Trouble} :
    caching.Keeps i φ (fail activity event t : Action α) (fun _ _ => True) (fun _ _ => True) := by
  refine .emit_bind ?_
  cases t <;> exact .throw trivial

theorem caching_documentExists (he : e.IsEngine) (id : Json) :
    caching.Keeps i φ (documentExists e name id) (fun _ _ => True) (fun _ _ => True) := by
  unfold documentExists
  split
  · exact .pure trivial
  refine caching_asking he.root (by simp [documentPath]) fun φ r => ?_
  split
  · exact .pure trivial
  · exact .check_bind (fun _ _ => trivial) fun _ => .ofRead_bind (fun _ _ => trivial) fun _ _ =>
      .ofRead_bind (fun _ _ => trivial) fun _ _ => .pure trivial

theorem caching_writing (he : e.IsEngine) (id : Json) (source : Entries Json) (writable : Bool) :
    caching.Keeps i φ (writing e name id source writable) (fun _ _ => True) (fun _ _ => True) := by
  unfold writing
  refine .bind (caching_createIfMissing he true) fun φ _ _ => ?_
  refine .bind (caching_documentExists he id) fun φ isThere _ => ?_
  cases writable with
  | false => exact .throw_bind trivial
  | true =>
  simp only [Bool.not_true, Bool.false_eq_true, if_false]
  have hwrite : caching.Keeps i φ (writeDocument e name id isThere source) (fun _ _ => True)
      (fun _ _ => True) := by
    have hany : ∀ {verb payload path}, path.toList.head? = some '/' →
        caching.Keeps i φ (e.call verb path [] payload) (fun _ _ => True) (fun _ _ => True) :=
      fun hp => (caching_call he.root hp).mono (fun _ _ _ => trivial) fun _ _ _ => trivial
    unfold writeDocument
    split
    · exact hany (by simp [updatePath])
    split <;> exact hany (by simp [documentPath])
  refine .bind hwrite fun φ r _ => .check_bind (fun _ _ => trivial) fun _ =>
    .ofRead_bind (fun _ _ => trivial) fun _ _ => .ofRead_bind (fun _ _ => trivial) fun _ _ => ?_
  exact caching_asking he.root (by simp) fun φ r => .check_bind (fun _ _ => trivial) fun _ => .pure trivial

theorem caching_lookingUp (he : e.IsEngine) (id : Json) :
    caching.Keeps i φ (lookingUp e name id) (fun _ _ => True) (fun _ _ => True) := by
  unfold lookingUp
  refine caching_asking he.root (by simp [documentPath]) fun φ r => ?_
  dsimp only
  split
  · exact .throw_bind trivial
  refine .check_bind (fun _ _ => trivial) fun _ => .ofRead_bind (fun _ _ => trivial) fun _ _ =>
    .ofRead_bind (fun _ _ => trivial) fun _ _ => ?_
  split
  · exact .throw_bind trivial
  · exact .ofRead (fun _ _ => trivial) fun _ _ => trivial

/-- A search, of which something is read off the answer. -/
theorem caching_search {β : Type} {events : List Event} {body : Json}
    {read : Json → Except Cause β} (he : e.IsEngine) :
    caching.Keeps i φ (do
        Exchange.emitAll events
        let r ← e.call .post ("/" ++ name ++ "/_search") searchQuery (.json body)
        Search.check r
        let answer ← Attempt.ofRead r.json
        Attempt.ofRead (read answer) : Attempt β) (fun _ _ => True) (fun _ _ => True) := by
  refine .bind (m := fun _ _ => True) (.emitAll trivial) fun φ _ _ => ?_
  exact caching_asking he.root (by simp) fun φ r => .check_bind (fun _ _ => trivial) fun _ =>
    .ofRead_bind (fun _ _ => trivial) fun _ _ => .ofRead (fun _ _ => trivial) fun _ _ => trivial

theorem caching_require_bind {β : Type} {v : Json} {parameter : String} {f : Unit → Action β}
    (hf : caching.Keeps i φ (f ()) (fun _ _ => True) (fun _ _ => True)) :
    caching.Keeps i φ (Action.require v parameter >>= f) (fun _ _ => True) (fun _ _ => True) :=
  .bind (m := fun φ' _ => φ' = φ) (.require (fun _ => trivial) fun _ => rfl)
    fun _ _ h => h ▸ hf

/-- An operation on an index, once it has a name and a connection. -/
theorem caching_lowered_bind {β : Type} {s : Settings} {index : Json}
    {f : String → Endpoint → Action β} (hs : s.HostsAreRoots)
    (hf : ∀ name e, e.IsEngine → caching.Keeps i φ (f name e) (fun _ _ => True) (fun _ _ => True)) :
    caching.Keeps i φ (do
      let name ← lowered index
      let e ← connected s .engine
      f name e) (fun _ _ => True) (fun _ _ => True) := by
  obtain ⟨e, he, -⟩ := hs .engine
  cases index with
  | str t => exact .connected_bind he (fun _ _ _ => rfl) (hf _ e (hs.isEngine he))
  | _ => exact .throw_bind trivial

theorem caching_guarded {β : Type} {x : Attempt β} {onTrouble : Trouble → Action β}
    (hx : caching.Keeps i φ x (fun _ _ => True) (fun _ _ => True))
    (ht : ∀ φ t, caching.Keeps i φ (onTrouble t) (fun _ _ => True) (fun _ _ => True)) :
    caching.Keeps i φ (x.guarded onTrouble) (fun _ _ => True) (fun _ _ => True) :=
  .guarded (hx.mono (fun _ _ _ => trivial) fun φ t _ => ht φ t)

theorem caching_ofAction {β : Type} {give : β → Outcome} {action : Action β}
    (h : caching.Keeps i φ action (fun _ _ => True) (fun _ _ => True)) :
    caching.Follows i (fun _ _ => True) (Outcome.ofAction give action) φ := by
  refine h.follows.bind fun φ result _ => ?_
  cases result <;> trivial

/-- Every call on an index keeps what the process knows right. -/
theorem caching_perform {s : Settings} (hs : s.HostsAreRoots) (c : IndexCall) :
    caching.Follows i (fun _ _ => True) (c.perform (remote s)) φ := by
  cases c with
  | write index id hash contentType fields =>
    refine caching_ofAction (caching_require_bind (caching_require_bind
      (caching_lowered_bind hs fun name e he => ?_)))
    exact caching_guarded (caching_writing he ..) fun _ _ => caching_fail
  | lookUp index id =>
    refine caching_ofAction (caching_require_bind (caching_require_bind
      (caching_lowered_bind hs fun name e he => caching_guarded (caching_lookingUp he id)
        fun φ t => ?_)))
    cases t with
    | absent => exact .emit_bind (.throw trivial)
    | _ => exact caching_fail
  | search index query pageable =>
    refine caching_ofAction ?_
    cases pageable with
    | none => exact .throw trivial
    | some pageable =>
      exact caching_require_bind (caching_lowered_bind hs fun name e he =>
        caching_guarded (caching_search he) fun _ _ => caching_fail)
  | count index query =>
    exact caching_ofAction (caching_require_bind (caching_lowered_bind hs fun name e he =>
      caching_guarded (caching_search he) fun _ _ => caching_fail))
  | createIndex index =>
    exact caching_ofAction (caching_require_bind (caching_lowered_bind hs fun name e he =>
      caching_guarded (caching_createIfMissing he false) fun _ _ => caching_fail))
  | healthy =>
    obtain ⟨e, he, hroot⟩ := hs .engine
    refine caching_ofAction (.connected_bind he (fun _ _ _ => rfl) (caching_guarded ?_
      fun φ t => .emit_bind (.pure trivial)))
    refine caching_asking hroot (by decide) fun φ r => ?_
    split
    · exact .pure trivial
    · exact .ofRead_bind (fun _ _ => trivial) fun _ _ =>
        .ofRead_bind (fun _ _ => trivial) fun _ _ => .pure trivial

end Caching

end MetadataIndex

/-! ## Reachable states -/

/-- Calls on the index that are about to begin, each in its process. -/
def Crowd.ofCalls (settings : Nat → Settings) (contexts : Nat → Context) (world : World)
    (calls : List (Nat × IndexCall)) : Crowd Outcome where
  contexts := contexts
  world := world
  talks := calls.map fun c => (c.1, c.2.perform (MetadataIndex.remote (settings c.1)))

/-- The states that processes and backends come to through calls on the index, which may go on at
once and need not be carried out to their ends, while the engine works or fails. -/
inductive World.Reached (settings : Nat → Settings) : (Nat → Context) → World → Prop
  | fresh : Reached settings (fun _ => .initial) (.initial true)
  | calls {contexts world} (calls : List (Nat × IndexCall)) (schedule : List Nat) :
    Reached settings contexts world →
    Reached settings ((Crowd.ofCalls settings contexts world calls).run schedule).contexts
      ((Crowd.ofCalls settings contexts world calls).run schedule).world
  | switch {contexts world} (status : Option Int) : IsOutside status →
    Reached settings contexts world → Reached settings contexts (world.setFailing .engine status)

namespace World.Reached

variable {settings : Nat → Settings} {contexts : Nat → Context} {world : World}

/-- In every state that is reached the engine in memory answers, it fails with no status of
success, and what the processes know under plain names is there. -/
theorem inOrder (hs : ∀ p, (settings p).HostsAreRoots) (h : Reached settings contexts world) :
    world.Live ∧ IsOutside world.engine.failing ∧
      ∀ p, MetadataIndex.caching.Sound (contexts p).mapped world := by
  induction h with
  | fresh => exact ⟨⟨rfl, rfl, rfl⟩, (fun _ h => by cases h), fun _ _ h => by cases h⟩
  | switch status hout _ ih => exact ⟨⟨ih.1.inMemory, ih.1.engineReplies, ih.1.contentReplies⟩,
      hout, ih.2.2⟩
  | @calls contexts world calls schedule _ ih =>
    obtain ⟨hw, hout, hsound⟩ := ih
    have hagrees : MetadataIndex.caching.Agrees (fun _ _ _ => True)
        (Crowd.ofCalls settings contexts world calls) fun _ => none := by
      refine ⟨hw, hsound, fun i p x _ => ⟨hout, fun _ h => by cases h⟩, fun i p x hx => ?_⟩
      rw [Crowd.ofCalls, List.getElem?_map, Option.map_eq_some_iff] at hx
      obtain ⟨c, -, hc⟩ := hx
      cases hc
      exact MetadataIndex.caching_perform (hs c.1) c.2
    obtain ⟨_, hout', hagrees'⟩ := hagrees.run (J := fun _ w => IsOutside w.engine.failing)
      (fun hj hmoves => by
        cases hmoves with
        | stay => exact hj
        | step i φ w' _ _ hstep => exact hstep.symm ▸ hj) hout schedule
    exact ⟨hagrees'.live, hout', hagrees'.sound⟩

end World.Reached

end ContentDepot
