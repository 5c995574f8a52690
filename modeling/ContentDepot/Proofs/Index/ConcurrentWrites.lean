import ContentDepot.Proofs.Depot.FailedCalls
import ContentDepot.Proofs.Index.Caches
import ContentDepot.Proofs.InMemory.Effects

/-!
# Writes that go on at once

A write opens its index, asks whether the document is there, and then stores the
document as a whole or puts its fields over those that are there. Others may do the
same between any two of its requests. What it knows at each stage (`WriteStage`), and
what each of its steps does to the engine as it finds it (`WriteStep`), does not
depend on them:

* `Writes.keeps_writing`: a write goes through these stages, and it does not fail;
* `within_write`: it has come to its end after `writeTurns` turns.
-/

namespace ContentDepot

open Exchange InMemory Address Search Text.DotSegments MetadataIndex

/-- Whether a request is to put fields over those of a document. -/
def Request.isUpdate (r : Request) : Bool := (Engine.segments r.path)[1]? == some "_update"

theorem Request.isUpdate_of_within {r : Request} {index action : String} {rest : List String}
    (hs : Engine.segments r.path = index :: action :: rest) :
    r.isUpdate = (action == "_update") := by
  rw [isUpdate, hs]
  rfl

/-- The requests to put fields over those of a document. -/
def World.updates (w : World) : List Request := w.sent.filter Request.isUpdate

theorem World.updates_of_not (w : World) (engine : Engine) {r : Request}
    (h : r.isUpdate = false) :
    World.updates { w with engine := engine, sent := w.sent ++ [r] } = w.updates := by
  rw [updates, List.filter_append, List.filter_cons_of_neg (by simpa using h), List.filter_nil,
    List.append_nil, updates]

theorem World.updates_of_update {w : World} {engine : Engine} {r : Request}
    (h : r.isUpdate = true) :
    World.updates { w with engine := engine, sent := w.sent ++ [r] } = w.updates ++ [r] := by
  rw [updates, List.filter_append, List.filter_cons_of_pos h, List.filter_nil, updates]

theorem World.hasDocument_answer {w : World} (hw : w.Live) {index id : String}
    (h : w.engine.hasDocument index id = true) (r : Request) :
    (w.answer r).2.engine.hasDocument index id = true := by
  cases hb : r.backend with
  | content =>
    rw [World.answer_content hw hb]
    exact h
  | engine =>
    rw [World.answer_engine hw hb]
    exact Engine.hasDocument_answer h r

/-- The engine keeps its indices and documents, and nothing is asked to be updated. -/
structure World.Rests (w w' : World) : Prop where
  engine : w.engine.Idle w'.engine
  updates : w'.updates = w.updates

theorem World.Rests.refl (w : World) : w.Rests w := ⟨.refl _, rfl⟩

/-- How far a write has come. -/
inductive WriteStage where
  | begun
  /-- The index is there, if it is trusted to be. -/
  | opened
  /-- The document was there, or it was not. -/
  | asked (found : Bool)
  /-- The document is written under its identifier. -/
  | wrote (found : Bool) (id : String)

/-- What is to be written: a document, under an identifier if one is given. -/
structure WriteJob where
  index : String
  id : Option String
  source : Document

/-- A step of a write, on the engine as the step finds it. -/
inductive WriteStep (j : WriteJob) : WriteStage → World → WriteStage → World → Prop
  | rests {w w'} (s) : w.Rests w' → WriteStep j s w s w'
  | opens {w w'} : w.Rests w' → WriteStep j .begun w .opened w'
  | creates {w w'} : Entries.has w.engine.indices j.index = false →
    w'.engine = w.engine.withIndex j.index → w'.updates = w.updates →
    WriteStep j .begun w .opened w'
  | asks {w w' t} : given j.id = some t → w.Rests w' →
    WriteStep j .opened w (.asked (w.engine.hasDocument j.index t)) w'
  | numbers {w w'} : given j.id = none →
    w'.engine = w.engine.issue.putDocument j.index (w.engine.idFor none) j.source →
    w'.updates = w.updates →
    WriteStep j .opened w (.wrote false (w.engine.idFor none)) w'
  | stores {w w' t} : given j.id = some t → w'.engine = w.engine.putDocument j.index t j.source →
    w'.updates = w.updates → WriteStep j (.asked false) w (.wrote false t) w'
  | overlays {w w' t d} (r) : given j.id = some t →
    Entries.get? (w.engine.documents j.index) t = some d →
    w'.engine = w.engine.putDocument j.index t (Entries.putAll d j.source) →
    w'.updates = w.updates ++ [r] → WriteStep j (.asked true) w (.wrote true t) w'

/-- What a write knows at a stage. -/
structure WriteFact (trusts : String → Prop) (j : WriteJob) (s : WriteStage) (w : World) :
    Prop where
  failing : w.engine.failing = none
  opened : s ≠ .begun → trusts j.index → Entries.has w.engine.indices j.index = true
  found : s = .asked true → ∀ t, given j.id = some t → w.engine.hasDocument j.index t = true

namespace WriteFact

variable {trusts : String → Prop} {j : WriteJob} {s s' : WriteStage} {w w' : World}

theorem answer (h : WriteFact trusts j s w) (hw : w.Live) (r : Request) :
    WriteFact trusts j s (w.answer r).2 where
  failing := (World.failing_answer hw r).trans h.failing
  opened hs ht := World.has_answer hw (h.opened hs ht) r
  found hs t ht := World.hasDocument_answer hw (h.found hs t ht) r

theorem of_rests (h : WriteFact trusts j s w) (hr : w.Rests w') : WriteFact trusts j s w' := by
  obtain ⟨⟨refreshes, he⟩, -⟩ := hr
  refine ⟨?_, fun hs ht => ?_, fun hs t ht => ?_⟩ <;> rw [he]
  · exact h.failing
  · exact h.opened hs ht
  · exact h.found hs t ht

end WriteFact

/-- A log of those of so many writes that have written, with something of what they have. -/
structure WriteLog {β : Type} (note : Bool → String → β) (n : Nat) (stages : Nat → WriteStage)
    (log : List (Nat × β)) : Prop where
  done : ∀ i b, (i, b) ∈ log ↔ i < n ∧ ∃ found t, stages i = .wrote found t ∧ note found t = b
  once : (log.map Prod.fst).Nodup

namespace WriteLog

variable {β : Type} {note : Bool → String → β} {n : Nat} {stages : Nat → WriteStage}
  {log : List (Nat × β)} {i : Nat} {s : WriteStage}

theorem begun (note : Bool → String → β) (n : Nat) : WriteLog note n (fun _ => .begun) [] where
  done i b := by simp
  once := List.nodup_nil

/-- A step in which nothing is written. -/
theorem quiet (h : WriteLog note n stages log) (hbefore : ∀ found t, stages i ≠ .wrote found t)
    (hafter : ∀ found t, s ≠ .wrote found t) : WriteLog note n (Function.update stages i s) log where
  done j b := by
    rw [h.done]
    by_cases hj : j = i
    · subst hj
      simp only [Function.update_self, hbefore, hafter, false_and]
    · simp only [Function.update_of_ne hj]
  once := h.once

/-- A step in which one of the writes has written. -/
theorem extend (h : WriteLog note n stages log) (hi : i < n)
    (hbefore : ∀ found t, stages i ≠ .wrote found t) (found : Bool) (t : String) :
    WriteLog note n (Function.update stages i (.wrote found t)) (log ++ [(i, note found t)]) where
  done j b := by
    rw [List.mem_append, List.mem_singleton, Prod.mk.injEq, h.done]
    by_cases hj : j = i
    · subst hj
      simp only [Function.update_self, hbefore, WriteStage.wrote.injEq]
      simp [hi, eq_comm]
    · simp only [Function.update_of_ne hj, hj, false_and, or_false]
  once := by
    rw [List.map_append, List.nodup_append]
    refine ⟨h.once, List.nodup_singleton _, ?_⟩
    intro j hj j' hj' hjj
    obtain rfl : j' = i := by simpa using hj'
    subst hjj
    obtain ⟨⟨j, b⟩, hmem, rfl⟩ := List.mem_map.1 hj
    obtain ⟨-, found, t, hstage, -⟩ := (h.done j b).1 hmem
    exact hbefore found t hstage

/-- When all have written, the log has each of them once. -/
theorem perm (h : WriteLog note n stages log)
    (hall : ∀ i, i < n → ∃ found t, stages i = .wrote found t) :
    (log.map Prod.fst).Perm (List.range n) := by
  refine (List.perm_ext_iff_of_nodup h.once List.nodup_range).2 fun i => ?_
  rw [List.mem_range]
  constructor
  · intro hi
    obtain ⟨p, hp, rfl⟩ := List.mem_map.1 hi
    exact ((h.done p.1 p.2).1 hp).1
  · intro hi
    obtain ⟨found, t, hwrote⟩ := hall i hi
    exact List.mem_map.2 ⟨(i, note found t), (h.done i _).2 ⟨hi, found, t, hwrote, rfl⟩, rfl⟩

end WriteLog

/-- How writes conduct themselves. -/
def Writes.conduct (trusts : String → Prop) (jobs : Nat → WriteJob) : Conduct WriteStage where
  trusts := trusts
  Fact i := WriteFact trusts (jobs i)
  Step i := WriteStep (jobs i)
  lasts r hw h := h.answer hw r

namespace Writes

variable {trusts : String → Prop} {jobs : Nat → WriteJob} {i : Nat} {e : Endpoint}

/-- A request that only reads, as a step. -/
theorem rests_of_idle {w : World} {r : Request} (hi : w.engine.Idle (w.engine.answer r).2)
    (hu : r.isUpdate = false) :
    w.Rests { w with engine := (w.engine.answer r).2, sent := w.sent ++ [r] } :=
  ⟨hi, w.updates_of_not _ hu⟩

theorem keeps_createIfMissing (h : Admits e (jobs i).index (jobs i).index (jobs i).id) :
    (conduct trusts jobs).Keeps i .begun (createIfMissing e (jobs i).index true)
      (fun s _ => s = .opened) (fun _ _ => False) := by
  obtain ⟨url, ht⟩ := h.whole
  have hsegments : ∀ {verb payload r}, e.Sends (jobs i).index [] verb payload r →
      Engine.segments r.path = [(jobs i).index] := fun hr =>
    segments_of_sends h.leads anchored_nil hr
  have hupdate : ∀ {r : Request}, Engine.segments r.path = [(jobs i).index] → r.isUpdate = false := by
    intro r hs
    rw [Request.isUpdate, hs]
    rfl
  -- Once the index is there, it is marked as known.
  have hmark : (conduct trusts jobs).Keeps i .opened
      (liftM (Exchange.modify (·.markMapped (jobs i).index)) : Attempt Unit)
      (fun s _ => s = .opened) (fun _ _ => False) :=
    .markMapped (fun w hf => hf.opened (by simp)) rfl
  unfold createIfMissing
  rw [indexPath_eq]
  refine .context_bind fun c w hw hc hf => ?_
  cases htrust : true && c.mapped.contains (jobs i).index with
  | true =>
    rw [Bool.true_and, List.contains_iff_mem] at htrust
    exact ⟨.opened, .opens (.refl w), ⟨hf.failing, fun _ => hc _ htrust, fun h => by cases h⟩,
      .pure rfl⟩
  | false =>
  refine ⟨.begun, .rests _ (.refl w), hf, ?_⟩
  rw [if_neg Bool.false_ne_true]
  refine .bind (m := fun s r => s = .opened ∧ r.status = 200 ∨ s = .begun ∧ r.status = 404)
    (.call_answered h.isEngine ht (by decide) rfl fun r hr w hw hf => ?_) fun s r hmid => ?_
  · have hrests := rests_of_idle (w := w) (Engine.idle_of_read hr.payload (.inr hr.verb))
      (hupdate (hsegments hr))
    have hans := Engine.answer_index hf.failing (hsegments hr)
    rw [Engine.answerIndex, hr.verb] at hans
    cases hx : Entries.has w.engine.indices (jobs i).index with
    | true =>
      refine ⟨⟨200, .empty⟩, .opened, by rw [hans, hx]; rfl, .opens hrests, ?_, .inl ⟨rfl, rfl⟩⟩
      refine ⟨(hf.of_rests hrests).failing, fun _ _ => ?_, fun h => by cases h⟩
      exact Engine.has_answer hx r
    | false =>
      exact ⟨⟨404, .empty⟩, .begun, by rw [hans, hx]; rfl, .rests _ hrests, hf.of_rests hrests,
        .inr ⟨rfl, rfl⟩⟩
  obtain ⟨rfl, hstatus⟩ | ⟨rfl, hstatus⟩ := hmid
  · rw [if_pos hstatus]
    exact hmark
  rw [if_neg (by rw [hstatus]; decide)]
  refine .bind (m := fun s r => s = .opened ∧ (alreadyExists r = .ok true ∨
      alreadyExists r = .ok false ∧ r.isSuccess = true))
    (.call_answered h.isEngine ht (by decide) (by decide) fun r hr w hw hf => ?_) fun s r hmid => ?_
  · have hnot := w.updates_of_not (w.engine.answer r).2 (hupdate (hsegments hr))
    cases hx : Entries.has w.engine.indices (jobs i).index with
    | true =>
      have hans := Engine.answer_existing hf.failing hr.verb (hsegments hr) hx
      refine ⟨_, .opened, congrArg Prod.fst hans, .opens ⟨?_, hnot⟩, ?_, rfl, .inl ?_⟩
      · rw [hans]
        exact .refl _
      · refine ⟨(Engine.failing_answer ..).trans hf.failing, fun _ _ => ?_, fun h => by cases h⟩
        exact Engine.has_answer hx r
      · decide +kernel
    | false =>
      have hans := Engine.answer_createIndex hf.failing hr.verb (hsegments hr) hr.payload hx
      refine ⟨_, .opened, congrArg Prod.fst hans, .creates hx (congrArg Prod.snd hans) hnot, ?_,
        rfl, .inr ⟨rfl, rfl⟩⟩
      refine ⟨(Engine.failing_answer ..).trans hf.failing, fun _ _ => ?_, fun h => by cases h⟩
      show Entries.has (w.engine.answer r).2.indices _ = true
      rw [hans, Engine.withIndex, Entries.has, Entries.get?_put_self]
      rfl
  obtain ⟨rfl, hread | ⟨hread, hsuccess⟩⟩ := hmid
  · refine .ofRead_bind (fun _ hno => by rw [hread] at hno; cases hno) fun known hknown => ?_
    rw [hread] at hknown
    cases hknown
    rw [if_pos rfl]
    exact hmark
  · refine .ofRead_bind (fun _ hno => by rw [hread] at hno; cases hno) fun known hknown => ?_
    rw [hread] at hknown
    cases hknown
    rw [if_neg Bool.false_ne_true]
    exact .check_bind (fun hno => by rw [hsuccess] at hno; cases hno) fun _ => .emit_bind hmark

/-- Whether the document is there is told as the engine is when it is asked. -/
theorem keeps_documentExists (h : Admits e (jobs i).index (jobs i).index (jobs i).id) :
    (conduct trusts jobs).Keeps i .opened (documentExists e (jobs i).index (.ofOption (jobs i).id))
      (fun s isThere => given (jobs i).id = none ∧ s = .opened ∧ isThere = false ∨
        (given (jobs i).id).isSome = true ∧ s = .asked isThere) (fun _ _ => False) := by
  unfold documentExists
  rw [truthy_ofOption]
  have hcreate := h.create
  rcases hg : given (jobs i).id with _ | t
  · exact .pure (.inl ⟨rfl, rfl, rfl⟩)
  obtain ⟨hid, hne⟩ := given_eq_some hg
  obtain ⟨h1, h2⟩ := h.no_step t hg
  rw [hg] at hcreate
  obtain ⟨url, ht⟩ := hcreate
  rw [hid, show Json.ofOption (some t) = .str t from rfl, documentPath_eq]
  simp only [Option.isSome_some, Bool.not_true, Bool.false_eq_true, if_false]
  refine .bind (m := fun s r => (∃ d, r = ⟨200, .json (Engine.found (jobs i).index t d)⟩) ∧
      s = .asked true ∨ r.status = 404 ∧ s = .asked false)
    (.call_answered h.isEngine ht (by decide) rfl fun r hr w hw hf => ?_) fun s r hmid => ?_
  · have hs := segments_of_sends h.leads (anchored_segment isWord_doc hne) hr
    rw [foldl_segment isWord_doc h1 h2, meanings_segment isWord_doc] at hs
    have hans := Engine.answer_get hf.failing hr.verb hs
    have hrests := rests_of_idle (w := w) (Engine.idle_of_read hr.payload (.inl hr.verb))
      ((Request.isUpdate_of_within hs).trans (by decide))
    have hstep := WriteStep.asks hg hrests
    have hlater := hf.of_rests hrests
    rcases hd : Entries.get? (w.engine.documents (jobs i).index) t with _ | d
    · obtain ⟨body, hbody⟩ := Engine.getDocument_of_none hd
      rw [Engine.hasDocument, Entries.has, hd] at hstep
      exact ⟨_, _, by rw [hans, hbody]; rfl, hstep,
        ⟨hlater.failing, fun _ => hlater.opened (by simp), fun h => by cases h⟩, .inr ⟨rfl, rfl⟩⟩
    · have hthere : w.engine.hasDocument (jobs i).index t = true := by
        rw [Engine.hasDocument, Entries.has, hd]
        rfl
      rw [hthere] at hstep
      refine ⟨_, _, by rw [hans, Engine.getDocument_of_some hd]; rfl, hstep,
        ⟨hlater.failing, fun _ => hlater.opened (by simp), fun _ t' ht' => ?_⟩,
        .inl ⟨⟨d, rfl⟩, rfl⟩⟩
      obtain rfl : t = t' := Option.some.inj (hg.symm.trans ht')
      exact Engine.hasDocument_answer hthere r
  obtain ⟨⟨d, rfl⟩, rfl⟩ | ⟨hstatus, rfl⟩ := hmid
  · dsimp only
    rw [if_neg (by decide)]
    refine .check_bind (fun hno => by cases hno) fun _ => .ofRead_bind (fun _ hno => by cases hno)
      fun v hv => ?_
    cases hv
    refine .ofRead_bind (fun _ hno => by cases hno) fun found hfound => ?_
    cases hfound
    exact .pure (.inr ⟨trivial, rfl⟩)
  · rw [if_pos hstatus]
    exact .pure (.inr ⟨trivial, rfl⟩)

/-- The document is written, and the answer names it. -/
theorem keeps_writeDocument (h : Admits e (jobs i).index (jobs i).index (jobs i).id)
    (hsend : (Json.obj (jobs i).source).sendable = true) {s : WriteStage} {isThere : Bool}
    (hs : given (jobs i).id = none ∧ s = .opened ∧ isThere = false ∨
      (given (jobs i).id).isSome = true ∧ s = .asked isThere) :
    (conduct trusts jobs).Keeps i s
      (writeDocument e (jobs i).index (.ofOption (jobs i).id) isThere (jobs i).source)
      (fun s r => r.isSuccess = true ∧ ∃ v t, r.json = .ok v ∧ v.itemAt "_id" = .ok (.str t) ∧
        s = .wrote isThere t) (fun _ _ => False) := by
  have hgiven : isThere = true → (given (jobs i).id).isSome = true := by
    rintro rfl
    rcases hs with ⟨-, -, hno⟩ | ⟨hg, -⟩
    · cases hno
    · exact hg
  obtain ⟨verb, segments, payload, hverb, hanchored, hcall, hcases⟩ :=
    writeDocument_eq e (jobs i).index (jobs i).source hgiven
  obtain ⟨⟨url, htarget⟩, hpayload⟩ :
      Allows e (jobs i).index segments ∧ payload.isSendable = true := by
    rcases hcases with ⟨-, rfl, t, hg, rfl⟩ | ⟨-, rfl, rfl⟩
    · refine ⟨h.update t hg, ?_⟩
      simpa [Payload.isSendable, Json.sendable, Json.every, Json.everyMember, Json.everyIn]
        using hsend
    · exact ⟨h.create, hsend⟩
  rw [hcall]
  refine .call_answered h.isEngine htarget (by decide) hpayload fun r hr w hw hf => ?_
  have hsegments := segments_of_sends h.leads hanchored hr
  obtain ⟨t, hid, hstep⟩ : ∃ t, Engine.idOf? (w.engine.answer r).1 = some (.str t) ∧
      WriteStep (jobs i) s w (.wrote isThere t)
        { w with engine := (w.engine.answer r).2, sent := w.sent ++ [r] } := by
    rcases hcases with ⟨rfl, rfl, t, hg, rfl⟩ | ⟨rfl, rfl, rfl⟩
    · obtain ⟨-, -, hno⟩ | ⟨-, rfl⟩ := hs
      · cases hno
      obtain ⟨d, hd⟩ := Option.isSome_iff_exists.1 (hf.found rfl t hg)
      obtain ⟨h1, h2⟩ := h.no_step t hg
      rw [foldl_segment isWord_update h1 h2, meanings_segment isWord_update] at hsegments
      obtain ⟨hid, hengine⟩ := Engine.answer_overlay hf.failing hsegments hr.payload hd
      have hupdate : r.isUpdate = true := (Request.isUpdate_of_within hsegments).trans (by decide)
      exact ⟨t, hid, .overlays r hg hd hengine (World.updates_of_update hupdate)⟩
    · have hwhole : Engine.segments r.path =
          (jobs i).index :: "_doc" :: (given (jobs i).id).toList := by
        rcases hg : given (jobs i).id with _ | t
        · rw [hsegments, hg]
          exact congrArg (_ :: ·) ((congrArg meanings (foldl_word isWord_doc)).trans
            (meanings_word isWord_doc))
        · obtain ⟨h1, h2⟩ := h.no_step t hg
          rw [hsegments, hg]
          exact congrArg (_ :: ·) ((congrArg meanings (foldl_segment isWord_doc h1 h2)).trans
            (meanings_segment isWord_doc t))
      obtain ⟨hid, hengine⟩ := Engine.answer_store hf.failing (hr.verb ▸ hverb) hwhole hr.payload
      have hnot := w.updates_of_not (w.engine.answer r).2
        ((Request.isUpdate_of_within hwhole).trans (by decide))
      refine ⟨_, hid, ?_⟩
      obtain ⟨hg, rfl, -⟩ | ⟨hg, rfl⟩ := hs
      · rw [hg] at hengine ⊢
        exact .numbers hg hengine hnot
      · obtain ⟨t, hg⟩ := Option.isSome_iff_exists.1 hg
        rw [hg] at hengine ⊢
        exact .stores hg hengine hnot
  obtain ⟨resp, v, hresp, hsuccess, hjson, hitem⟩ :=
    Engine.success_of_written (hr.verb ▸ hverb) hid
  have hlater : WriteFact trusts (jobs i) (.wrote isThere t)
      { w with engine := (w.engine.answer r).2, sent := w.sent ++ [r] } := by
    refine ⟨(Engine.failing_answer ..).trans hf.failing, fun _ ht => ?_, fun h => by cases h⟩
    refine Engine.has_answer (hf.opened ?_ ht) r
    rcases hs with ⟨-, rfl, -⟩ | ⟨-, rfl⟩ <;> simp
  exact ⟨resp, _, hresp, hstep, hlater, hsuccess, v, t, hjson, hitem, rfl⟩

/-- A write goes through its stages to the end, whatever others do. -/
theorem keeps_writing (h : Admits e (jobs i).index (jobs i).index (jobs i).id)
    (hsend : (Json.obj (jobs i).source).sendable = true) :
    (conduct trusts jobs).Keeps i .begun
      (MetadataIndex.writing e (jobs i).index (.ofOption (jobs i).id) (jobs i).source true)
      (fun s v => ∃ found t, s = .wrote found t ∧ v = .str t) (fun _ _ => False) := by
  unfold MetadataIndex.writing
  refine .bind (keeps_createIfMissing h) fun s _ hs => ?_
  subst hs
  refine .bind (keeps_documentExists h) fun s isThere hs => ?_
  simp only [Bool.not_true, Bool.false_eq_true, if_false]
  refine .bind (keeps_writeDocument h hsend hs) ?_
  rintro _ r ⟨hsuccess, v, t, hjson, hitem, rfl⟩
  refine .check_bind (fun hno => ?_) fun _ => .ofRead_bind (fun _ hno => ?_) fun v' hv' =>
    .ofRead_bind (fun _ hno => ?_) fun t' ht' => ?_
  · rw [hsuccess] at hno
    cases hno
  · rw [hjson] at hno
    cases hno
  · rw [hjson] at hv'
    cases hv'
    rw [hitem] at hno
    cases hno
  rw [hjson] at hv'
  cases hv'
  rw [hitem] at ht'
  cases ht'
  obtain ⟨url, ht⟩ := h.refresh
  rw [show "/" ++ (jobs i).index ++ "/_refresh" = reference (jobs i).index ["_refresh".toList] from
    path_word_eq (jobs i).index "_refresh"]
  refine .bind (m := fun s r => s = .wrote isThere t ∧ r.isSuccess = true)
    (.call_answered h.isEngine ht (by decide) rfl fun r hr w hw hf => ?_) ?_
  · have hs := segments_of_sends h.leads (anchored_word isWord_refresh) hr
    rw [foldl_word isWord_refresh, meanings_word isWord_refresh] at hs
    have hrests := rests_of_idle (w := w) (Engine.idle_of_refresh hr.verb (.inr hs))
      ((Request.isUpdate_of_within hs).trans (by decide))
    refine ⟨⟨200, .json (.obj [("_shards", .obj [("failed", .int 0)])])⟩, _, ?_, .rests _ hrests,
      hf.of_rests hrests, rfl, rfl⟩
    rw [Engine.answer_within hf.failing hs (by decide)]
    rfl
  · rintro _ r ⟨rfl, hr⟩
    refine .check_bind (fun hno => ?_) fun _ => .pure ⟨isThere, t, rfl, rfl⟩
    rw [hr] at hno
    cases hno

end Writes

/-! ## Calls -/

/-- A call to write a document, in the process of a number. -/
structure IndexWrite where
  process : Nat
  index : String
  id : Option String
  hash : String
  contentType : Option String
  fields : Option (List IndexField)

namespace IndexWrite

/-- The call, with the number of its process. -/
def call (c : IndexWrite) : Nat × IndexCall :=
  (c.process, .write (.str c.index) (.ofOption c.id) (.str c.hash) (.ofOption c.contentType)
    c.fields)

/-- The index that the call names, as the engine has it. -/
def place (c : IndexWrite) : String := Text.lower c.index

/-- The document that the call writes. -/
def source (settings : Nat → Settings) (c : IndexWrite) : Document :=
  document (settings c.process).fillAbsent (.str c.hash) (.ofOption c.contentType) c.fields

/-- What the call writes, and where. -/
def job (settings : Nat → Settings) (c : IndexWrite) : WriteJob := ⟨c.place, c.id, c.source settings⟩

/-- The call can be carried out: it has a hash, its index a plain name, every path of it fits, and
its values have a written form. -/
structure IsFeasible (c : IndexWrite) : Prop where
  plain : IsPlainName c.index
  hash : c.hash ≠ ""
  no_step : ∀ t, given c.id = some t → t ≠ "." ∧ t ≠ ".."
  fits : ∀ path ∈ writePaths c.place c.id, fits path = true
  fields : ∀ f ∈ c.fields.getD [], f.writable = true ∧ f.value.sendable = true

instance (c : IndexWrite) : Decidable c.IsFeasible :=
  decidable_of_iff (IsPlainName c.index ∧ c.hash ≠ "" ∧
      (∀ t ∈ given c.id, t ≠ "." ∧ t ≠ "..") ∧ (∀ path ∈ writePaths c.place c.id, fits path = true) ∧
      ∀ f ∈ c.fields.getD [], f.writable = true ∧ f.value.sendable = true)
    ⟨fun ⟨hn, hh, hi, hp, hf⟩ => ⟨hn, hh, hi, hp, hf⟩,
      fun h => ⟨h.plain, h.hash, h.no_step, h.fits, h.fields⟩⟩

theorem IsFeasible.sendable {c : IndexWrite} (h : c.IsFeasible) (settings : Nat → Settings) :
    (Json.obj (c.source settings)).sendable = true := by
  refine Json.everyMember_of_forall fun m hm => ?_
  rcases Entries.mem_putAll hm with hm | hm
  · simp only [List.mem_cons, List.not_mem_nil, or_false] at hm
    rcases hm with rfl | rfl
    · rfl
    · cases c.contentType <;> rfl
  · obtain ⟨f, hf, rfl⟩ := List.mem_map.1 hm
    exact sendable_fillAbsent _ (h.fields f hf).2

/-- A call goes through the stages of a write, and it succeeds. -/
theorem follows_perform {settings : Nat → Settings} (hs : ∀ p, (settings p).HostsAreRoots)
    {trusts : String → Prop} {jobs : Nat → WriteJob} {i : Nat} {c : IndexWrite} (h : c.IsFeasible)
    (hjob : jobs i = c.job settings) :
    (Writes.conduct trusts jobs).Follows i
      (fun s o => ∃ found t, s = .wrote found t ∧ o = .value (.str t))
      (c.call.2.perform (remote (settings c.process))) .begun := by
  obtain ⟨e, he, -⟩ := hs c.process .engine
  have hadmits : Admits e (jobs i).index (jobs i).index (jobs i).id := by
    rw [hjob]
    exact admits_of_plain ((hs c.process).isEngine he) h.plain.lower h.no_step h.fits
  have hsend : (Json.obj (jobs i).source).sendable = true := by
    rw [hjob]
    exact h.sendable settings
  have hwriting : (Writes.conduct trusts jobs).Keeps i .begun _ _ _ :=
    Writes.keeps_writing hadmits hsend
  rw [hjob] at hwriting
  have hwritable : (c.fields.getD []).all (·.writable) = true :=
    List.all_eq_true.2 fun f hf => (h.fields f hf).1
  have hnamed : ∀ {t name : String} {f : Unit → Action Json}, t ≠ "" →
      (Writes.conduct trusts jobs).Keeps i .begun (f ())
        (fun s v => ∃ found t, s = .wrote found t ∧ v = .str t) (fun _ _ => False) →
      (Writes.conduct trusts jobs).Keeps i .begun (Action.require (.str t) name >>= f)
        (fun s v => ∃ found t, s = .wrote found t ∧ v = .str t) (fun _ _ => False) := by
    intro t name f ht hf
    refine .bind (m := fun s _ => s = .begun) (.require (fun hb => ?_) fun _ => rfl)
      fun _ _ hstage => hstage ▸ hf
    rw [isBlank_str ht] at hb
    cases hb
  have hkeeps : (Writes.conduct trusts jobs).Keeps i .begun
      (remoteWrite (settings c.process) (.str c.index) (.ofOption c.id) (.str c.hash)
        (.ofOption c.contentType) c.fields)
      (fun s v => ∃ found t, s = .wrote found t ∧ v = .str t) (fun _ _ => False) := by
    refine hnamed h.plain.ne_empty (hnamed h.hash ?_)
    show (Writes.conduct trusts jobs).Keeps i .begun
      (connected (settings c.process) .engine >>= fun e => _) _ _
    refine .connected_bind he (fun w _ _ => .rests _ (.refl w)) (.guarded ?_)
    rw [hwritable]
    exact hwriting.mono (fun _ _ h => h) fun _ _ h => h.elim
  refine hkeeps.follows.bind fun s result hr => ?_
  cases result with
  | ok v =>
    obtain ⟨found, t, rfl, rfl⟩ := hr
    exact ⟨found, t, rfl, rfl⟩
  | error f => exact hr.elim

/-- What each of the calls writes, by its number. -/
def jobs (settings : Nat → Settings) (calls : List IndexWrite) (i : Nat) : WriteJob :=
  match calls[i]? with
  | some c => c.job settings
  | none => ⟨"", none, []⟩

theorem jobs_of_getElem? {settings : Nat → Settings} {calls : List IndexWrite} {i : Nat}
    {c : IndexWrite} (h : calls[i]? = some c) : jobs settings calls i = c.job settings := by
  rw [jobs, h]

/-- Calls that begin at once conduct themselves as writes do. -/
theorem agrees {settings : Nat → Settings} (hs : ∀ p, (settings p).HostsAreRoots)
    {contexts : Nat → Context} {world : World} (hw : world.Live)
    (hf : world.engine.failing = none) {trusts : String → Prop} {calls : List IndexWrite}
    (hsound : ∀ p, (Writes.conduct trusts (jobs settings calls)).Sound (contexts p).mapped world)
    (hcalls : ∀ c ∈ calls, c.IsFeasible) :
    (Writes.conduct trusts (jobs settings calls)).Agrees
      (fun _ s o => ∃ found t, s = .wrote found t ∧ o = .value (.str t))
      (Crowd.ofCalls settings contexts world (calls.map call)) fun _ => .begun := by
  refine ⟨hw, hsound, fun i p x _ => ⟨hf, fun h => absurd rfl h, fun h => by cases h⟩,
    fun i p x hx => ?_⟩
  rw [Crowd.ofCalls, List.getElem?_map, List.getElem?_map, Option.map_map,
    Option.map_eq_some_iff] at hx
  obtain ⟨c, hc, hx⟩ := hx
  cases hx
  exact follows_perform hs (hcalls c (List.mem_of_getElem? hc)) (jobs_of_getElem? hc)

end IndexWrite

/-! ## How long a write goes on -/

namespace Writes

theorem within_createIfMissing (e : Endpoint) (name : String) :
    Within 5 (createIfMissing e name true).run := by
  unfold createIfMissing
  refine .context_andThen (n := 4) fun c => ?_
  split
  · exact .mono (.pure ()) (by decide)
  refine .andThen (m := 1) (n := 3) (.call ..) fun r => ?_
  split
  · exact .mono (.modify _) (by decide)
  refine .andThen (m := 1) (n := 2) (.call ..) fun r => ?_
  refine .andThen (m := 0) (n := 2) (.ofRead _) fun known => ?_
  split
  · exact .mono (.modify _) (by decide)
  · exact .andThen (m := 0) (n := 2) (.check r) fun _ =>
      .andThen (m := 1) (n := 1) (.modify _) fun _ => .modify _

theorem within_documentExists (e : Endpoint) (name : String) (id : Json) :
    Within 1 (documentExists e name id).run := by
  unfold documentExists
  split
  · exact .mono (.pure _) (by decide)
  refine .andThen (m := 1) (n := 0) (.call ..) fun r => ?_
  split
  · exact .pure _
  · exact .andThen (m := 0) (n := 0) (.check r) fun _ => .andThen (m := 0) (n := 0) (.ofRead _)
      fun _ => .andThen (m := 0) (n := 0) (.ofRead _) fun _ => .pure _

theorem within_writing (e : Endpoint) (name : String) (id : Json) (source : Entries Json)
    (writable : Bool) : Within 8 (MetadataIndex.writing e name id source writable).run := by
  unfold MetadataIndex.writing
  refine .andThen (m := 5) (n := 3) (within_createIfMissing e name) fun _ => ?_
  refine .andThen (m := 1) (n := 2) (within_documentExists e name id) fun isThere => ?_
  cases writable with
  | false => exact .mono (.throw _) (Nat.zero_le _)
  | true =>
    refine .andThen (m := 1) (n := 1) ?_ fun r => ?_
    · unfold writeDocument
      split
      · exact .call ..
      · split <;> exact .call ..
    · exact .andThen (m := 0) (n := 1) (.check r) fun _ => .andThen (m := 0) (n := 1) (.ofRead _)
        fun _ => .andThen (m := 0) (n := 1) (.ofRead _) fun _ =>
          .andThen (m := 1) (n := 0) (.call ..) fun r => .andThen (m := 0) (n := 0) (.check r)
            fun _ => .pure _

end Writes

/-- As many turns as a write needs. -/
def writeTurns : Nat := 12

/-- A call to write has come to its end after a number of turns, whatever it is answered. -/
theorem IndexWrite.within_perform (c : IndexWrite) (s : Settings) :
    (c.call.2.perform (remote s)).Within writeTurns := by
  refine .bind (m := 12) (n := 0) ?_ fun result => by cases result <;> trivial
  refine .andThen (m := 0) (n := 12) (.require ..) fun _ => .andThen (m := 0) (n := 12)
    (.require ..) fun _ => ?_
  refine .andThen (m := 0) (n := 12) (.pure _) fun name => .andThen (m := 3) (n := 9)
    (.connected _ _) fun e => .guarded (m := 8) (n := 1) (Writes.within_writing _ _ _ _ _) fun t => ?_
  exact .andThen (m := 1) (n := 0) (.modify _) fun _ => by cases t <;> trivial

/-- A call carried out while no other is. -/
def IndexWrite.alone (settings : Nat → Settings) (contexts : Nat → Context) (world : World)
    (c : IndexWrite) : Crowd Outcome :=
  (Crowd.ofCalls settings contexts world [c.call]).run (List.replicate writeTurns 0)

/-- A call has ended when it has had its turns. -/
theorem IndexWrite.ended_of_turns {settings : Nat → Settings} {contexts : Nat → Context}
    {world : World} (calls : List IndexWrite) {schedule : List Nat} {i : Nat}
    (hi : i < calls.length) (hturns : writeTurns ≤ schedule.count i) :
    (((Crowd.ofCalls settings contexts world (calls.map call)).run schedule).result? i).isSome =
      true := by
  have htalk : (Crowd.ofCalls settings contexts world (calls.map call)).talks[i]? =
      some (calls[i].process, calls[i].call.2.perform (remote (settings calls[i].process))) := by
    rw [Crowd.ofCalls, List.getElem?_map, List.getElem?_map, List.getElem?_eq_getElem hi]
    rfl
  obtain ⟨o, ho⟩ := Crowd.ended_of_turns htalk (within_perform _ _) hturns
  rw [ho]
  rfl

end ContentDepot
