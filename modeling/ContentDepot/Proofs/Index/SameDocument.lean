import ContentDepot.Proofs.Index.ConcurrentWrites

/-!
# Writes of one document that go on at once

A write asks whether its document is there, and later goes over it, or takes its
place, by the answer it had then. However the requests of several writes of one
document follow one another, it is what they have made of it in the order in which
they wrote, each with the answer it had (`Logged`, `Logged.step`). As long as each
but the first has found it, that is what they make of it one after the other; a write
that has not found it takes away what the ones before it have written.

* `document_inSuccession`: what two writes make of a document one after the other;
* `upsert_at_once`: what they make of it at once is the same as soon as one of them
  has sent an update, and as they both have if the document was there before.
-/

namespace ContentDepot

open Exchange InMemory Address Search MetadataIndex

/-- The document under an identifier. -/
def InMemory.Engine.document? (e : Engine) (index id : String) : Option Document :=
  Entries.get? (e.documents index) id

/-- What a write makes of a document: it goes over one that it has found, or takes its place. -/
def WriteJob.over (j : WriteJob) (found : Bool) (before : Option Document) : Document :=
  if found then Entries.putAll (before.getD []) j.source else j.source

/-- What writes make of a document in their order, each with whether it has found it. -/
def overwritten (jobs : Nat → WriteJob) (before : Option Document) (log : List (Nat × Bool)) :
    Option Document := log.foldl (fun d p => some ((jobs p.1).over p.2 d)) before

theorem overwritten_append (jobs : Nat → WriteJob) (before : Option Document)
    (log : List (Nat × Bool)) (p : Nat × Bool) :
    overwritten jobs before (log ++ [p]) =
      some ((jobs p.1).over p.2 (overwritten jobs before log)) := List.foldl_append

theorem isSome_overwritten {jobs : Nat → WriteJob} {before : Option Document}
    {log : List (Nat × Bool)} (h : log ≠ []) : (overwritten jobs before log).isSome = true := by
  rw [← List.dropLast_append_getLast h, overwritten_append]
  rfl

/-- So many jobs of one document have made of it what they make of it in the order of a log; what
a job was told when it asked was so at the beginning, or was so after another had written. -/
structure Logged (jobs : Nat → WriteJob) (n : Nat) (index id : String) (w : World)
    (log : List (Nat × Bool)) (stages : Nat → WriteStage) (w' : World) : Prop where
  isLog : WriteLog (fun found _ => found) n stages log
  named : ∀ i found t, stages i = .wrote found t → t = id
  document : w'.engine.document? index id = overwritten jobs (w.engine.document? index id) log
  asked : ∀ i found, stages i = .asked found →
    found = (w.engine.document? index id).isSome ∨ found = true ∧ log ≠ []
  first : ∀ p ∈ log.head?, p.2 = (w.engine.document? index id).isSome
  later : ∀ p ∈ log, p.2 = (w.engine.document? index id).isSome ∨ p.2 = true
  updates : w'.updates.length = w.updates.length + log.countP Prod.snd

namespace Logged

variable {jobs : Nat → WriteJob} {n : Nat} {index id : String} {w w' w'' : World}
  {log : List (Nat × Bool)} {stages : Nat → WriteStage} {i : Nat} {s : WriteStage} {found : Bool}

theorem begun (jobs : Nat → WriteJob) (n : Nat) (index id : String) (w : World) :
    Logged jobs n index id w [] (fun _ => .begun) w where
  isLog := .begun ..
  named _ _ _ h := by cases h
  document := rfl
  asked _ _ h := by cases h
  first _ h := by cases h
  later _ h := by cases h
  updates := rfl

/-- What a job is told now. -/
theorem told (h : Logged jobs n index id w log stages w') :
    (w'.engine.document? index id).isSome = (w.engine.document? index id).isSome ∨
      (w'.engine.document? index id).isSome = true ∧ log ≠ [] := by
  rw [h.document]
  by_cases hlog : log = []
  · subst hlog
    exact .inl rfl
  · exact .inr ⟨isSome_overwritten hlog, hlog⟩

/-- A step in which nothing is written. -/
theorem quiet (h : Logged jobs n index id w log stages w')
    (hbefore : ∀ found t, stages i ≠ .wrote found t) (hafter : ∀ found t, s ≠ .wrote found t)
    (hasked : ∀ found, s = .asked found →
      found = (w.engine.document? index id).isSome ∨ found = true ∧ log ≠ [])
    (hdocument : w''.engine.document? index id = w'.engine.document? index id)
    (hupdates : w''.updates = w'.updates) :
    Logged jobs n index id w log (Function.update stages i s) w'' where
  isLog := h.isLog.quiet hbefore hafter
  named j found t hstage := by
    by_cases hj : j = i
    · subst hj
      rw [Function.update_self] at hstage
      exact absurd hstage (hafter found t)
    · rw [Function.update_of_ne hj] at hstage
      exact h.named j found t hstage
  document := hdocument.trans h.document
  asked j found hstage := by
    by_cases hj : j = i
    · subst hj
      rw [Function.update_self] at hstage
      exact hasked found hstage
    · rw [Function.update_of_ne hj] at hstage
      exact h.asked j found hstage
  first := h.first
  later := h.later
  updates := hupdates ▸ h.updates

/-- A step in which a job writes by what it was told. -/
theorem extend (h : Logged jobs n index id w log stages w') (hi : i < n)
    (hasked : stages i = .asked found)
    (hdocument : w''.engine.document? index id =
      some ((jobs i).over found (w'.engine.document? index id)))
    (hupdates : w''.updates.length = w'.updates.length + found.toNat) :
    Logged jobs n index id w (log ++ [(i, found)]) (Function.update stages i (.wrote found id))
      w'' where
  isLog := h.isLog.extend hi (by simp [hasked]) found id
  named j f t hstage := by
    by_cases hj : j = i
    · subst hj
      rw [Function.update_self] at hstage
      cases hstage
      rfl
    · rw [Function.update_of_ne hj] at hstage
      exact h.named j f t hstage
  document := by rw [hdocument, overwritten_append, h.document]
  asked j f hstage := by
    by_cases hj : j = i
    · subst hj
      rw [Function.update_self] at hstage
      cases hstage
    · rw [Function.update_of_ne hj] at hstage
      exact (h.asked j f hstage).imp_right fun hf => ⟨hf.1, by simp⟩
  first p hp := by
    rw [List.head?_append] at hp
    rcases hlog : log.head? with _ | q
    · rw [hlog] at hp
      obtain rfl : (i, found) = p := by simpa using hp
      have hempty : log = [] := List.head?_eq_none_iff.1 hlog
      exact (h.asked i found hasked).resolve_right fun hf => hf.2 hempty
    · rw [hlog] at hp
      obtain rfl : q = p := by simpa using hp
      exact h.first _ hlog
  later p hp := by
    rcases List.mem_append.1 hp with hp | hp
    · exact h.later p hp
    · rw [List.mem_singleton.1 hp]
      exact (h.asked i found hasked).imp_right And.left
  updates := by
    rw [hupdates, h.updates, List.countP_append, Nat.add_assoc]
    cases found <;> rfl

/-- A step of a job is a step of what they make of the document together. -/
theorem step (h : Logged jobs n index id w log stages w') (hi : i < n)
    (hindex : (jobs i).index = index) (hid : given (jobs i).id = some id)
    (hstep : WriteStep (jobs i) (stages i) w' s w'') :
    ∃ added, Logged jobs n index id w (log ++ added) (Function.update stages i s) w'' := by
  subst hindex
  have hrest : ∀ {v : World}, w'.Rests v →
      v.engine.document? (jobs i).index id = w'.engine.document? (jobs i).index id := by
    intro v hr
    obtain ⟨refreshes, he⟩ := hr.engine
    rw [he]
    rfl
  have hput : ∀ {e : Engine} {d : Document}, e = w'.engine.putDocument (jobs i).index id d →
      e.document? (jobs i).index id = some d := by
    rintro _ d rfl
    rw [Engine.document?, Engine.documents_putDocument, if_pos rfl, Entries.get?_put_self]
  generalize hstage : stages i = stage at hstep
  cases hstep with
  | rests s hr =>
    refine ⟨[], ?_⟩
    rw [List.append_nil, ← hstage, Function.update_eq_self]
    exact ⟨h.isLog, h.named, (hrest hr).trans h.document, h.asked, h.first, h.later,
      hr.updates ▸ h.updates⟩
  | opens hr =>
    refine ⟨[], ?_⟩
    rw [List.append_nil]
    exact h.quiet (by simp [hstage]) (by simp) (by simp) (hrest hr) hr.updates
  | creates hno hengine hupdates =>
    refine ⟨[], ?_⟩
    rw [List.append_nil]
    refine h.quiet (by simp [hstage]) (by simp) (by simp) ?_ hupdates
    rw [hengine, Engine.document?, Engine.documents_withIndex hno, Engine.document?]
  | @asks _ _ t ht hr =>
    obtain rfl : t = id := Option.some.inj (ht.symm.trans hid)
    refine ⟨[], ?_⟩
    rw [List.append_nil]
    refine h.quiet (by simp [hstage]) (by simp) (fun found hfound => ?_) (hrest hr) hr.updates
    cases hfound
    exact h.told
  | numbers ht _ _ =>
    rw [hid] at ht
    cases ht
  | @stores _ _ t ht hengine hupdates =>
    obtain rfl : t = id := Option.some.inj (ht.symm.trans hid)
    exact ⟨_, h.extend hi hstage (hput hengine) (congrArg List.length hupdates)⟩
  | @overlays _ _ t d r ht hd hengine hupdates =>
    obtain rfl : t = id := Option.some.inj (ht.symm.trans hid)
    refine ⟨_, h.extend hi hstage ?_ ?_⟩
    · rw [hput hengine, Engine.document?, hd]
      rfl
    · rw [hupdates, List.length_append]
      rfl

end Logged

/-! ## Calls for one document -/

open IndexWrite

section Calls

variable {settings : Nat → Settings} {contexts : Nat → Context} {world : World}
  {calls : List IndexWrite} {index id : String}

/-- Calls that can be carried out, all of them for one document. -/
structure AreFor (index id : String) (calls : List IndexWrite) : Prop where
  feasible : ∀ c ∈ calls, c.IsFeasible
  place : ∀ c ∈ calls, c.place = index
  named : ∀ c ∈ calls, given c.id = some id

theorem exists_logged (hs : ∀ p, (settings p).HostsAreRoots) (hw : world.Live)
    (hf : world.engine.failing = none) (hcalls : AreFor index id calls) {schedule : List Nat}
    {after : Crowd Outcome}
    (hafter : after = (Crowd.ofCalls settings contexts world (calls.map call)).run schedule) :
    ∃ stages log, Logged (jobs settings calls) calls.length index id world log stages
        after.world ∧
      (Writes.conduct (fun _ => False) (jobs settings calls)).Agrees
        (fun _ s o => ∃ found t, s = .wrote found t ∧ o = .value (.str t)) after stages := by
  subst hafter
  have hagrees : (Writes.conduct (fun _ => False) (jobs settings calls)).Agrees _
      (Crowd.ofCalls settings contexts world (calls.map call)) fun _ => .begun :=
    agrees hs hw hf (fun _ _ _ h => h.elim) hcalls.feasible
  have hlength : (Crowd.ofCalls settings contexts world (calls.map call)).talks.length =
      calls.length := by simp [Crowd.ofCalls]
  obtain ⟨stages, ⟨log, hlogged⟩, hagrees'⟩ := hagrees.run
    (J := fun stages w => ∃ log, Logged (jobs settings calls) calls.length index id world log
      stages w)
    (fun hj hmoves => by
      obtain ⟨log, hj⟩ := hj
      cases hmoves with
      | stay => exact ⟨log, hj⟩
      | step i s w' hi _ hstep =>
        rw [hlength] at hi
        obtain ⟨c, hc, hjob⟩ : ∃ c ∈ calls, jobs settings calls i = c.job settings :=
          ⟨calls[i], List.getElem_mem hi, jobs_of_getElem? (List.getElem?_eq_getElem hi)⟩
        obtain ⟨added, hj'⟩ := hj.step hi (hjob ▸ hcalls.place c hc) (hjob ▸ hcalls.named c hc) hstep
        exact ⟨_, hj'⟩) ⟨[], .begun ..⟩ schedule
  exact ⟨stages, log, hlogged, hagrees'⟩

/-- When all have ended, each has returned the identifier, and each has written once. -/
theorem returned_of_logged {stages : Nat → WriteStage} {log : List (Nat × Bool)} {n : Nat}
    {jobs : Nat → WriteJob} {after : Crowd Outcome} {w : World}
    (hlogged : Logged jobs n index id w log stages after.world)
    (hagrees : (Writes.conduct (fun _ => False) jobs).Agrees
      (fun _ s o => ∃ found t, s = .wrote found t ∧ o = .value (.str t)) after stages)
    (hended : ∀ i, i < n → (after.result? i).isSome = true) :
    (∀ i, i < n → after.result? i = some (.value (.str id))) ∧
      (log.map Prod.fst).Perm (List.range n) := by
  constructor
  · intro i hi
    obtain ⟨o, ho⟩ := Option.isSome_iff_exists.1 (hended i hi)
    obtain ⟨found, t, hwrote, rfl⟩ := hagrees.result ho
    rw [ho, hlogged.named i found t hwrote]
  · refine hlogged.isLog.perm fun i hi => ?_
    obtain ⟨o, ho⟩ := Option.isSome_iff_exists.1 (hended i hi)
    obtain ⟨found, t, hwrote, -⟩ := hagrees.result ho
    exact ⟨found, t, hwrote⟩

/-! ## One after the other -/

/-- The backends after calls that were carried out one after the other. -/
def IndexWrite.inSuccession (settings : Nat → Settings) :
    (Nat → Context) → World → List IndexWrite → World
  | _, world, [] => world
  | contexts, world, c :: calls =>
    let left := c.alone settings contexts world
    inSuccession settings left.contexts left.world calls

/-- What a call makes of a document while no other is carried out. -/
def IndexWrite.upsert (settings : Nat → Settings) (c : IndexWrite) (before : Option Document) :
    Document := (c.job settings).over before.isSome before

theorem document_alone (contexts : Nat → Context) (hs : ∀ p, (settings p).HostsAreRoots)
    (hw : world.Live)
    (hf : world.engine.failing = none) {c : IndexWrite} (hc : c.IsFeasible)
    (hid : given c.id = some id) :
    (c.alone settings contexts world).world.Live ∧
      (c.alone settings contexts world).world.engine.failing = none ∧
      (c.alone settings contexts world).world.engine.document? c.place id =
        some (c.upsert settings (world.engine.document? c.place id)) := by
  have hcalls : AreFor c.place id [c] := by
    refine ⟨?_, ?_, ?_⟩ <;> intro c' hc' <;> obtain rfl := List.mem_singleton.1 hc'
    exacts [hc, rfl, hid]
  have hended : ((c.alone settings contexts world).result? 0).isSome = true :=
    ended_of_turns [c] Nat.zero_lt_one (by rw [List.count_replicate_self])
  have hafter : c.alone settings contexts world =
    (Crowd.ofCalls settings contexts world ([c].map call)).run (List.replicate writeTurns 0) := rfl
  generalize c.alone settings contexts world = after at hended hafter ⊢
  obtain ⟨stages, log, hlogged, hagrees⟩ := exists_logged hs hw hf hcalls hafter
  obtain ⟨-, hperm⟩ := returned_of_logged hlogged hagrees fun i hi => by
    obtain rfl : i = 0 := Nat.lt_one_iff.1 hi
    exact hended
  refine ⟨hagrees.live, ?_, ?_⟩
  · obtain ⟨o, ho⟩ := Option.isSome_iff_exists.1 hended
    obtain ⟨p, htalk⟩ := Crowd.result?_eq_some.1 ho
    exact (hagrees.fact 0 p _ htalk).failing
  · -- The log has the one call, told as things were at the beginning.
    obtain ⟨⟨i, found⟩, rfl, rfl⟩ := List.map_eq_singleton_iff.1 (List.perm_singleton.1 hperm)
    have hfound : found = (world.engine.document? c.place id).isSome := hlogged.first _ rfl
    subst hfound
    rw [hlogged.document]
    rfl

theorem document_inSuccession (hs : ∀ p, (settings p).HostsAreRoots) (hw : world.Live)
    (hf : world.engine.failing = none) (hcalls : AreFor index id calls) :
    (inSuccession settings contexts world calls).engine.document? index id =
      calls.foldl (fun d c => some (c.upsert settings d)) (world.engine.document? index id) := by
  induction calls generalizing contexts world with
  | nil => rfl
  | cons c calls ih =>
    obtain ⟨hlive, hfailing, hdocument⟩ := document_alone contexts hs hw hf
      (hcalls.feasible c (List.mem_cons_self ..)) (hcalls.named c (List.mem_cons_self ..))
    rw [hcalls.place c (List.mem_cons_self ..)] at hdocument
    have hrest : AreFor index id calls :=
      ⟨fun c hc => hcalls.feasible c (List.mem_cons_of_mem _ hc),
        fun c hc => hcalls.place c (List.mem_cons_of_mem _ hc),
        fun c hc => hcalls.named c (List.mem_cons_of_mem _ hc)⟩
    rw [inSuccession, List.foldl_cons, ← hdocument]
    exact ih hlive hfailing hrest

end Calls

/-! ## At once -/

/-- The document has every name that one of the calls writes, with a value that one of them gives
it. -/
def HoldsBoth (settings : Nat → Settings) (calls : List IndexWrite) (d : Document) : Prop :=
  ∀ c ∈ calls, ∀ name ∈ Entries.keys (c.source settings), ∃ v, Entries.get? d name = some v ∧
    ∃ c' ∈ calls, Entries.get? (c'.source settings) name = some v

section AtOnce

variable {settings : Nat → Settings} {a b : IndexWrite}

theorem nodup_source (settings : Nat → Settings) (c : IndexWrite) :
    (Entries.keys (c.source settings)).Nodup := nodup_document ..

/-- A document that two calls have made one after the other has what both write. -/
theorem holdsBoth_upsert (before : Option Document) :
    HoldsBoth settings [a, b] (b.upsert settings (some (a.upsert settings before))) := by
  have hlater : ∀ (c : IndexWrite) (d : Document) (name : String),
      Entries.get? (c.upsert settings (some d)) name =
        (Entries.get? (c.source settings) name).or (Entries.get? d name) := by
    intro c d name
    rw [← Entries.last?_of_nodup (nodup_source settings c)]
    exact Entries.get?_putAll ..
  have hfirst : ∀ {name v}, Entries.get? (a.source settings) name = some v →
      Entries.get? (a.upsert settings before) name = some v := by
    intro name v hv
    cases before with
    | none => exact hv
    | some d => rw [hlater, hv, Option.some_or]
  intro c hc name hname
  obtain ⟨v, hv⟩ := Option.isSome_iff_exists.1 ((Entries.get?_isSome (c.source settings) name).trans
    (List.contains_iff_mem.2 hname))
  simp only [hlater]
  rcases hb : Entries.get? (b.source settings) name with _ | u
  · have hca : c = a := by
      rcases List.mem_cons.1 hc with hc | hc
      · exact hc
      · rw [List.mem_singleton.1 hc, hb] at hv
        cases hv
    subst hca
    exact ⟨v, hfirst hv, c, List.mem_cons_self .., hv⟩
  · exact ⟨u, rfl, b, by simp, hb⟩

/-- Two calls for one document that go on at once: however their requests follow one another, when
both have ended they have both returned its identifier. If one of them has sent an update, the
document is what they make of it one after the other, and it has what both write. If none has, the
document was not there before, and it is as one of them has written it, without the other. -/
theorem upsert_at_once (hs : ∀ p, (settings p).HostsAreRoots) {contexts : Nat → Context}
    {world : World} (hw : world.Live) (hf : world.engine.failing = none) {index id : String}
    (hcalls : AreFor index id [a, b]) {schedule : List Nat} {after : Crowd Outcome}
    (hafter : after =
      (Crowd.ofCalls settings contexts world ([a, b].map call)).run schedule)
    (hended : ∀ i, i < 2 → (after.result? i).isSome = true) :
    (∀ i, i < 2 → after.result? i = some (.value (.str id))) ∧
    ∃ d, after.world.engine.document? index id = some d ∧
      (world.updates.length < after.world.updates.length ∧
          (∃ order, order.Perm [a, b] ∧
            (inSuccession settings contexts world order).engine.document? index id = some d) ∧
          HoldsBoth settings [a, b] d ∨
        after.world.updates.length = world.updates.length ∧
          world.engine.document? index id = none ∧ ∃ c ∈ [a, b], d = c.source settings) := by
  obtain ⟨stages, log, hlogged, hagrees⟩ := exists_logged hs hw hf hcalls hafter
  obtain ⟨hreturned, hperm⟩ := returned_of_logged hlogged hagrees hended
  refine ⟨hreturned, ?_⟩
  obtain ⟨⟨i, found⟩, ⟨j, found'⟩, rfl⟩ := List.length_eq_two.1 (by simpa using hperm.length_eq)
  have hfirst : found = (world.engine.document? index id).isSome := hlogged.first _ rfl
  have hlater : found' = (world.engine.document? index id).isSome ∨ found' = true :=
    hlogged.later (j, found') (by simp)
  have hupdates := hlogged.updates
  -- The calls in the order in which they have written.
  obtain ⟨c, c', horder, hc, hc'⟩ : ∃ c c', [c, c'].Perm [a, b] ∧
      jobs settings [a, b] i = c.job settings ∧ jobs settings [a, b] j = c'.job settings := by
    have hmem : ∀ k, k < 2 → k = i ∨ k = j := fun k hk => by
      simpa using hperm.mem_iff.2 (List.mem_range.2 hk)
    have hzero := hmem 0 (by decide)
    have hone := hmem 1 (by decide)
    have hboth : i = 0 ∧ j = 1 ∨ i = 1 ∧ j = 0 := by omega
    rcases hboth with ⟨rfl, rfl⟩ | ⟨rfl, rfl⟩
    · exact ⟨a, b, .refl _, rfl, rfl⟩
    · exact ⟨b, a, .swap .., rfl, rfl⟩
  have hdocument : after.world.engine.document? index id = some ((c'.job settings).over found'
      (some (c.upsert settings (world.engine.document? index id)))) := by
    rw [hlogged.document, upsert, ← hfirst, ← hc, ← hc']
    rfl
  refine ⟨_, hdocument, ?_⟩
  cases found' with
  | true =>
    refine .inl ⟨?_, ⟨[c, c'], horder, ?_⟩, ?_⟩
    · rw [hupdates, List.countP_cons, List.countP_cons, if_pos rfl]
      omega
    · have hpair : AreFor index id [c, c'] :=
        ⟨fun x hx => hcalls.feasible x (horder.subset hx),
          fun x hx => hcalls.place x (horder.subset hx),
          fun x hx => hcalls.named x (horder.subset hx)⟩
      rw [document_inSuccession hs hw hf hpair]
      rfl
    · intro x hx name hname
      obtain ⟨v, hv, y, hy, hyv⟩ :=
        holdsBoth_upsert (world.engine.document? index id) x (horder.symm.subset hx) name hname
      exact ⟨v, hv, y, horder.subset hy, hyv⟩
  | false =>
    have hnone : (world.engine.document? index id).isSome = false := by
      rcases hlater with h | h
      · exact h.symm
      · cases h
    refine .inr ⟨?_, by simpa using hnone, c', horder.subset (by simp), rfl⟩
    rw [hupdates, hfirst, hnone]
    rfl

end AtOnce

/-- A call that makes a document without fields. -/
def bare : IndexWrite := ⟨0, "docs", some "x", "Qm0", none, none⟩

/-- Two calls of two processes, each with a field of its own. -/
def authorAndTitle : List IndexWrite :=
  [⟨0, "docs", some "x", "Qm1", none, some [⟨"author", .str "Ann", true⟩]⟩,
    ⟨1, "Docs", some "x", "Qm2", none, some [⟨"title", .str "a", true⟩]⟩]

/-- Turns for two talks, the first of which is held up when it has asked for its document. -/
def heldUp : List Nat :=
  List.replicate 9 0 ++ List.replicate writeTurns 1 ++ List.replicate writeTurns 0

theorem areFor_authorAndTitle : AreFor "docs" "x" authorAndTitle := by
  constructor <;> decide +kernel

theorem ended_heldUp {contexts : Nat → Context} {world : World} (i : Nat) (hi : i < 2) :
    (((Crowd.ofCalls (fun _ => .standard) contexts world
      (authorAndTitle.map call)).run heldUp).result? i).isSome = true := by
  have hturns : ∀ i < 2, writeTurns ≤ heldUp.count i := by decide
  exact ended_of_turns authorAndTitle hi (hturns i hi)

/-- With the first held up, the two calls leave the fields of both in a document that was there. -/
theorem upsert_heldUp :
    ∃ d, ((Crowd.ofCalls (fun _ => .standard)
        (bare.alone (fun _ => .standard) (fun _ => .initial) (.initial true)).contexts
        (bare.alone (fun _ => .standard) (fun _ => .initial) (.initial true)).world
        (authorAndTitle.map call)).run heldUp).world.engine.document? "docs" "x" = some d ∧
      HoldsBoth (fun _ => .standard) authorAndTitle d := by
  have hroots : ∀ _ : Nat, Settings.standard.HostsAreRoots :=
    fun _ => Settings.hostsAreRoots_standard
  have hlive : (World.initial true).Live := ⟨rfl, rfl, rfl⟩
  obtain ⟨hw, hf, hdocument⟩ := document_alone (fun _ => .initial) hroots hlive rfl
    (show bare.IsFeasible by decide +kernel) (show given bare.id = some "x" from rfl)
  rw [show bare.place = "docs" by decide] at hdocument
  generalize (bare.alone _ _ _).contexts = contexts
  generalize (bare.alone _ _ _).world = world at hw hf hdocument ⊢
  generalize hafter : (Crowd.ofCalls _ contexts world (authorAndTitle.map call)).run heldUp = after
  obtain ⟨-, d, hd, h⟩ := upsert_at_once (fun _ => Settings.hostsAreRoots_standard) hw hf
    areFor_authorAndTitle hafter.symm (hafter ▸ ended_heldUp)
  rcases h with ⟨-, -, hboth⟩ | ⟨-, hnone, -⟩
  · exact ⟨d, hd, hboth⟩
  · rw [hnone] at hdocument
    cases hdocument

/-- With the first held up, the two calls leave only its field in a document that was not there, as
neither order of them does. -/
theorem lost_heldUp :
    let after := (Crowd.ofCalls (fun _ => .standard) (fun _ => .initial) (.initial true)
      (authorAndTitle.map call)).run heldUp
    let left : Document :=
      [(hashKey, .str "Qm1"), (contentTypeKey, .null), ("author", .str "Ann")]
    AreFor "docs" "x" authorAndTitle ∧
      (∀ i, i < 2 → after.result? i = some (.value (.str "x"))) ∧
      after.world.engine.document? "docs" "x" = some left ∧
      ¬ HoldsBoth (fun _ => .standard) authorAndTitle left ∧
      ∀ order ∈ [authorAndTitle, authorAndTitle.reverse],
        (inSuccession (fun _ => .standard) (fun _ => .initial) (.initial true)
          order).engine.document? "docs" "x" ≠ some left := by
  refine ⟨areFor_authorAndTitle, ?_, by decide +kernel, ?_, by decide +kernel⟩
  · have hlive : (World.initial true).Live := ⟨rfl, rfl, rfl⟩
    obtain ⟨stages, log, hlogged, hagrees⟩ := exists_logged
      (fun _ => Settings.hostsAreRoots_standard) hlive rfl areFor_authorAndTitle
      (show (Crowd.ofCalls _ (fun _ => .initial) _ _).run heldUp = _ from rfl)
    exact (returned_of_logged hlogged hagrees ended_heldUp).1
  · intro hboth
    obtain ⟨v, hv, -⟩ := hboth _ (List.mem_cons_of_mem _ (List.mem_cons_self ..)) "title"
      (by decide)
    cases hv

end ContentDepot
