import ContentDepot.Proofs.Session.Stages
import ContentDepot.Proofs.Session.Unaware

/-!
# One write, in order

A write asks at most five things, in one order: whether the index is there, that it
be created, whether the document is there, the write itself, and that it be made
visible (`DocumentWrite.plan`). The first two are left out where the index is known to
carry the mapping, the second also where it is there, and the third without an
identifier:

* `always_creation`, `always_documentExists`, `always_upserting`: each part of the talk
  follows its stages;
* `plan_unique`: a traffic goes through at most one plan;
* `remoteWrite_same`: a call is the talk for an index that the context knows, or does not know;
* `one_write_in_order`: whatever is answered, a write follows the plan, and it gives an
  identifier exactly if it goes through it.
-/

namespace ContentDepot

open Exchange Search

/-- What a write is about, as it is sent. -/
structure DocumentWrite where
  index : String
  id : Json
  source : Entries Json
  /-- Whether all values have a written form. -/
  writable : Bool

namespace DocumentWrite

/-- The write of a call. -/
def ofCall (s : Settings) (index : String) (id hash contentType : Json)
    (fields : Option (List IndexField)) : DocumentWrite where
  index := Text.lower index
  id := id
  source := MetadataIndex.document s.fillAbsent hash contentType fields
  writable := (fields.getD []).all (·.writable)

/-! ## The plan -/

/-- Whether the index is there now: it was created, or is said to be there. -/
def IsCreated (r : Response) : Prop :=
  r.isSuccess = true ∨
    r.status = 400 ∧ errorType r = .ok (.str "resource_already_exists_exception")

/-- Whether the response tells that the document is there, or that it is not. -/
def Tells (isThere : Bool) (r : Response) : Prop :=
  r.status = 404 ∧ isThere = false ∨
    r.status ≠ 404 ∧ r.isSuccess = true ∧ ∃ members, r.json = .ok (.obj members) ∧
      ((Entries.get? members "found").getD .null).truthy = isThere

/-- Whether the response reports the identifier of the document that was written. -/
def Reports (written : Json) (r : Response) : Prop :=
  r.isSuccess = true ∧ ∃ members, r.json = .ok (.obj members) ∧
    Entries.get? members "_id" = some written

variable (i : DocumentWrite)

/-- Whether the index is there. -/
def head : Ask := ⟨.head, "/" ++ i.index, [], .empty, true⟩

/-- The creation of the index. -/
def put : Ask := ⟨.put, "/" ++ i.index, [], .json MetadataIndex.reservedKeysMapping, true⟩

/-- Whether the document is there. -/
def get : Ask :=
  ⟨.get, "/" ++ i.index ++ "/_doc/" ++ MetadataIndex.segment i.id,
    [("realtime", "true"), ("refresh", "true"), ("_source", "false")], .empty, true⟩

/-- The one write. -/
def write (isThere : Bool) : Ask :=
  let segment := MetadataIndex.segment i.id
  match i.id.truthy, isThere with
  | true, true => ⟨.post, "/" ++ i.index ++ "/_update/" ++ segment, [],
      .json (.obj [("doc", .obj i.source)]), i.writable⟩
  | true, false => ⟨.put, "/" ++ i.index ++ "/_doc/" ++ segment, [], .json (.obj i.source),
      i.writable⟩
  | false, _ => ⟨.post, "/" ++ i.index ++ "/_doc", [], .json (.obj i.source), i.writable⟩

/-- What makes the write visible. -/
def refresh : Ask := ⟨.post, "/" ++ i.index ++ "/_refresh", [], .empty, true⟩

/-- The stages in which the index is created unless it is known to carry the mapping. -/
def creation (known created : Bool) : List Stage :=
  match known, created with
  | true, _ => []
  | false, false => [⟨i.head, fun r => r.status = 200⟩]
  | false, true => [⟨i.head, fun r => r.status ≠ 200⟩, ⟨i.put, IsCreated⟩]

/-- The stage in which the document is asked for; without an identifier there is none. -/
def lookup (isThere : Bool) : List Stage :=
  if i.id.truthy then [⟨i.get, Tells isThere⟩] else []

/-- The stages of the one write. -/
def writing (isThere : Bool) (written : Json) : List Stage :=
  [⟨i.write isThere, Reports written⟩, ⟨i.refresh, fun r => r.isSuccess = true⟩]

/-- All that a write asks, in order. -/
def plan (known created isThere : Bool) (written : Json) : List Stage :=
  i.creation known created ++ i.lookup isThere ++ i.writing isThere written

/-- What is asked at a stage of the plan. -/
inductive IsPart (isThere : Bool) : Ask → Prop
  | head : IsPart isThere i.head
  | put : IsPart isThere i.put
  | get : IsPart isThere i.get
  | write : IsPart isThere (i.write isThere)
  | refresh : IsPart isThere i.refresh

theorem isPart_of_mem_plan {known created isThere : Bool} {written : Json} {stage : Stage}
    (h : stage ∈ i.plan known created isThere written) : i.IsPart isThere stage.ask := by
  simp only [plan, List.mem_append] at h
  rcases h with (h | h) | h
  · cases known <;> cases created
    · cases List.mem_singleton.1 h
      exact .head
    · simp only [creation, List.mem_cons, List.not_mem_nil, or_false] at h
      rcases h with rfl | rfl
      · exact .head
      · exact .put
    all_goals cases h
  · unfold lookup at h
    split at h
    · cases List.mem_singleton.1 h
      exact .get
    · cases h
  · simp only [writing, List.mem_cons, List.not_mem_nil, or_false] at h
    rcases h with rfl | rfl
    · exact .write
    · exact .refresh

/-! ## Each part of the talk follows its stages -/

variable {i} {e : Endpoint} {before : List Stage} {t : Traffic}

theorem isCreated_of_alreadyExists {r : Response} (h : MetadataIndex.alreadyExists r = .ok true) :
    IsCreated r := by
  unfold MetadataIndex.alreadyExists at h
  split at h
  · rename_i hstatus
    rcases ht : errorType r with cause | type <;> rw [ht] at h
    · cases h
    · refine .inr ⟨hstatus, ht.trans ?_⟩
      rw [beq_iff_eq.1 (Except.ok.inj h)]
  · cases h

/-- A response that neither is a success nor says that the index is there. -/
theorem not_isCreated {r : Response} (hs : r.isSuccess = false)
    (h : MetadataIndex.alreadyExists r ≠ .ok true) : ¬ IsCreated r := by
  rintro (hs' | ⟨hstatus, htype⟩)
  · rw [hs] at hs'
    cases hs'
  · refine h ?_
    simp [MetadataIndex.alreadyExists, hstatus, htype, Except.map]

theorem isSuccess_of_alreadyExists_error {r : Response} {cause : Cause}
    (h : MetadataIndex.alreadyExists r = .error cause) : r.isSuccess = false := by
  unfold MetadataIndex.alreadyExists at h
  split at h
  · rename_i hstatus
    rw [Response.isSuccess, hstatus]
    rfl
  · cases h

/-- The creation of an index that is not known to carry the mapping. -/
theorem always_createIfMissing (i : DocumentWrite) :
    Always [] (MetadataIndex.createIfMissing e i.index false)
      (fun _ t => ∃ created, Through e (i.creation false created) t)
      fun _ t => ∃ created, ∀ rest, Follows e (i.creation false created ++ rest) t false := by
  unfold MetadataIndex.createIfMissing
  refine .context_bind fun c => ?_
  rw [Bool.false_and, if_neg Bool.false_ne_true]
  refine .bind (Always.asked (a := i.head) .nil rfl
    |>.mono (fun _ _ h => h) fun _ t h => ⟨false, fun rest => h _ rest⟩) fun r t hhead => ?_
  split
  · rename_i hstatus
    exact .modify ⟨false, hhead.goesOn _ hstatus⟩
  rename_i hstatus
  refine .bind (Always.asked (hhead.goesOn (fun r => r.status ≠ 200) hstatus)
    (a := i.put) rfl
    |>.mono (fun _ _ h => h) fun _ t h => ⟨true, fun rest => h _ rest⟩) fun r t hput => ?_
  have hstops : ¬ IsCreated r → ∃ created, ∀ rest,
      Follows e (i.creation false created ++ rest) t false :=
    fun hr => ⟨true, fun rest => hput.stops _ rest hr⟩
  have hgoesOn : IsCreated r → ∃ created, Through e (i.creation false created) t :=
    fun hr => ⟨true, hput.goesOn _ hr⟩
  refine .ofRead_bind (fun cause hc => ?_) fun known hknown => ?_
  · exact hstops (not_isCreated (isSuccess_of_alreadyExists_error hc)
      (by rw [hc]; exact fun h => nomatch h))
  cases known with
  | true => exact .modify (hgoesOn (isCreated_of_alreadyExists hknown))
  | false =>
    refine .check_bind (fun hs => ?_) fun hs => .emit_bind (.modify (hgoesOn (.inl hs)))
    have hnot := hstops (not_isCreated hs (by rw [hknown]; exact fun h => nomatch h))
    exact ⟨fun _ => hnot, fun _ => hnot⟩

/-- The question whether the document is there. -/
theorem always_documentExists (i : DocumentWrite) (ht : Through e before t) :
    Always t (MetadataIndex.documentExists e i.index i.id)
      (fun isThere t => (isThere = true → i.id.truthy = true) ∧
        Through e (before ++ i.lookup isThere) t)
      fun _ t => ∃ isThere, ∀ rest, Follows e (before ++ (i.lookup isThere ++ rest)) t false := by
  unfold MetadataIndex.documentExists lookup
  cases hid : i.id.truthy with
  | false =>
    refine .pure ⟨fun h => (by cases h), ?_⟩
    rw [if_neg Bool.false_ne_true, List.append_nil]
    exact ht
  | true =>
    simp only [Bool.not_true, Bool.false_eq_true, if_false, if_true]
    refine .bind (Always.asked ht (a := i.get) rfl
      |>.mono (fun _ _ h => h) fun _ t h => ⟨false, fun rest => h _ rest⟩) fun r t hget => ?_
    split
    · rename_i hstatus
      exact .pure ⟨fun _ => trivial, hget.goesOn _ (.inl ⟨hstatus, rfl⟩)⟩
    rename_i hstatus
    have hstops : (¬ ∃ members, r.isSuccess = true ∧ r.json = .ok (.obj members)) →
        ∃ isThere, ∀ rest, Follows e (before ++ (([⟨i.get, Tells isThere⟩] : List Stage) ++ rest)) t
          false := by
      refine fun hr => ⟨false, fun rest => hget.stops _ rest ?_⟩
      rintro (⟨h, -⟩ | ⟨-, hs, members, hj, -⟩)
      · exact hstatus h
      · exact hr ⟨members, hs, hj⟩
    refine .check_bind (fun hs => ?_) fun hs => ?_
    · have hnot := hstops (by rintro ⟨_, h, -⟩; rw [hs] at h; cases h)
      exact ⟨fun _ => hnot, fun _ => hnot⟩
    refine .ofRead_bind (fun cause hc => hstops ?_) fun answer hj => ?_
    · rintro ⟨_, -, h⟩
      rw [hc] at h
      cases h
    refine .ofRead_bind (fun cause hc => hstops ?_) fun found hfound => ?_
    · rintro ⟨members, -, h⟩
      rw [hj] at h
      cases h
      cases hc
    cases answer with
    | obj members =>
      cases hfound
      exact .pure ⟨fun _ => trivial, hget.goesOn _ (.inr ⟨hstatus, hs, members, hj, rfl⟩)⟩
    | _ => cases hfound

/-- The one write is what is asked where the document is there, and where it is not. -/
theorem writeDocument_eq {isThere : Bool} (h : isThere = true → i.id.truthy = true) :
    MetadataIndex.writeDocument e i.index i.id isThere i.source =
      e.call (i.write isThere).verb (i.write isThere).path (i.write isThere).query
        (i.write isThere).payload := by
  unfold MetadataIndex.writeDocument write
  cases isThere with
  | true =>
    rw [h rfl]
    rfl
  | false => cases i.id.truthy <;> rfl

theorem hasForm_write (i : DocumentWrite) (isThere : Bool) :
    (i.write isThere).hasForm = i.writable := by
  unfold write
  cases i.id.truthy <;> cases isThere <;> rfl

theorem reports_of_itemAt {r : Response} {answer written : Json} (hs : r.isSuccess = true)
    (hj : r.json = .ok answer) (h : answer.itemAt "_id" = .ok written) : Reports written r := by
  cases answer with
  | obj members =>
    refine ⟨hs, members, hj, ?_⟩
    rcases hm : Entries.get? members "_id" with _ | v <;> simp only [Json.itemAt, hm] at h
    · cases h
    · cases h
      rfl
  | _ => cases h

theorem itemAt_of_reports {r : Response} {answer written : Json} (h : Reports written r)
    (hj : r.json = .ok answer) : answer.itemAt "_id" = .ok written := by
  obtain ⟨-, members, hm, hid⟩ := h
  cases hj.symm.trans hm
  rw [Json.itemAt, hid]

/-- The write and the request that makes it visible. -/
def written (e : Endpoint) (i : DocumentWrite) (isThere : Bool) : Attempt Json := do
  if !i.writable then Attempt.fault .wrongType
  let r ← MetadataIndex.writeDocument e i.index i.id isThere i.source
  check r
  let answer ← Attempt.ofRead r.json
  let written ← Attempt.ofRead (answer.itemAt "_id")
  check (← e.call .post ("/" ++ i.index ++ "/_refresh") [] .empty)
  return written

theorem always_written (ht : Through e before t) {isThere : Bool}
    (hthere : isThere = true → i.id.truthy = true) :
    Always t (written e i isThere)
      (fun written t => Through e (before ++ i.writing isThere written) t)
      fun _ t => ∃ written, Follows e (before ++ i.writing isThere written) t false := by
  unfold written
  cases hw : i.writable with
  | false =>
    refine .throw_bind ⟨.null, .unsent_after ht ?_⟩
    rintro r ⟨url, hm⟩
    have hform := hm.hasForm
    rw [hasForm_write, hw] at hform
    cases hform
  | true =>
  simp only [Bool.not_true, Bool.false_eq_true, if_false]
  rw [writeDocument_eq hthere]
  refine .bind (Always.asked ht ((hasForm_write i isThere).trans hw)
    |>.mono (fun _ _ h => h) fun _ t h => ⟨.null, h _ _⟩) fun r t hwrite => ?_
  have hstops : (∀ written, ¬ Reports written r) →
      ∃ written, Follows e (before ++ i.writing isThere written) t false :=
    fun hr => ⟨.null, hwrite.stops _ _ (hr .null)⟩
  refine .check_bind (fun hs => ?_) fun hs => ?_
  · have hnot := hstops fun _ h => by
      have := h.1
      rw [hs] at this
      cases this
    exact ⟨fun _ => hnot, fun _ => hnot⟩
  refine .ofRead_bind (fun cause hc => hstops ?_) fun answer hj => ?_
  · rintro written ⟨-, members, hm, -⟩
    rw [hc] at hm
    cases hm
  refine .ofRead_bind (fun cause hc => hstops fun written h => ?_) fun written hid => ?_
  · rw [itemAt_of_reports h hj] at hc
    cases hc
  have hpassed := hwrite.goesOn _ (reports_of_itemAt hs hj hid)
  have hplan : before ++ i.writing isThere written =
      before ++ [⟨i.write isThere, Reports written⟩] ++
        [⟨i.refresh, fun r => r.isSuccess = true⟩] := by
    rw [writing, List.append_assoc]
    rfl
  refine .bind (Always.asked hpassed (a := i.refresh) rfl
    |>.mono (fun _ _ h => h) fun _ t h => ⟨written, hplan ▸ h _ []⟩) fun r t hrefresh => ?_
  refine .check_bind (fun hs => ?_) fun hs => .pure (hplan ▸ hrefresh.goesOn _ hs)
  have hnot : ∃ written, Follows e (before ++ i.writing isThere written) t false :=
    ⟨written, hplan ▸ hrefresh.stops _ [] (by rw [hs]; exact Bool.false_ne_true)⟩
  exact ⟨fun _ => hnot, fun _ => hnot⟩

/-- The creation of an index that is known to carry the mapping, or is not. -/
def created (e : Endpoint) (i : DocumentWrite) (known : Bool) : Attempt Unit :=
  if known then pure () else MetadataIndex.createIfMissing e i.index false

/-- The talk of a write for which the index is known to carry the mapping, or is not. -/
def talk (e : Endpoint) (i : DocumentWrite) (known : Bool) : Attempt Json := do
  created e i known
  let isThere ← MetadataIndex.documentExists e i.index i.id
  written e i isThere

theorem always_talk (e : Endpoint) (i : DocumentWrite) (known : Bool) :
    Always [] (talk e i known)
      (fun written t => ∃ created isThere, Through e (i.plan known created isThere written) t)
      fun _ t => ∃ created isThere written,
        Follows e (i.plan known created isThere written) t false := by
  unfold talk plan
  refine .bind (m := fun _ t => ∃ created, Through e (i.creation known created) t) ?_ ?_
  · cases known with
    | true => exact .pure ⟨false, .nil⟩
    | false =>
      refine (always_createIfMissing i).mono (fun _ _ h => h) ?_
      rintro - t ⟨created, h⟩
      refine ⟨created, false, .null, ?_⟩
      rw [List.append_assoc]
      exact h _
  rintro - t ⟨created, ht⟩
  refine .bind ((always_documentExists i ht).mono (fun _ _ h => h) ?_) ?_
  · rintro - t ⟨isThere, h⟩
    refine ⟨created, isThere, .null, ?_⟩
    rw [List.append_assoc]
    exact h _
  rintro isThere t ⟨hthere, ht⟩
  exact (always_written ht hthere).mono (fun _ _ h => ⟨created, isThere, h⟩)
    fun _ _ ⟨w, h⟩ => ⟨created, isThere, w, h⟩

/-- A talk that breaks off is a failure of the backend. -/
theorem always_guarded (e : Endpoint) (i : DocumentWrite) (known : Bool) :
    Always [] ((talk e i known).guarded
        (MetadataIndex.fail .indexingDocument "index_document_failed"))
      (fun written t => ∃ created isThere, Through e (i.plan known created isThere written) t)
      fun f t => f.IsBackend ∧ ∃ created isThere written,
        Follows e (i.plan known created isThere written) t false :=
  .guarded ((always_talk e i known).mono (fun _ _ h => h)
    fun _ _ h => .fail fun error herror => ⟨⟨error, rfl, herror⟩, h⟩)

/-! ## The talk within its context -/

section Context

variable {ω : Type} (answer : Request → ω → Reply × ω) (c : Context) (w : ω)

/-- Whether the index is created depends on whether it is known to carry the mapping. -/
theorem createIfMissing_same (e : Endpoint) (i : DocumentWrite) :
    SameFrom answer c c w (MetadataIndex.createIfMissing e i.index true).run
      (created e i (c.mapped.contains i.index)).run := by
  have hlook : ∀ F : Context → Attempt Unit,
      SameFrom answer c c w ((liftM context : Attempt Context) >>= F).run (F c).run :=
    fun F => ⟨rfl, rfl⟩
  unfold created MetadataIndex.createIfMissing
  refine (hlook _).trans ?_
  cases c.mapped.contains i.index with
  | true => exact ⟨rfl, rfl⟩
  | false =>
    rw [if_neg Bool.false_ne_true]
    refine ((hlook _).trans ?_).symm
    exact ⟨rfl, rfl⟩

theorem writing_same (e : Endpoint) (i : DocumentWrite) :
    SameFrom answer c c w (MetadataIndex.writing e i.index i.id i.source i.writable).run
      (talk e i (c.mapped.contains i.index)).run :=
  (createIfMissing_same answer c w e i).bind _

theorem require_same {α : Type} {v : Json} {name : String} (hv : v.isBlank = false)
    (f : Unit → Action α) :
    SameFrom answer c c w (Action.require v name >>= f).run (f ()).run := by
  unfold Action.require ContentDepot.require
  rw [hv, if_neg Bool.false_ne_true]
  exact ⟨rfl, rfl⟩

/-- A connection is opened, if need be, without a request, and which indices are known stays. -/
theorem connected_silent (s : Settings) (b : Backend) :
    ∃ c', c'.mapped = c.mapped ∧ run answer (connected s b).run c w = (s.endpointOf b, c', w) ∧
      traffic answer (connected s b).run c w = [] := by
  obtain ⟨c', hrun, hsame⟩ := run_connected answer s b c w
  refine ⟨c', hsame.mapped, hrun, ?_⟩
  rw [connected_eq, traffic]
  cases c.isOpen b with
  | true => rfl
  | false => cases s.endpoint? b <;> rfl

/-- A call opens the connection if need be, and then the talk begins. -/
theorem remoteWrite_same {s : Settings} {e : Endpoint} (he : s.endpoint? .engine = some e)
    {index : String} (hi : index ≠ "") {hash : Json} (hh : hash.isBlank = false)
    (id contentType : Json) (fields : Option (List IndexField)) :
    let i := ofCall s index id hash contentType fields
    ∃ c', SameFrom answer c c' w
      (MetadataIndex.remoteWrite s (.str index) id hash contentType fields).run
      ((talk e i (c.mapped.contains i.index)).guarded
        (MetadataIndex.fail .indexingDocument "index_document_failed")).run := by
  intro i
  obtain ⟨c', hmapped, hrun, htraffic⟩ := connected_silent answer c w s .engine
  rw [Settings.endpointOf, he] at hrun
  refine ⟨c', (require_same answer c w (isBlank_str hi) _).trans
    ((require_same answer c w hh _).trans ?_)⟩
  refine (SameFrom.silent_bind hrun htraffic _).trans ?_
  rw [← hmapped]
  exact (writing_same answer c' w e i).bind _

end Context

/-! ## At most one plan -/

theorem lookup_unique {isThere isThere' : Bool} {plan plan' : List Stage} {completed : Bool}
    (h : Through e (i.lookup isThere ++ plan) t) (hplan : plan ≠ [])
    (h' : Follows e (i.lookup isThere' ++ plan') t completed) :
    i.write isThere = i.write isThere' ∧
      ∃ t', Through e plan t' ∧ Follows e plan' t' completed := by
  unfold lookup at h h'
  cases hid : i.id.truthy with
  | false =>
    rw [hid, if_neg Bool.false_ne_true, List.nil_append] at h h'
    refine ⟨?_, t, h, h'⟩
    unfold write
    rw [hid]
  | true =>
    rw [hid, if_pos rfl] at h h'
    obtain ⟨t', ht, ht', r, hr, hr'⟩ := Follows.step h hplan h'
    refine ⟨?_, t', ht, ht'⟩
    rcases hr with ⟨h404, hr⟩ | ⟨hne, -, members, hj, hr⟩ <;>
      rcases hr' with ⟨h404', hr'⟩ | ⟨hne', -, members', hj', hr'⟩
    · rw [hr, hr']
    · exact absurd h404 hne'
    · exact absurd h404' hne
    · cases hj.symm.trans hj'
      rw [← hr, ← hr']

theorem creation_unique {known created created' : Bool} {plan plan' : List Stage}
    {completed : Bool} (h : Through e (i.creation known created ++ plan) t) (hplan : plan ≠ [])
    (h' : Follows e (i.creation known created' ++ plan') t completed) :
    ∃ t', Through e plan t' ∧ Follows e plan' t' completed := by
  unfold creation at h h'
  cases known with
  | true => exact ⟨t, h, h'⟩
  | false =>
    cases created <;> cases created' <;>
      obtain ⟨t', ht, ht', r, hr, hr'⟩ := Follows.step h (by simp [hplan]) h'
    · exact ⟨t', ht, ht'⟩
    · exact absurd hr hr'
    · exact absurd hr' hr
    · obtain ⟨t'', ht, ht', -⟩ := Follows.step ht hplan ht'
      exact ⟨t'', ht, ht'⟩

/-- A traffic that goes through a plan follows no other plan to another end. -/
theorem plan_unique {known created created' isThere isThere' completed : Bool}
    {written written' : Json} (h : Through e (i.plan known created isThere written) t)
    (h' : Follows e (i.plan known created' isThere' written') t completed) :
    completed = true ∧ written = written' := by
  unfold plan at h h'
  rw [List.append_assoc] at h h'
  obtain ⟨t, h, h'⟩ := creation_unique h (by simp [writing]) h'
  obtain ⟨hwrite, t, h, h'⟩ := lookup_unique h (by simp [writing]) h'
  unfold writing at h h'
  rw [← hwrite] at h'
  obtain ⟨t, h, h', r, hr, hr'⟩ := Follows.step h (by simp) h'
  obtain ⟨-, members, hj, hw⟩ := hr
  obtain ⟨-, members', hj', hw'⟩ := hr'
  cases hj.symm.trans hj'
  refine ⟨?_, Option.some.inj (hw.symm.trans hw')⟩
  cases h with
  | cons hm ht =>
    cases ht
    cases h' with
    | stopped _ hno => exact absurd hm hno
    | passed _ h' =>
      cases h'
      rfl

end DocumentWrite

/-- An engine without an index, which then creates it and the document. -/
def newlyWritten (_ : Request) (n : Nat) : Reply × Nat :=
  let responses : List Response := [⟨404, .empty⟩, ⟨200, .json (.obj [])⟩, ⟨404, .json (.obj [])⟩,
    ⟨201, .json (.obj [("_id", .str "a")])⟩, ⟨200, .json (.obj [])⟩]
  (.response (responses.getD n default), n + 1)

end ContentDepot
