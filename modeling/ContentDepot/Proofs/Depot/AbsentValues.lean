import ContentDepot.Proofs.Depot.Changes
import ContentDepot.Proofs.Index.Document
import ContentDepot.Proofs.Search.AbsentValues

/-!
# Absent values are found again

A field that a write gave as null or as the empty text holds the placeholder, and it
does so as long as no later call writes the field, whatever else is written to the
document and whichever calls fail (`Session.holdsField_step`, `Session.holdsField_run`). So the clauses that ask
for an absent value keep the document and those that exclude it do not, but a clause
that asks for one of several values keeps it only if one of them reads as the
placeholder itself (`absent_value_after_run`).
-/

namespace ContentDepot

open InMemory Address Exchange Search MetadataIndex

/-! ## A field of a document -/

/-- In an index there is a document under the identifier, whose field has the value; and the
identifier is none that the engine has yet to make. -/
structure InMemory.Engine.HoldsField (e : Engine) (index id field : String) (v : Json) :
    Prop where
  held : ∃ d, Entries.get? (e.documents index) id = some d ∧ Entries.get? d field = some v
  made : ∀ n, e.issued < n → id ≠ "auto" ++ toString n

namespace InMemory.Engine.HoldsField

variable {e e' : Engine} {index id field other : String} {v : Json} {given : Option String}
  {source : Document}

theorem of_unwritten (h : e.HoldsField index id field v) (hu : Unwritten e e') :
    e'.HoldsField index id field v where
  held := hu.documents index ▸ h.held
  made := hu.issued ▸ h.made

/-- A write that leaves the field of the document alone leaves its value. -/
theorem of_wrote (h : e.HoldsField index id field v) (hw : Wrote e other given source e')
    (hleaves : other = index → given = some id → Entries.last? source field = none) :
    e'.HoldsField index id field v where
  held := by
    obtain ⟨d, hd, hv⟩ := h.held
    rw [hw.documents]
    split
    swap
    · exact ⟨d, hd, hv⟩
    rename_i hother
    subst hother
    rw [Entries.get?_put]
    split
    swap
    · exact ⟨d, hd, hv⟩
    rename_i hid
    -- A new name of the engine's is not that of the document, so the identifier was given.
    cases given with
    | none => exact absurd hid.symm (h.made _ (Nat.lt_succ_self _))
    | some t =>
      obtain rfl : t = id := hid
      refine ⟨_, rfl, ?_⟩
      rw [writtenTo, Option.bind_some, hd, Entries.get?_putAll, hleaves rfl rfl]
      exact hv
  made n hn := by
    refine h.made n (Nat.lt_of_le_of_lt ?_ hn)
    rw [hw.issued]
    split <;> omega

end InMemory.Engine.HoldsField

theorem IndexRequest.last?_document_of_unnamed {r : IndexRequest} {field : String}
    (hr : field ∉ [hashKey, contentTypeKey]) (hf : ∀ f ∈ r.allFields, f.name ≠ field) (fill : Bool)
    (hash contentType : Json) :
    Entries.last? (document fill hash contentType (some r.resolvedFields)) field = none := by
  have hget := get?_written [] fill hash contentType r field
  have hnot : Entries.last? [(hashKey, hash), (contentTypeKey, contentType)] field = none := by
    simp only [List.mem_cons, List.not_mem_nil, or_false, not_or] at hr
    simp [Entries.last?, Ne.symm hr.1, Ne.symm hr.2]
  rw [r.lastField?_of_ne hf, hnot, Entries.get?_putAll] at hget
  simpa using hget

/-! ## Calls that leave a field alone -/

/-- Every index that the call names is addressed by its name, and what it writes to the document
under the identifier has no field of the name. -/
structure DepotCall.LeavesField (c : DepotCall) (index id field : String) : Prop where
  named : ∀ i, c.index? = some (.str i) → IsUnmarked i
  addressed : ∀ r, c.request? = some r → IsUnmarked r.index
  field : ∀ r, c.request? = some r → Text.lower r.index = index → given r.id = some id →
    ∀ f ∈ r.allFields, f.name ≠ field

/-- A call that leaves a field alone, or a backend that begins to fail or works again. -/
def Session.Step.LeavesField (index id field : String) : Session.Step → Prop
  | call c => c.LeavesField index id field
  | switch _ _ => True

/-- An unmarked name leads to the index of that name in lower case, where it leads at all. -/
theorem leads_of_unmarked {a : Address} (ha : a.base.IsRoot) {name : String} (hn : IsUnmarked name)
    (h0 : name ≠ "") : a.Leads (Text.lower name) (Text.lower name) := by
  rcases hn.plain_or_control h0 with hplain | ⟨c, hc, hctl⟩
  · exact leads_of_plain ha hplain
  · intro segments url _ ht
    rw [target, reference, String.toList_ofList, Url.parse?, if_pos] at ht
    · cases ht
    · rw [Url.isRefused, Bool.or_eq_true]
      exact .inr (List.any_eq_true.2 ⟨c, List.mem_cons_of_mem _ (List.mem_append_left _ hc), hctl⟩)

namespace Session

variable {s : Settings} {σ : Session} {index id field : String} {v : Json}

/-- A step that leaves a field alone leaves its value. -/
theorem holdsField_step (hs : s.HostsAreRoots) (h : σ.IsOver s)
    (hr : field ∉ [hashKey, contentTypeKey])
    (hheld : σ.world.engine.HoldsField index id field v) {step : Step}
    (hstep : step.LeavesField index id field) :
    (σ.step step).2.world.engine.HoldsField index id field v := by
  cases step with
  | switch b status => cases b <;> exact ⟨hheld.held, hheld.made⟩
  | call c =>
    obtain ⟨e, he, hroot⟩ := hs .engine
    cases hrequest : c.request? with
    | none =>
      refine hheld.of_unwritten (unwritten_call hs h ?_ hrequest)
      rintro i hi t e' rfl h0 he'
      obtain rfl := Option.some.inj (he.symm.trans he')
      exact ⟨_, leads_of_unmarked hroot (hstep.named t hi) h0⟩
    | some r =>
      obtain ⟨hash, hwrote⟩ := atMost_write h he (hs.isEngine he) hrequest
        (leads_of_unmarked hroot (hstep.addressed r hrequest))
      rcases hwrote with hu | hw
      · exact hheld.of_unwritten hu
      · exact hheld.of_wrote hw fun hi hg => IndexRequest.last?_document_of_unnamed hr
          (hstep.field r hrequest hi hg) ..

/-- A history that leaves a field alone leaves its value. -/
theorem holdsField_run (hs : s.HostsAreRoots) (h : σ.IsOver s)
    (hr : field ∉ [hashKey, contentTypeKey])
    (hheld : σ.world.engine.HoldsField index id field v) {steps : List Step}
    (hsteps : ∀ step ∈ steps, step.LeavesField index id field) :
    (σ.runSteps steps).2.world.engine.HoldsField index id field v := by
  induction steps generalizing σ with
  | nil => exact hheld
  | cons step steps ih =>
    rw [runSteps_cons]
    exact ih (h.step step)
      (holdsField_step hs h hr hheld (hsteps step (List.mem_cons_self ..)))
      fun step' hm => hsteps step' (List.mem_cons_of_mem _ hm)

/-- A write that gave a receipt leaves the last of its fields of a name in the document. -/
theorem holdsField_of_receipt (hs : s.HostsAreRoots) (h : σ.IsOver s) {c : DepotCall}
    {r : IndexRequest} {receipt : Receipt} {f : IndexField}
    (houtcome : (σ.call (.depot c)).1 = .receipt receipt) (hrequest : c.request? = some r)
    (hindex : IsUnmarked r.index) (hf : r.lastField? field = some f)
    (hmade : ∀ n, (σ.call (.depot c)).2.world.engine.issued < n →
      receipt.id ≠ "auto" ++ toString n) :
    (σ.call (.depot c)).2.world.engine.HoldsField receipt.index receipt.id field
      (fillAbsent s.fillAbsent f.value) := by
  obtain ⟨r', e, hi⟩ := indexed_of_receipt hs h houtcome
  obtain rfl : r = r' := Option.some.inj (hrequest.symm.trans hi.request)
  have hl := leads_of_unmarked hi.isEngine.root hindex hi.name
  rw [← hi.index] at hl
  have hw := hi.wrote _ hl
  refine ⟨⟨σ.world.engine.writtenTo receipt.index (given r.id) (document s.fillAbsent
    (.str receipt.hash) (.ofOption r.contentType) (some r.resolvedFields)), ?_, ?_⟩, hmade⟩
  · rw [hw.documents, if_pos rfl, hi.id, Entries.get?_put_self]
  · rw [writtenTo_document, get?_written, hf]
    rfl

end Session

/-! ## What is searched for -/

/-- After a write that gave a field as null or empty, and whatever is done then as long as the
field is left alone, the document is found by a search for the absent value, and not by a search
for any other. A search for one of several values keeps it exactly if the text of one of them, in
lower case, is the placeholder: a null among them does not find it. -/
theorem absent_value_after_run {s : Settings} (hs : s.HostsAreRoots) (hfill : s.fillAbsent = true)
    {σ : Session} (h : σ.IsOver s) {c : DepotCall} {r : IndexRequest} {receipt : Receipt}
    {field : String} {f : IndexField}
    (houtcome : (σ.call (.depot c)).1 = .receipt receipt) (hrequest : c.request? = some r)
    (hindex : IsUnmarked r.index) (hf : r.lastField? field = some f) (hv : f.value.IsAbsent)
    (hmade : ∀ n, (σ.call (.depot c)).2.world.engine.issued < n →
      receipt.id ≠ "auto" ++ toString n)
    (hr : field ∉ [hashKey, contentTypeKey]) (hname : bareName field = field)
    {steps : List Session.Step}
    (hsteps : ∀ step ∈ steps, step.LeavesField receipt.index receipt.id field)
    {engine : Engine} (hengine : engine = ((σ.call (.depot c)).2.runSteps steps).2.world.engine) :
    ∃ d, Entries.get? (engine.documents receipt.index) receipt.id = some d ∧
      ∀ more,
        (∀ v : Json, v.IsAbsent → ∃ found others,
          engine.matching receipt.index (countBody s.fillAbsent
            (some ⟨[⟨field, more, .known .equals, v⟩]⟩)) = .ok found ∧
          engine.matching receipt.index (countBody s.fillAbsent
            (some ⟨[⟨field, more, .known .notEquals, v⟩]⟩)) = .ok others ∧
          (receipt.id, d) ∈ found ∧ (receipt.id, d) ∉ others) ∧
        ∀ vs, fulfils (engine.keywordFields receipt.index) d (predicateOf s.fillAbsent
            (some ⟨[⟨field, more, .known .isAmong, .arr vs⟩]⟩)) =
          .ok (vs.any fun v => Text.lower v.text == placeholder) := by
  have hheld := Session.holdsField_run hs (h.call c) hr
    (Session.holdsField_of_receipt hs h houtcome hrequest hindex hf hmade) hsteps
  rw [← hengine, hfill, fillAbsent_of_isAbsent hv] at hheld
  obtain ⟨d, hd, hget⟩ := hheld.held
  have hmem := Entries.mem_of_get? hd
  have hplaceholder : hasPlaceholder (engine.keywordFields receipt.index) field d = true :=
    hasPlaceholder_of_get? hname hget
  rw [hfill]
  refine ⟨d, hd, fun more => ⟨fun v hv => ⟨_, _, matching_equals_absent engine _ hv,
    matching_notEquals_absent engine _ hv, ?_, ?_⟩, fulfils_isAmong hname hget⟩⟩
  · exact List.mem_filter.2 ⟨hmem, hplaceholder⟩
  · rw [List.mem_filter, hplaceholder]
    simp

/-- A request whose field is null, and one that names the field as it comes from another. -/
def unnamedMiddle : IndexRequest :=
  ⟨some "x", "docs", none, some "Qm1", [⟨"middle", .null, true⟩], none⟩

/-- What is done afterwards: the engine fails and works again, and the document is written with
another field. -/
def retitled : List Session.Step :=
  [.switch .engine (some 500), .call (.metadataById (.str "docs") (.str "x")),
    .switch .engine none,
    .call (.indexFile (some ⟨some "x", "Docs", none, some "Qm2", [⟨"title", .str "b", true⟩], none⟩))]

theorem leavesField_retitled : ∀ step ∈ retitled, step.LeavesField "docs" "x" "middle" := by
  simp only [retitled, List.forall_mem_cons]
  refine ⟨trivial, ⟨fun i h => ?_, fun r h => ?_, fun r h => ?_⟩, trivial,
    ⟨fun i h => ?_, fun r h => ?_, fun r h _ _ f hf => ?_⟩, fun _ h => by cases h⟩
  all_goals cases h
  · decide
  · rw [show IndexRequest.allFields _ = [⟨"title", .str "b", true⟩] from rfl,
      List.mem_singleton] at hf
    subst hf
    decide

/-- The session in which a document was written with a null and then with another field. -/
def Session.unnamed : Session :=
  (((Session.fresh .standard).call (.depot (.indexFile (some unnamedMiddle)))).2.runSteps
    retitled).2

/-- The field is still absent: the document is found by the search for a null. -/
theorem absent_value_after_retitled :
    ∃ d found, Entries.get? (Session.unnamed.world.engine.documents "docs") "x" = some d ∧
      Session.unnamed.world.engine.matching "docs" (countBody true
        (some ⟨[⟨"middle", [], .known .equals, .null⟩]⟩)) = .ok found ∧ ("x", d) ∈ found := by
  obtain ⟨hreceipt, hissued⟩ :
      ((Session.fresh .standard).call (.depot (.indexFile (some unnamedMiddle)))).1.receipt? =
        some ⟨"docs", "x", "Qm1"⟩ ∧
      ((Session.fresh .standard).call
        (.depot (.indexFile (some unnamedMiddle)))).2.world.engine.issued = 0 := by decide
  have hmade : ∀ n, ((Session.fresh .standard).call
      (.depot (.indexFile (some unnamedMiddle)))).2.world.engine.issued < n →
      "x" ≠ "auto" ++ toString n := by
    intro n _ hn
    have := head?_auto (toString n)
    rw [← hn] at this
    exact absurd this (by decide)
  have hfield : unnamedMiddle.lastField? "middle" = some ⟨"middle", .null, true⟩ := rfl
  have hname : bareName "middle" = "middle" := by decide
  obtain ⟨d, hd, hfound⟩ := absent_value_after_run Settings.hostsAreRoots_standard rfl
    (Session.isOver_fresh .standard) (Outcome.receipt?_eq_some.1 hreceipt) rfl (by decide) hfield
    (.inl rfl) hmade (by decide) hname leavesField_retitled
    (show Session.unnamed.world.engine = _ by rw [Session.unnamed])
  obtain ⟨found, -, hmatching, -, hmem, -⟩ := (hfound []).1 .null (.inl rfl)
  exact ⟨d, found, hd, hmatching, hmem⟩

/-- But a search for one of several values, the null among them, does not keep it. -/
theorem not_found_among_absent :
    ∃ d, Entries.get? (Session.unnamed.world.engine.documents "docs") "x" = some d ∧
      Entries.get? d "middle" = some (.str placeholder) ∧
      ∀ v : Json, v.IsAbsent →
        Session.unnamed.world.engine.matching "docs" (countBody true
          (some ⟨[⟨"middle", [], .known .isAmong, .arr [v]⟩]⟩)) = .ok [] := by
  have hsearched : ∀ v ∈ [Json.null, .str ""],
      (Session.unnamed.world.engine.matching "docs" (countBody true
        (some ⟨[⟨"middle", [], .known .isAmong, .arr [v]⟩]⟩))).toOption = some [] := by
    decide +kernel
  refine ⟨[(hashKey, .str "Qm2"), (contentTypeKey, .null), ("middle", .str placeholder),
    ("title", .str "b")], by decide +kernel, by decide +kernel, fun v hv => ?_⟩
  have hv := hsearched v (by simpa [Json.IsAbsent] using hv)
  revert hv
  cases Session.unnamed.world.engine.matching "docs" (countBody true
      (some ⟨[⟨"middle", [], .known .isAmong, .arr [v]⟩]⟩)) with
  | error => exact fun h => by cases h
  | ok found => exact fun h => congrArg Except.ok (Option.some.inj h)

end ContentDepot
