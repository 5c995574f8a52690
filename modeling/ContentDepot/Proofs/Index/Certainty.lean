import ContentDepot.Proofs.Index.Writing
import ContentDepot.Proofs.Session.Standing

/-!
# Writes that are certain to fail, and to succeed

A write is a chain of requests. Where every request is in vain (`InVain`), because
the engine fails with one status or because the name makes no address, the whole
write fails and changes nothing, whatever the status: that a document is missing
or an index there already is an answer only of an engine that works.

* `writing_inVain`, `createIfMissing_inVain`.

Where the engine works and every path of the write is admitted (`Admits`), no
request of the chain can fail, and so neither can the write.

* `writing_admitted`, `createIfMissing_admitted`.
-/

namespace ContentDepot.MetadataIndex

open Exchange InMemory Address Text.DotSegments

variable {e : Endpoint} {name index : String} {st : Standing} {id : Option String}
  {source : Entries Json} {trust writable : Bool}

/-! ## Requests in vain -/

theorem alreadyExists_failure (status : Int) :
    alreadyExists (Engine.failure status) = .ok false := by
  have hother : (Json.str "emulated_exception" ==
      Json.str "resource_already_exists_exception") = false := by decide +kernel
  unfold alreadyExists
  split
  · exact congrArg Except.ok hother
  · rfl

/-- A response that tells of a failure. -/
def IsFailure (r : Response) : Prop :=
  ∃ status, r = Engine.failure status ∧ ¬ (200 ≤ status ∧ status ≤ 299)

namespace IsFailure

variable {r : Response}

theorem isSuccess (h : IsFailure r) : r.isSuccess = false := by
  obtain ⟨status, rfl, hout⟩ := h
  exact Engine.isSuccess_failure hout

theorem ne_ok (h : IsFailure r) : ¬ r.status = 200 := by
  obtain ⟨status, rfl, hout⟩ := h
  intro hs
  obtain rfl : status = 200 := hs
  exact hout (by decide)

/-- No failure says that an index is there. -/
theorem alreadyExists (h : IsFailure r) : MetadataIndex.alreadyExists r = .ok false := by
  obtain ⟨status, rfl, -⟩ := h
  exact alreadyExists_failure status

end IsFailure

/-- No request below the name changes anything, and none succeeds. -/
def InVain (e : Endpoint) (name : String) (st : Standing) : Prop :=
  ∀ segments verb query payload, WP st (e.call verb (reference name segments) query payload)
    (fun r st' => st' = st ∧ IsFailure r) (fun _ st' => st' = st)

theorem inVain_of_failing {status : Int} (he : e.IsEngine) (hf : st.engine.failing = some status)
    (hout : IsOutside st.engine.failing) : InVain e name st := by
  intro segments verb query payload
  refine .call_engine he (fun _ => rfl) fun r _ resp hresp => ?_
  rw [Engine.answer_of_failing hf] at hresp ⊢
  cases hresp
  exact ⟨rfl, status, rfl, hout status hf⟩

/-- A name with a control character makes no address. -/
theorem inVain_of_control {c : Char} (he : e.IsEngine) (hc : c ∈ name.toList)
    (hctl : Url.isControl c = true) : InVain e name st := by
  intro segments verb query payload
  -- The reader of URLs refuses the whole text, whatever stands below the name.
  have hrefused : Url.isRefused ('/' :: (name.toList ++ render segments)) = true := by
    rw [Url.isRefused, Bool.or_eq_true]
    exact .inr (List.any_eq_true.2
      ⟨c, List.mem_cons_of_mem _ (List.mem_append_left _ hc), hctl⟩)
  have htarget : ∀ url, e.address.target (reference name segments) ≠ .ok url := by
    intro url
    rw [target, reference, String.toList_ofList, Url.parse?, hrefused, if_pos rfl]
    exact fun h => by cases h
  exact .call he.root (fun _ _ => rfl) fun url r c w ht => absurd ht (htarget url)

theorem createIfMissing_inVain (h : InVain e name st) :
    WP st (createIfMissing e name trust) (fun _ st' => st' = st) (fun _ st' => st' = st) := by
  unfold createIfMissing
  rw [indexPath_eq]
  refine .context_bind fun c _ => ?_
  split
  · exact .pure rfl
  refine .bind (h ..) ?_
  rintro r st ⟨rfl, hr⟩
  rw [if_neg hr.ne_ok]
  refine .bind (h ..) ?_
  rintro r st ⟨rfl, hr⟩
  refine .ofRead_bind (fun _ _ => rfl) fun known hknown => ?_
  rw [hr.alreadyExists] at hknown
  cases hknown
  rw [if_neg Bool.false_ne_true]
  exact .check_bind (fun _ _ => rfl) fun hs => by rw [hr.isSuccess] at hs; cases hs

theorem documentExists_inVain (h : InVain e name st) :
    WP st (documentExists e name (.ofOption id))
      (fun isThere st' => st' = st ∧ (isThere = true → (given id).isSome = true))
      (fun _ st' => st' = st) := by
  unfold documentExists
  rw [truthy_ofOption]
  rcases hg : given id with _ | t
  · exact .pure ⟨rfl, fun h => by cases h⟩
  obtain ⟨rfl, -⟩ := given_eq_some hg
  rw [show Json.ofOption (some t) = .str t from rfl, documentPath_eq]
  simp only [Option.isSome_some, Bool.not_true, Bool.false_eq_true, if_false]
  refine .bind (h ..) ?_
  rintro r st ⟨rfl, hr⟩
  split
  · exact .pure ⟨rfl, fun _ => trivial⟩
  · exact .check_bind (fun _ _ => rfl) fun hs => by rw [hr.isSuccess] at hs; cases hs

/-- A write whose requests are in vain fails and changes nothing. -/
theorem writing_inVain (h : InVain e name st) :
    WP st (writing e name (.ofOption id) source writable) (fun _ _ => False)
      (fun _ st' => st' = st) := by
  unfold writing
  refine .bind (createIfMissing_inVain h) ?_
  rintro _ st rfl
  refine .bind (documentExists_inVain h) ?_
  rintro isThere st ⟨rfl, hthere⟩
  cases writable with
  | false => exact .throw_bind rfl
  | true =>
    simp only [Bool.not_true, Bool.false_eq_true, if_false]
    obtain ⟨verb, segments, payload, -, -, hcall, -⟩ := writeDocument_eq e name source hthere
    rw [hcall]
    refine .bind (h ..) ?_
    rintro r st ⟨rfl, hr⟩
    exact .check_bind (fun _ _ => rfl) fun hs => by rw [hr.isSuccess] at hs; cases hs

/-! ## Requests that are answered -/

theorem segments_of_sends {segments : List (List Char)} {verb : Verb} {payload : Payload}
    {r : Request} (hl : e.address.Leads name index) (ha : Anchored segments)
    (hr : e.Sends name segments verb payload r) :
    Engine.segments r.path = index :: meanings (segments.foldl push []) := by
  obtain ⟨url, ht, hm⟩ := hr
  exact hm.segments.trans (hl segments url ha ht)

/-- What lies below the name can be asked for. -/
def Allows (e : Endpoint) (name : String) (segments : List (List Char)) : Prop :=
  ∃ url, e.address.target (reference name segments) = .ok url

/-- Below a plain name what fits can be asked for. -/
theorem allows_of_fits (he : e.IsEngine) (hn : IsPlainName name) {segments : List (List Char)}
    (hs : Anchored segments) (hc : ∀ s ∈ segments, ∀ c ∈ s, Url.isControl c = false)
    (hfits : fits (reference name segments) = true) : Allows e name segments := by
  have ht := target_of_plain he.root hn hs hc
  rwa [if_pos hfits] at ht

/-- The name leads to the index, and every path of a write is admitted. -/
structure Admits (e : Endpoint) (name index : String) (id : Option String) : Prop where
  isEngine : e.IsEngine
  leads : e.address.Leads name index
  whole : Allows e name []
  refresh : Allows e name ["_refresh".toList]
  create : Allows e name ("_doc".toList ::
    (given id).toList.map fun t => (Text.Percent.segment t).toList)
  update : ∀ t, given id = some t →
    Allows e name ["_update".toList, (Text.Percent.segment t).toList]
  no_step : ∀ t, given id = some t → t ≠ "." ∧ t ≠ ".."

/-- An index can be created by an engine that works, unless it is known to be there. -/
theorem createIfMissing_admitted (he : e.IsEngine) (hl : e.address.Leads name index)
    (ha : Allows e name []) (hf : st.engine.failing = none) :
    WP st (createIfMissing e name trust)
      (fun _ st' => st'.engine.failing = none ∧
        (trust = false → Entries.has st'.engine.indices index = true)) (fun _ _ => False) := by
  obtain ⟨url, ht⟩ := ha
  have hsegments : ∀ {verb payload r}, e.Sends name [] verb payload r →
      Engine.segments r.path = [index] := fun hr => segments_of_sends hl anchored_nil hr
  unfold createIfMissing
  rw [indexPath_eq]
  refine .context_bind fun c _ => ?_
  cases htrust : trust && c.mapped.contains name with
  | true =>
    refine .pure ⟨hf, fun h => ?_⟩
    rw [h] at htrust
    cases htrust
  | false =>
  refine .bind (m := fun r st' => st' = st ∧
      r = ⟨if Entries.has st.engine.indices index then 200 else 404, .empty⟩)
    (.call_answered he ht (by decide) rfl fun r hr => ?_) ?_
  · rw [Engine.answer_index hf (hsegments hr), Engine.answerIndex, hr.verb]
    exact ⟨_, rfl, rfl, rfl⟩
  rintro r st ⟨rfl, rfl⟩
  cases hx : Entries.has st.engine.indices index with
  | true => exact .markMapped ⟨hf, fun _ => hx⟩
  | false =>
  refine .bind (m := fun r st' => st'.engine.failing = none ∧
      Entries.has st'.engine.indices index = true ∧ alreadyExists r = .ok false ∧
      r.isSuccess = true)
    (.call_answered he ht (by decide) (by decide) fun r hr => ?_) ?_
  · rw [Engine.answer_index hf (hsegments hr), Engine.answerIndex, hr.verb]
    dsimp only
    rw [if_neg (by rw [hx]; exact Bool.false_ne_true)]
    refine ⟨_, rfl, hf, ?_, rfl, rfl⟩
    simp only [Entries.has, Entries.get?_put_self, Option.isSome_some]
  rintro r st' ⟨hf', hx', hknown, hsuccess⟩
  refine .ofRead_bind (fun _ h => ?_) fun known hread => ?_
  · rw [hknown] at h
    cases h
  rw [hknown] at hread
  cases hread
  rw [if_neg Bool.false_ne_true]
  refine .check_bind (fun h => ?_) fun _ => .emit_bind (.markMapped ⟨hf', fun _ => hx'⟩)
  rw [hsuccess] at h
  cases h

/-- Whether a document is there can be told. -/
theorem documentExists_admitted (h : Admits e name index id) (hf : st.engine.failing = none) :
    WP st (documentExists e name (.ofOption id))
      (fun isThere st' => st' = st ∧
        isThere = ((given id).bind (Entries.get? (st.engine.documents index))).isSome)
      (fun _ _ => False) := by
  unfold documentExists
  rw [truthy_ofOption]
  have hcreate := h.create
  rcases hg : given id with _ | t
  · exact .pure ⟨rfl, rfl⟩
  obtain ⟨rfl, hne⟩ := given_eq_some hg
  obtain ⟨h1, h2⟩ := h.no_step t hg
  rw [hg] at hcreate
  obtain ⟨url, ht⟩ := hcreate
  rw [show Json.ofOption (some t) = .str t from rfl, documentPath_eq]
  simp only [Option.isSome_some, Bool.not_true, Bool.false_eq_true, if_false]
  have hanswer : ∀ r, e.Sends name ["_doc".toList, (Text.Percent.segment t).toList] .get .empty r →
      st.engine.answer r = (st.engine.getDocument index t, st.engine) := by
    intro r hr
    have hs := segments_of_sends h.leads (anchored_segment isWord_doc hne) hr
    rw [foldl_segment isWord_doc h1 h2, meanings_segment isWord_doc] at hs
    exact Engine.answer_get hf hr.verb hs
  rw [Option.bind_some]
  rcases hd : Entries.get? (st.engine.documents index) t with _ | d
  · obtain ⟨body, hbody⟩ := Engine.getDocument_of_none hd
    refine .bind (m := fun r st' => st' = st ∧ r.status = 404) (.call_answered h.isEngine ht
      (by decide) rfl fun r hr => ?_) ?_
    · rw [hanswer r hr, hbody]
      exact ⟨_, rfl, rfl, rfl⟩
    rintro r st ⟨rfl, hr⟩
    rw [if_pos hr]
    exact .pure ⟨rfl, rfl⟩
  · refine .bind (m := fun r st' => st' = st ∧ r = ⟨200, .json (Engine.found index t d)⟩)
      (.call_answered h.isEngine ht (by decide) rfl fun r hr => ?_) ?_
    · rw [hanswer r hr, Engine.getDocument_of_some hd]
      exact ⟨_, rfl, rfl, rfl⟩
    rintro r st ⟨rfl, rfl⟩
    dsimp only
    rw [if_neg (by decide)]
    refine .check_bind (fun hno => by cases hno) fun _ => .ofRead_bind (fun _ hno => by cases hno)
      fun v hv => ?_
    cases hv
    refine .ofRead_bind (fun _ hno => by cases hno) fun found hfound => ?_
    cases hfound
    exact .pure ⟨rfl, rfl⟩

/-- A document can be written, and its identifier is named. -/
theorem writeDocument_admitted (h : Admits e name index id) (hf : st.engine.failing = none)
    (hsend : (Json.obj source).sendable = true) {isThere : Bool}
    (hthere : isThere = ((given id).bind (Entries.get? (st.engine.documents index))).isSome) :
    WP st (writeDocument e name (.ofOption id) isThere source)
      (fun r st' => st'.engine.failing = none ∧ r.isSuccess = true ∧
        ∃ v t, r.json = .ok v ∧ v.itemAt "_id" = .ok (.str t)) (fun _ _ => False) := by
  have hgiven : isThere = true → (given id).isSome = true := by
    intro ht
    rw [hthere] at ht
    rcases hg : given id with _ | t
    · rw [hg] at ht
      cases ht
    · rfl
  obtain ⟨verb, segments, payload, hverb, hanchored, hcall, hcases⟩ :=
    writeDocument_eq e name source hgiven
  obtain ⟨⟨url, htarget⟩, hpayload⟩ : Allows e name segments ∧ payload.isSendable = true := by
    rcases hcases with ⟨-, rfl, t, hg, rfl⟩ | ⟨-, rfl, rfl⟩
    · refine ⟨h.update t hg, ?_⟩
      simpa [Payload.isSendable, Json.sendable, Json.every, Json.everyMember, Json.everyIn]
        using hsend
    · exact ⟨h.create, hsend⟩
  rw [hcall]
  refine .call_answered h.isEngine htarget (by decide) hpayload fun r hr => ?_
  have hs := segments_of_sends h.leads hanchored hr
  obtain ⟨t, hid⟩ : ∃ t, Engine.idOf? (st.engine.answer r).1 = some (.str t) := by
    rcases hcases with ⟨rfl, rfl, t, hg, rfl⟩ | ⟨rfl, rfl, rfl⟩
    · rw [hg] at hthere
      obtain ⟨d, hd⟩ := Option.isSome_iff_exists.1 hthere.symm
      obtain ⟨h1, h2⟩ := h.no_step t hg
      rw [foldl_segment isWord_update h1 h2, meanings_segment isWord_update] at hs
      exact ⟨t, (Engine.answer_update hf hs hr.payload hd).1⟩
    · have hno : (given id).bind (Entries.get? (st.engine.documents index)) = none :=
        Option.isNone_iff_eq_none.1 (by simpa using hthere.symm)
      refine ⟨_, (Engine.answer_create hf (hr.verb ▸ hverb) ?_ hr.payload hno).1⟩
      rcases hg : given id with _ | t
      · rw [hs, hg]
        exact congrArg (index :: ·) ((congrArg meanings (foldl_word isWord_doc)).trans
          (meanings_word isWord_doc))
      · obtain ⟨h1, h2⟩ := h.no_step t hg
        rw [hs, hg]
        exact congrArg (index :: ·) ((congrArg meanings (foldl_segment isWord_doc h1 h2)).trans
          (meanings_segment isWord_doc t))
  obtain ⟨resp, v, hresp, hsuccess, hjson, hitem⟩ :=
    Engine.success_of_written (hr.verb ▸ hverb) hid
  exact ⟨resp, hresp, (Engine.failing_answer ..).trans hf, hsuccess, v, t, hjson, hitem⟩

/-- A write whose paths are admitted and whose values have a written form succeeds, if the engine
works. -/
theorem writing_admitted (h : Admits e name index id) (hf : st.engine.failing = none)
    (hsend : (Json.obj source).sendable = true) :
    WP st (writing e name (.ofOption id) source true) (fun v _ => ∃ t, v = .str t)
      (fun _ _ => False) := by
  unfold writing
  refine .bind (createIfMissing_admitted h.isEngine h.leads h.whole hf) fun _ st₁ h₁ => ?_
  refine .bind (documentExists_admitted h h₁.1) ?_
  rintro isThere st₁ ⟨rfl, hthere⟩
  simp only [Bool.not_true, Bool.false_eq_true, if_false]
  refine .bind (writeDocument_admitted h h₁.1 hsend hthere) ?_
  rintro r st₂ ⟨hf₂, hsuccess, v, t, hjson, hitem⟩
  refine .check_bind (fun hno => ?_) fun _ => .ofRead_bind (fun _ hno => ?_) fun v' hv' =>
    .ofRead_bind (fun _ hno => ?_) fun t' ht' => ?_
  · rw [hsuccess] at hno
    cases hno
  · rw [hjson] at hno
    cases hno
  · rw [hjson] at hv'
    cases hv'
    rw [hitem] at hno
    cases hno
  · rw [hjson] at hv'
    cases hv'
    rw [hitem] at ht'
    cases ht'
    obtain ⟨url, ht⟩ := h.refresh
    rw [show "/" ++ name ++ "/_refresh" = reference name ["_refresh".toList] from
      path_word_eq name "_refresh"]
    refine .bind (m := fun r _ => r.isSuccess = true) (.call_answered h.isEngine ht (by decide)
      rfl fun r hr => ?_) fun r _ hr => .check_bind (fun hno => ?_) fun _ => .pure ⟨t, rfl⟩
    · have hs := segments_of_sends h.leads (anchored_word isWord_refresh) hr
      rw [foldl_word isWord_refresh, meanings_word isWord_refresh] at hs
      rw [Engine.answer_within hf₂ hs (by decide)]
      exact ⟨_, rfl, rfl⟩
    · rw [hr] at hno
      cases hno

end ContentDepot.MetadataIndex
