import ContentDepot.Proofs.Session.Quiet

/-!
# What a write to the index does

A write creates the index if that is missing, asks whether the document is
there, sends one request that changes a document, and has the index refreshed.
All but the third are quiet, so a write that succeeds has done that one thing:

* `documentExists_ok`: what the question gives is whether the document is there;
* `writing_steps`: the chain of steps of a write that succeeded;
* `writing_ok`: one document was written, and the answer names it;
* `refreshed_of_writing`: a name under which a write succeeded can be refreshed;
* `singleton_of_answers`, `leads_of_writing`: a name under which a write succeeded leads to an
  index.
-/

namespace ContentDepot

open InMemory Text.DotSegments Address Exchange

namespace MetadataIndex

open Search

variable {e : Endpoint} {name index : String} {w w' : World} {c c' : Context}

theorem carry_check_ok {r : Response} {x : Unit} :
    carry World.answer (check r) c w = (.ok x, c', w') ↔ r.isSuccess = true ∧ c = c' ∧ w = w' := by
  unfold check
  split
  · simp [*]
  · rename_i hr
    simp only [hr, false_and, iff_false, Bool.false_eq_true]
    rw [carry_bind]
    rcases errorType r with f | v <;> simp [Attempt.ofRead]

/-- Creating an index is quiet. -/
theorem quiet_createIfMissing {trust : Bool} (he : e.IsEngine) (hl : e.address.Leads name index) :
    Quiet (createIfMissing e name trust) := by
  unfold createIfMissing
  refine .bind .context fun c => ?_
  split
  · exact .pure _
  refine .bind (.call_read he (.inr rfl)) fun r => ?_
  split
  · exact .modify _
  refine .bind (.call_index he hl) fun r => .bind (.ofRead _) fun known => ?_
  split
  · exact .modify _
  · exact .bind (.check _) fun _ => .bind (.emit _ _) fun _ => .modify _

/-- Asking whether a document is there is quiet. -/
theorem quiet_documentExists (he : e.IsEngine) (id : Json) : Quiet (documentExists e name id) := by
  unfold documentExists
  split
  · exact .pure _
  refine .bind (.call_read he (.inl rfl)) fun r => ?_
  split
  · exact .pure _
  · exact .bind (.check _) fun _ => .bind (.ofRead _) fun _ => .bind (.ofRead _) fun _ => .pure _

/-- The identifier that is given, if one is; an empty one is none. -/
def given (id : Option String) : Option String := id.filter (· ≠ "")

theorem truthy_ofOption (id : Option String) : (Json.ofOption id).truthy = (given id).isSome := by
  rcases id with _ | t
  · rfl
  · by_cases h : t = ""
    · subst h; decide
    · simp [Json.ofOption, Json.truthy, given, h]

theorem given_eq_some {id : Option String} {t : String} (h : given id = some t) :
    id = some t ∧ t ≠ "" := by
  simpa [given, Option.filter_eq_some_iff] using h

theorem given_of_documentExists {id : Option String}
    (h : carry World.answer (documentExists e name (.ofOption id)) c w = (.ok true, c', w')) :
    (given id).isSome := by
  unfold documentExists at h
  rw [truthy_ofOption] at h
  cases hg : (given id).isSome with
  | true => rfl
  | false =>
    rw [hg] at h
    cases h

/-- The identifier is no step in a path, and the document under it can be asked for. -/
def Reaches (e : Endpoint) (name : String) (id : String) : Prop :=
  id ≠ "." ∧ id ≠ ".." ∧ ∃ url, e.address.target (documentPath name (.str id)) = .ok url

/-- A document is there if the index has it, and it could be asked for. -/
theorem documentExists_ok {id : Option String} {isThere : Bool} (he : e.IsEngine)
    (hl : e.address.Leads name index) (hw : w.Live) (hf : w.engine.failing = none)
    (h : carry World.answer (documentExists e name (.ofOption id)) c w = (.ok isThere, c', w')) :
    isThere = ((given id).bind (Entries.get? (w.engine.documents index))).isSome ∧
      ∀ t, given id = some t → Reaches e name t := by
  unfold documentExists at h
  rw [truthy_ofOption] at h
  rcases hg : given id with _ | t
  · rw [hg] at h
    cases h
    exact ⟨rfl, by simp⟩
  obtain ⟨rfl, ht⟩ := given_eq_some hg
  rw [hg, show Json.ofOption (some t) = .str t from rfl] at h
  simp only [Option.isSome_some, Bool.not_true, Bool.false_eq_true, if_false] at h
  obtain ⟨r, c₁, w₁, h₁, h⟩ := carry_bind_ok.1 h
  obtain ⟨url, req, htarget, -, hm, hans, -⟩ := Endpoint.call_ok he hw h₁
  have hreached := htarget
  rw [documentPath_eq] at htarget
  have hseg := hm.segments.trans (hl _ url (anchored_segment isWord_doc ht) htarget)
  have hdots : t ≠ "." ∧ t ≠ ".." := by
    refine ⟨?_, ?_⟩ <;> rintro rfl
    · rw [Engine.answer_get_bare hf hm.verb (.inr hseg)] at hans
      cases hans
    · rw [Engine.answer_get_bare hf hm.verb (.inl hseg)] at hans
      cases hans
  rw [foldl_segment isWord_doc hdots.1 hdots.2, meanings_segment isWord_doc] at hseg
  rw [Engine.answer_get hf hm.verb hseg] at hans
  refine ⟨?_, fun _ h => by cases h; exact ⟨hdots.1, hdots.2, url, hreached⟩⟩
  rw [Option.bind_some]
  rcases hd : Entries.get? (w.engine.documents index) t with _ | d
  · obtain ⟨body, hb⟩ := Engine.getDocument_of_none hd
    rw [hb] at hans
    cases hans
    cases h
    rfl
  · rw [Engine.getDocument_of_some hd] at hans
    cases hans
    dsimp only at h
    rw [if_neg (by decide)] at h
    obtain ⟨_, c₂, w₂, h₂, h⟩ := carry_bind_ok.1 h
    obtain ⟨-, rfl, rfl⟩ := carry_check_ok.1 h₂
    obtain ⟨answer, c₃, w₃, h₃, h⟩ := carry_bind_ok.1 h
    obtain ⟨ha, rfl, rfl⟩ := carry_ofRead_ok.1 h₃
    obtain ⟨member, c₄, w₄, h₄, h⟩ := carry_bind_ok.1 h
    obtain ⟨hmember, rfl, rfl⟩ := carry_ofRead_ok.1 h₄
    cases ha
    cases hmember
    cases h
    rfl

/-- The request that writes a document leads below the index, to a word and an identifier. -/
theorem writeDocument_eq (e : Endpoint) (name : String) {id : Option String} {isThere : Bool}
    (source : Entries Json) (hthere : isThere = true → (given id).isSome) :
    ∃ verb segments payload, (verb = .put ∨ verb = .post) ∧ Anchored segments ∧
      writeDocument e name (.ofOption id) isThere source =
        e.call verb (reference name segments) [] payload ∧
      ((isThere = true ∧ payload = .json (.obj [("doc", .obj source)]) ∧
          ∃ t, given id = some t ∧
            segments = ["_update".toList, (Text.Percent.segment t).toList]) ∨
        (isThere = false ∧ payload = .json (.obj source) ∧
          segments = "_doc".toList ::
            (given id).toList.map fun t => (Text.Percent.segment t).toList)) := by
  unfold writeDocument
  rcases hg : given id with _ | t
  · cases isThere with
    | true => simp [hg] at hthere
    | false =>
      refine ⟨.post, ["_doc".toList], _, .inr rfl, anchored_word isWord_doc, ?_,
        .inr ⟨rfl, rfl, rfl⟩⟩
      rw [if_neg (by simp), truthy_ofOption, hg, if_neg (by simp)]
      exact congrArg (fun p => e.call .post p [] _) (path_word_eq name "_doc")
  · obtain ⟨rfl, ht⟩ := given_eq_some hg
    cases isThere with
    | true =>
      refine ⟨.post, _, _, .inr rfl, anchored_segment isWord_update ht, ?_,
        .inl ⟨rfl, rfl, t, rfl, rfl⟩⟩
      rw [if_pos rfl]
      exact congrArg (fun p => e.call .post p [] _) (path_segment_eq name "_update" t)
    | false =>
      refine ⟨.put, _, _, .inl rfl, anchored_segment isWord_doc ht, ?_, .inr ⟨rfl, rfl, rfl⟩⟩
      rw [if_neg (by simp), truthy_ofOption, hg, if_pos (by simp)]
      exact congrArg (fun p => e.call .put p [] _) (documentPath_eq name t)

/-- The steps of a write that succeeded. -/
theorem writing_steps {id : Json} {doc : Entries Json} {writable : Bool} {v : Json}
    (h : carry World.answer (writing e name id doc writable) c w = (.ok v, c', w')) :
    ∃ c₁ w₁ isThere c₂ w₂ r c₃ w₃ answer r',
      carry World.answer (createIfMissing e name true) c w = (.ok (), c₁, w₁) ∧
      carry World.answer (documentExists e name id) c₁ w₁ = (.ok isThere, c₂, w₂) ∧
      writable = true ∧
      carry World.answer (writeDocument e name id isThere doc) c₂ w₂ = (.ok r, c₃, w₃) ∧
      r.json = .ok answer ∧ answer.itemAt "_id" = .ok v ∧
      carry World.answer (e.call .post ("/" ++ name ++ "/_refresh") [] .empty) c₃ w₃ =
        (.ok r', c', w') ∧
      r'.isSuccess = true := by
  unfold writing at h
  obtain ⟨_, c₁, w₁, h₁, h⟩ := carry_bind_ok.1 h
  obtain ⟨isThere, c₂, w₂, h₂, h⟩ := carry_bind_ok.1 h
  cases writable with
  | false => simp [carry_bind] at h
  | true =>
    simp only [Bool.not_true, Bool.false_eq_true, if_false] at h
    obtain ⟨r, c₃, w₃, h₃, h⟩ := carry_bind_ok.1 h
    obtain ⟨_, c₄, w₄, h₄, h⟩ := carry_bind_ok.1 h
    obtain ⟨-, rfl, rfl⟩ := carry_check_ok.1 h₄
    obtain ⟨answer, c₅, w₅, h₅, h⟩ := carry_bind_ok.1 h
    obtain ⟨hjson, rfl, rfl⟩ := carry_ofRead_ok.1 h₅
    obtain ⟨written, c₆, w₆, h₆, h⟩ := carry_bind_ok.1 h
    obtain ⟨hid, rfl, rfl⟩ := carry_ofRead_ok.1 h₆
    obtain ⟨r', c₇, w₇, h₇, h⟩ := carry_bind_ok.1 h
    obtain ⟨_, c₈, w₈, h₈, h⟩ := carry_bind_ok.1 h
    obtain ⟨hok, rfl, rfl⟩ := carry_check_ok.1 h₈
    cases h
    exact ⟨c₁, w₁, isThere, c₂, w₂, r, c₃, w₃, answer, r', h₁, h₂, rfl, h₃, hjson, hid, h₇, hok⟩

/-- After a write that succeeded one document has changed, and the identifier that comes back is
the one it is under. -/
theorem writing_ok {id : Option String} {source : Entries Json} {writable : Bool} {v : Json}
    (he : e.IsEngine) (hl : e.address.Leads name index) (hw : w.Live)
    (h : carry World.answer (writing e name (.ofOption id) source writable) c w = (.ok v, c', w')) :
    v = .str (w.engine.idFor (given id)) ∧
      w.engine.Wrote index (given id) source w'.engine ∧ w'.Live ∧
      ∀ t, given id = some t → Reaches e name t := by
  obtain ⟨c₁, w₁, isThere, c₂, w₂, r, c₃, w₃, answer, r', h₁, h₂, -, h₃, hjson, hid, h₄, hok⟩ :=
    writing_steps h
  have hk₁ := (quiet_createIfMissing he hl).keeps hw h₁
  have hk₂ := (quiet_documentExists he _).keeps hk₁.live h₂
  obtain ⟨verb, segments, payload, hverb, hanchored, hcall, hcases⟩ :=
    writeDocument_eq e name source fun ht : isThere = true => given_of_documentExists (ht ▸ h₂)
  rw [hcall] at h₃
  obtain ⟨url, req, htarget, -, hm, hans, hengine, hlive, -⟩ := Endpoint.call_ok he hk₂.live h₃
  have hidOf : Engine.idOf? (w₂.engine.answer req).1 = some v := by
    rw [hans]
    exact Engine.idOf?_of_itemAt hjson hid
  obtain ⟨hf₂, -⟩ := Engine.segments_of_written (hm.verb ▸ hverb) (by rw [hidOf]; rfl)
  have hf₁ : w₁.engine.failing = none := hk₂.engine.failing.symm.trans hf₂
  obtain ⟨hisThere, hreaches⟩ := documentExists_ok he hl hk₁.live hf₁ h₂
  rw [← hk₂.engine.documents index] at hisThere
  have hseg := hm.segments.trans (hl segments url hanchored htarget)
  obtain ⟨hid', hwrote⟩ : Engine.idOf? (w₂.engine.answer req).1 =
      some (.str (w₂.engine.idFor (given id))) ∧
      w₂.engine.Wrote index (given id) source (w₂.engine.answer req).2 := by
    rcases hcases with ⟨rfl, rfl, t, hg, rfl⟩ | ⟨rfl, rfl, rfl⟩
    · rw [hg] at hisThere ⊢
      obtain ⟨d, hd⟩ := Option.isSome_iff_exists.1 hisThere.symm
      obtain ⟨h1, h2, -⟩ := hreaches t hg
      rw [foldl_segment isWord_update h1 h2, meanings_segment isWord_update] at hseg
      exact Engine.answer_update hf₂ hseg hm.payload hd
    · refine Engine.answer_create hf₂ (hm.verb ▸ hverb) ?_ hm.payload
        (Option.isNone_iff_eq_none.1 (by simpa using hisThere.symm))
      rcases hg : given id with _ | t
      · rw [hseg, hg]
        exact congrArg (index :: ·) ((congrArg meanings (foldl_word isWord_doc)).trans
          (meanings_word isWord_doc))
      · obtain ⟨h1, h2, -⟩ := hreaches t hg
        rw [hseg, hg]
        exact congrArg (index :: ·) ((congrArg meanings (foldl_segment isWord_doc h1 h2)).trans
          (meanings_segment isWord_doc t))
  obtain ⟨url', req', htarget', -, hm', -, hengine', hlive', -⟩ := Endpoint.call_ok he hlive h₄
  rw [show "/" ++ name ++ "/_refresh" = reference name ["_refresh".toList] from
    path_word_eq name "_refresh"] at htarget'
  have hseg' := hm'.segments.trans (hl _ url' (anchored_word isWord_refresh) htarget')
  rw [foldl_word isWord_refresh, meanings_word isWord_refresh] at hseg'
  have hrefresh := Engine.answer_refresh (hengine ▸ hwrote.failing) hseg'
  rw [← hengine', hengine] at hrefresh
  have hk := (hk₁.trans hk₂).engine
  have hsame : w₂.engine.idFor (given id) = w.engine.idFor (given id) := by
    rw [Engine.idFor, Engine.idFor, hk.issued]
  rw [hidOf, hsame, Option.some.injEq] at hid'
  exact ⟨hid', .of_unwritten hk hwrote hrefresh, hlive', hreaches⟩

/-- A name under which a document was written can be refreshed. -/
theorem refreshed_of_writing {id : Json} {source : Entries Json} {writable : Bool} {v : Json}
    (he : e.IsEngine) (hw : w.Live)
    (h : carry World.answer (writing e name id source writable) c w = (.ok v, c', w')) :
    ∃ url, e.address.target (reference name ["_refresh".toList]) = .ok url := by
  obtain ⟨c₁, w₁, isThere, c₂, w₂, r, c₃, w₃, answer, r', h₁, h₂, -, h₃, -, -, h₄, -⟩ :=
    writing_steps h
  have hw₃ := World.live_of_carry (World.live_of_carry (World.live_of_carry hw h₁) h₂) h₃
  obtain ⟨url, -, htarget, -⟩ := Endpoint.call_ok he hw₃ h₄
  rw [show "/" ++ name ++ "/_refresh" = reference name ["_refresh".toList] from
    path_word_eq name "_refresh"] at htarget
  exact ⟨url, htarget⟩

/-- Only below an index can a document be written. So if what was written and then refreshed lay
below one place, this is an index. -/
theorem singleton_of_answers {base more : List String} {ends : Bool} {engine : Engine}
    {req req' : Request} {resp : Response} (hverb : req.verb = .put ∨ req.verb = .post)
    (hwrite : Engine.segments req.path = if ends then base else base ++ more)
    (hid : (Engine.idOf? (engine.answer req).1).isSome = true)
    (hverb' : req'.verb = .post) (hempty : req'.payload = .empty)
    (hrefresh : Engine.segments req'.path = if ends then base else base ++ ["_refresh"])
    (hans : ((engine.answer req).2.answer req').1 = .response resp)
    (hok : resp.isSuccess = true) : ends = false ∧ ∃ index, base = [index] := by
  obtain ⟨hf, index, action, rest, hseg, haction⟩ := Engine.segments_of_written hverb hid
  have hf' : (engine.answer req).2.failing = none := by rw [Engine.failing_answer, hf]
  -- the same path cannot serve both the write and the refresh
  have hrefused : ∀ rest', Engine.segments req'.path ≠ index :: action :: rest' := by
    intro rest' hs
    rw [Engine.not_success_of_empty hempty hverb' hs haction hf' hans] at hok
    cases hok
  rw [hseg] at hwrite
  cases ends with
  | true => exact absurd (hrefresh.trans hwrite.symm) (hrefused rest)
  | false =>
    rw [if_neg (by simp)] at hwrite hrefresh
    match base, hwrite, hrefresh with
    | [], _, hrefresh =>
      rw [Engine.answer_index hf' hrefresh, Engine.answerIndex, hverb'] at hans
      cases hans
    | [b], _, _ => exact ⟨rfl, b, rfl⟩
    | b :: b' :: bs, hwrite, hrefresh =>
      simp only [List.cons_append, List.cons.injEq] at hwrite
      obtain ⟨rfl, rfl, -⟩ := hwrite
      exact absurd hrefresh (hrefused _)

/-- A name under which a write succeeded leads to an index. -/
theorem leads_of_writing {id : Option String} {source : Entries Json} {writable : Bool} {v : Json}
    (he : e.IsEngine) (hn : name ≠ "") (hw : w.Live)
    (h : carry World.answer (writing e name (.ofOption id) source writable) c w = (.ok v, c', w')) :
    ∃ index, e.address.Leads name index := by
  obtain ⟨c₁, w₁, isThere, c₂, w₂, r, c₃, w₃, answer, r', h₁, h₂, -, h₃, hjson, hid, h₄, hok⟩ :=
    writing_steps h
  have hw₂ := World.live_of_carry (World.live_of_carry hw h₁) h₂
  obtain ⟨verb, segments, payload, hverb, hanchored, hcall, -⟩ :=
    writeDocument_eq e name source fun ht : isThere = true => given_of_documentExists (ht ▸ h₂)
  rw [hcall] at h₃
  obtain ⟨url, req, htarget, -, hm, hans, hengine, hlive, -⟩ := Endpoint.call_ok he hw₂ h₃
  obtain ⟨url', req', htarget', -, hm', hans', -⟩ := Endpoint.call_ok he hlive h₄
  rw [show "/" ++ name ++ "/_refresh" = reference name ["_refresh".toList] from
    path_word_eq name "_refresh"] at htarget'
  rw [hengine] at hans'
  obtain ⟨base, ends, hbase⟩ := segments_of_reference he.root hn
  have hwrite := hm.segments.trans (hbase segments url hanchored htarget)
  have hrefresh := hm'.segments.trans
    (hbase ["_refresh".toList] url' (anchored_word isWord_refresh) htarget')
  rw [foldl_word isWord_refresh, meanings_word isWord_refresh] at hrefresh
  obtain ⟨rfl, index, rfl⟩ := singleton_of_answers (hm.verb ▸ hverb) hwrite
    (by rw [hans, Engine.idOf?_of_itemAt hjson hid]; rfl) hm'.verb hm'.payload hrefresh hans' hok
  exact ⟨index, fun T u hT hu => hbase T u hT hu⟩

end MetadataIndex

end ContentDepot
