import ContentDepot.Proofs.Session.Quiet

/-!
# What a look-up finds

* `Metadata.ofDocument`: the record that a document makes.
* `lookingUp_eq`: a look-up finds the document where its path leads.
* `quiet_lookingUp`: it changes no document.
-/

namespace ContentDepot

open InMemory Text.DotSegments Address Exchange Search

/-- The record that a document makes: its reserved keys are not among its fields. -/
def Metadata.ofDocument (index id : String) (d : Entries Json) : Metadata where
  index := index
  id := id
  hash := textOf? (Entries.get? d hashKey)
  contentType := textOf? (Entries.get? d contentTypeKey)
  fields := Entries.erase (Entries.erase d hashKey) contentTypeKey

/-- A connection is opened without a request. -/
theorem carry_connect {s : Settings} {b : Backend} {e : Endpoint} (h : s.endpoint? b = some e)
    (c : Context) (w : World) :
    ∃ c', carry World.answer (connect s b) c w = (.ok (), c', w) := by
  unfold connect
  rw [carry_bind_of_ok (carry_context ..)]
  split
  · exact ⟨_, rfl⟩
  · rw [h, carry_bind_of_ok (carry_emit ..)]
    exact ⟨_, carry_modify ..⟩

theorem carry_connected {s : Settings} {b : Backend} {e : Endpoint} (h : s.endpoint? b = some e)
    (c : Context) (w : World) :
    ∃ c', carry World.answer (connected s b) c w = (.ok e, c', w) := by
  obtain ⟨c', hc⟩ := carry_connect h c w
  unfold connected
  rw [carry_bind_of_ok hc, h]
  exact ⟨c', rfl⟩

namespace MetadataIndex

variable {e : Endpoint} {name index : String} {w w' : World} {c c' : Context}

/-- A look-up gives the record of the document, or finds none. -/
theorem lookingUp_eq {id : String} {url : Url} (he : e.IsEngine) (hl : e.address.Leads name index)
    (hw : w.Live) (hf : w.engine.failing = none) (h0 : id ≠ "") (h1 : id ≠ ".") (h2 : id ≠ "..")
    (ht : e.address.target (documentPath name (.str id)) = .ok url) (c : Context) :
    ∃ w', carry World.answer (lookingUp e name (.str id)) c w =
      (match Entries.get? (w.engine.documents index) id with
        | some d => .ok (.ofDocument index id d)
        | none => .error .absent, c, w') := by
  have hpath := documentPath_eq name id
  rw [hpath] at ht
  have hs := hl _ url (anchored_segment isWord_doc h0) ht
  rw [foldl_segment isWord_doc h1 h2, meanings_segment isWord_doc] at hs
  obtain ⟨r, w', hm, -, -, hcall⟩ := Endpoint.call_of_target he hw ht .get
    (show Address.queryLength [] ≤ Url.maxLength by decide)
    (show Payload.isSendable .empty = true from rfl) c
  rw [← hpath, Engine.answer_get hf hm.verb (hm.segments.trans hs)] at hcall
  refine ⟨w', ?_⟩
  unfold lookingUp
  rcases hd : Entries.get? (w.engine.documents index) id with _ | d
  · obtain ⟨body, hb⟩ := Engine.getDocument_of_none hd
    rw [hb] at hcall
    rw [carry_bind_of_ok hcall]
    rfl
  · rw [Engine.getDocument_of_some hd] at hcall
    rw [carry_bind_of_ok hcall]
    rfl

/-- A look-up is quiet, whatever the name. -/
theorem quiet_lookingUp (he : e.IsEngine) (id : Json) : Quiet (lookingUp e name id) := by
  refine .bind (.call_read he (.inl rfl)) fun r => ?_
  dsimp only
  split
  · exact .throw_bind _ _
  · refine .bind (.check _) fun _ => .bind (.ofRead _) fun _ => .bind (.ofRead _) fun found => ?_
    split
    · exact .throw_bind _ _
    · exact .ofRead _

end MetadataIndex

end ContentDepot
