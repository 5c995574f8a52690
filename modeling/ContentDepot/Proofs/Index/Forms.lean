import ContentDepot.Proofs.Index.Document
import ContentDepot.Proofs.Index.Searching
import ContentDepot.Proofs.Index.Writing

/-!
# Requests that can be written

The fields of a request can be written if each of those that are indexed has a
written form (`IndexRequest.HasForm`): it is no operation, and its value can be sent,
an absent one as it is filled in. Then so can the document (`sendable_document_iff`);
and a write that succeeded was one of such a request (`hasForm_of_writing`).
-/

namespace ContentDepot

open Search InMemory Address Exchange

/-- Every field that is indexed has a written form. -/
def IndexRequest.HasForm (fill : Bool) (r : IndexRequest) : Prop :=
  ∀ f ∈ r.resolvedFields, f.writable = true ∧ (fillAbsent fill f.value).sendable = true

namespace MetadataIndex

variable {e : Endpoint} {name : String} {r : IndexRequest} {fill : Bool} {w w' : World}
  {c c' : Context}

/-- A document can be sent exactly if the values of its fields can. -/
theorem sendable_document_iff {hash : String} :
    (Json.obj (document fill (.str hash) (.ofOption r.contentType)
        (some r.resolvedFields))).sendable = true ↔
      ∀ f ∈ r.resolvedFields, (fillAbsent fill f.value).sendable = true := by
  rw [document_eq]
  refine ⟨fun h f hf => ?_, fun h => Json.everyMember_of_forall fun m hm => ?_⟩
  · -- The last field of a name is what the document has under it.
    have hlast := IndexRequest.last?_entries r fill f.name
    rw [r.mem_resolvedFields_iff.1 hf] at hlast
    refine Json.every_of_everyMember h (f.name, fillAbsent fill f.value) (Entries.mem_of_get? ?_)
    rw [Entries.get?_putAll, hlast]
    rfl
  · rcases Entries.mem_putAll hm with hm | hm
    · simp only [List.mem_cons, List.not_mem_nil, or_false] at hm
      rcases hm with rfl | rfl
      · rfl
      · cases r.contentType <;> rfl
    · obtain ⟨f, hf, rfl⟩ := List.mem_map.1 hm
      exact h f hf

/-- What a write that succeeded has written could be written. -/
theorem form_of_writing {id : Option String} {source : Entries Json} {writable : Bool} {v : Json}
    (he : e.IsEngine) (hw : w.Live)
    (h : carry World.answer (writing e name (.ofOption id) source writable) c w = (.ok v, c', w')) :
    writable = true ∧ (Json.obj source).sendable = true := by
  obtain ⟨c₁, w₁, isThere, c₂, w₂, r, c₃, w₃, answer, r', h₁, h₂, hwritable, h₃, -⟩ :=
    writing_steps h
  refine ⟨hwritable, ?_⟩
  have hw₂ := World.live_of_carry (World.live_of_carry hw h₁) h₂
  obtain ⟨verb, segments, payload, -, -, hcall, hcases⟩ :=
    writeDocument_eq e name source fun ht : isThere = true => given_of_documentExists (ht ▸ h₂)
  rw [hcall] at h₃
  obtain ⟨-, -, -, hsend, -⟩ := Endpoint.call_ok he hw₂ h₃
  rcases hcases with ⟨-, rfl, -⟩ | ⟨-, rfl, -⟩
  · simpa [Payload.isSendable, Json.sendable, Json.every, Json.everyMember, Json.everyIn]
      using hsend
  · exact hsend

/-- A write that succeeded was one of a request whose fields have a written form. -/
theorem hasForm_of_writing {id : Option String} {hash : String} {v : Json} (he : e.IsEngine)
    (hw : w.Live)
    (h : carry World.answer (writing e name (.ofOption id)
      (document fill (.str hash) (.ofOption r.contentType) (some r.resolvedFields))
      (r.resolvedFields.all (·.writable))) c w = (.ok v, c', w')) : r.HasForm fill := by
  obtain ⟨hwritable, hsend⟩ := form_of_writing he hw h
  exact fun f hf => ⟨List.all_eq_true.1 hwritable f hf, sendable_document_iff.1 hsend f hf⟩

end MetadataIndex

/-- Fields have a written form if all that the request holds can be written. -/
theorem IndexRequest.hasForm_of_allFields {r : IndexRequest} (fill : Bool)
    (h : ∀ f ∈ r.allFields, f.writable = true ∧ f.value.sendable = true) : r.HasForm fill :=
  fun f hf => ⟨(h f (mem_resolvedFields hf)).1,
    sendable_fillAbsent fill (h f (mem_resolvedFields hf)).2⟩

end ContentDepot
