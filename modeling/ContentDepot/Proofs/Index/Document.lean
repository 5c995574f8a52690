import ContentDepot.Proofs.Index.LookingUp
import ContentDepot.Proofs.InMemory.Engine
import ContentDepot.Proofs.Metadata.Merging

/-!
# Documents of contents

A document holds the hash and the content type of a content under the reserved
keys, and the fields of the caller beside them. A field whose name is a reserved
key takes its place:

* `get?_written`: under every key, the last field of that name comes first;
* `get?_written_reserved`: so it does under the reserved keys;
* `ofDocument_written`: without such fields, the record has what was written.
-/

namespace ContentDepot

open Search

/-! ## The fields of a request -/

namespace IndexRequest

/-- The fields of a request as they are indexed. -/
def entries (r : IndexRequest) (fill : Bool) : Entries Json :=
  r.resolvedFields.map fun f => (f.name, fillAbsent fill f.value)

variable (r : IndexRequest) (fill : Bool)

/-- Of the fields of one name the last is indexed. -/
theorem last?_entries (name : String) :
    Entries.last? (r.entries fill) name =
      (r.lastField? name).map fun f => fillAbsent fill f.value := by
  have hentries : r.entries fill =
      (IndexField.byName r.allFields).map fun e => (e.1, fillAbsent fill e.2.value) := by
    rw [entries, resolvedFields_eq]
    exact IndexField.map_byName r.allFields fun name field => (name, fillAbsent fill field.value)
  have hnodup : (Entries.keys (IndexField.byName r.allFields)).Nodup := Entries.nodup_ofList _
  rw [hentries, Entries.last?_map fun f : IndexField => fillAbsent fill f.value,
    Entries.last?_of_nodup hnodup, IndexField.get?_byName]
  rfl

theorem ne_of_mem_entries {key : String} (h : ∀ f ∈ r.allFields, f.name ≠ key) :
    ∀ e ∈ r.entries fill, e.1 ≠ key := by
  intro e he
  obtain ⟨f, hf, rfl⟩ := List.mem_map.1 he
  exact h f (mem_resolvedFields hf)

end IndexRequest

/-! ## The document -/

namespace MetadataIndex

theorem document_eq (fill : Bool) (hash contentType : Json) (r : IndexRequest) :
    document fill hash contentType (some r.resolvedFields) =
      Entries.putAll [(hashKey, hash), (contentTypeKey, contentType)] (r.entries fill) := rfl

theorem nodup_reserved (hash contentType : Json) :
    (Entries.keys [(hashKey, hash), (contentTypeKey, contentType)]).Nodup :=
  show [hashKey, contentTypeKey].Nodup by decide

/-- No key occurs twice in the document of a write. -/
theorem nodup_document (fill : Bool) (hash contentType : Json)
    (fields : Option (List IndexField)) :
    (Entries.keys (document fill hash contentType fields)).Nodup :=
  Entries.nodup_putAll (nodup_reserved hash contentType) _

/-- A document that was written holds what was put last, whatever was there before. -/
theorem putAll_document (old : Entries Json) (fill : Bool) (hash contentType : Json)
    (r : IndexRequest) :
    Entries.putAll old (document fill hash contentType (some r.resolvedFields)) =
      Entries.putAll (Entries.putAll old [(hashKey, hash), (contentTypeKey, contentType)])
        (r.entries fill) := by
  rw [document_eq, Entries.putAll_putAll (nodup_reserved hash contentType)]

/-- The value of a key in a document that was written. -/
theorem get?_written (old : Entries Json) (fill : Bool) (hash contentType : Json)
    (r : IndexRequest) (key : String) :
    Entries.get? (Entries.putAll old (document fill hash contentType (some r.resolvedFields))) key =
      ((r.lastField? key).map fun f => fillAbsent fill f.value).or
        ((Entries.last? [(hashKey, hash), (contentTypeKey, contentType)] key).or
          (Entries.get? old key)) := by
  rw [putAll_document, Entries.get?_putAll, Entries.get?_putAll, IndexRequest.last?_entries]

/-- Under a reserved key there is the last field of that name, or what the write puts there. -/
theorem get?_written_reserved (old : Entries Json) (fill : Bool) (hash contentType : Json)
    (r : IndexRequest) :
    let d := Entries.putAll old (document fill hash contentType (some r.resolvedFields))
    Entries.get? d hashKey =
        some (((r.lastField? hashKey).map fun f => fillAbsent fill f.value).getD hash) ∧
      Entries.get? d contentTypeKey =
        some (((r.lastField? contentTypeKey).map fun f => fillAbsent fill f.value).getD
          contentType) := by
  have hne : hashKey ≠ contentTypeKey := by decide
  dsimp only
  rw [get?_written, get?_written]
  constructor
  · rcases r.lastField? hashKey with _ | f
    · simp [Entries.last?, hne.symm]
    · rfl
  · rcases r.lastField? contentTypeKey with _ | f
    · simp [Entries.last?]
    · rfl

theorem document_eq_putAll (fill : Bool) (hash contentType : Json) (r : IndexRequest) :
    document fill hash contentType (some r.resolvedFields) =
      Entries.putAll [] (document fill hash contentType (some r.resolvedFields)) := by
  rw [putAll_document]
  rfl

/-- Where no field of the caller has the name of the hash, the hash is what the write puts there. -/
theorem get?_written_hash (old : Entries Json) (fill : Bool) (hash contentType : Json)
    {r : IndexRequest} (h : ∀ f ∈ r.allFields, f.name ≠ hashKey) :
    Entries.get? (Entries.putAll old (document fill hash contentType (some r.resolvedFields)))
      hashKey = some hash := by
  rw [(get?_written_reserved old fill hash contentType r).1, r.lastField?_of_ne h]
  rfl

/-- A write goes over the document that is there, as if over an empty one where there is none. -/
theorem writtenTo_document (engine : InMemory.Engine) (index : String) (given : Option String)
    (fill : Bool) (hash contentType : Json) (r : IndexRequest) :
    engine.writtenTo index given (document fill hash contentType (some r.resolvedFields)) =
      Entries.putAll ((given.bind (Entries.get? (engine.documents index))).getD [])
        (document fill hash contentType (some r.resolvedFields)) := by
  unfold InMemory.Engine.writtenTo
  split
  · rename_i d hd
    rw [hd]
    rfl
  · rename_i hd
    rw [hd, Option.getD_none]
    exact document_eq_putAll fill hash contentType r

/-- The record of a document that was written, where no field of the caller has a reserved name. -/
theorem ofDocument_written (index id : String) (old : Entries Json) (fill : Bool) (hash : String)
    {r : IndexRequest} (hh : ∀ f ∈ r.allFields, f.name ≠ hashKey)
    (hc : ∀ f ∈ r.allFields, f.name ≠ contentTypeKey) :
    Metadata.ofDocument index id (Entries.putAll old
        (document fill (.str hash) (.ofOption r.contentType) (some r.resolvedFields))) =
      { index, id
        hash := some hash
        contentType := r.contentType
        fields := Entries.putAll (Metadata.ofDocument index id old).fields (r.entries fill) } := by
  have hfields := putAll_document old fill (.str hash) (.ofOption r.contentType) r
  unfold Metadata.ofDocument
  rw [get?_written, get?_written, r.lastField?_of_ne hh, r.lastField?_of_ne hc, hfields,
    Entries.erase_putAll _ (r.ne_of_mem_entries fill hh),
    Entries.erase_putAll _ (r.ne_of_mem_entries fill hc)]
  have hct : textOf? (some (.ofOption r.contentType)) = r.contentType := by
    cases r.contentType <;> rfl
  have herase : Entries.erase (Entries.erase (Entries.putAll old
      [(hashKey, .str hash), (contentTypeKey, .ofOption r.contentType)]) hashKey) contentTypeKey =
      Entries.erase (Entries.erase old hashKey) contentTypeKey := by
    show Entries.erase (Entries.erase (Entries.put (Entries.put old hashKey _) contentTypeKey _)
      hashKey) contentTypeKey = _
    rw [Entries.erase_put_of_ne _ (by decide), Entries.erase_put_self, Entries.erase_put_self]
  rw [herase]
  exact congrArg (fun ct => Metadata.mk index id (some hash) ct _) hct

end MetadataIndex

end ContentDepot
