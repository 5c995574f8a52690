import ContentDepot.Metadata.Record
import ContentDepot.Proofs.Entries

/-!
# Merging the fields of a request

A request has fields of its own and external ones, and a name may come any number of
times among either. The external fields are merged over the others as if both were
one list (`IndexRequest.resolvedFields_eq`): every name is kept once, at the place
where it came first and with the value with which it came last. What is merged has no
name twice, so merging it again changes nothing (`IndexRequest.resolvedFields_merge`).
-/

namespace ContentDepot

/-! ## Fields by their names -/

namespace IndexField

/-- The names of fields. -/
def names (fields : List IndexField) : List String := fields.map (·.name)

/-- The last field of a name. -/
def last? (fields : List IndexField) (name : String) : Option IndexField :=
  (fields.filter (·.name = name)).getLast?

variable {fields : List IndexField}

theorem keys_pairs (fields : List IndexField) :
    Entries.keys (fields.map fun f => (f.name, f)) = names fields := by
  rw [Entries.keys, List.map_map]
  rfl

theorem last?_pairs (fields : List IndexField) (name : String) :
    Entries.last? (fields.map fun f => (f.name, f)) name = last? fields name := by
  induction fields with
  | nil => rfl
  | cons f fs ih =>
    rw [List.map_cons, Entries.last?, ih, last?, last?]
    by_cases h : f.name = name
    · rw [if_pos h, List.filter_cons_of_pos (by simpa using h), List.getLast?_cons]
      cases (fs.filter (·.name = name)).getLast? <;> rfl
    · rw [if_neg h, List.filter_cons_of_neg (by simpa using h), Option.or_none]

theorem last?_append (fields others : List IndexField) (name : String) :
    last? (fields ++ others) name = (last? others name).or (last? fields name) := by
  rw [last?, List.filter_append, List.getLast?_append]
  rfl

theorem byName_append (fields others : List IndexField) :
    byName (fields ++ others) = Entries.putAll (byName fields) (byName others) := by
  have hnil : (Entries.keys ([] : Entries IndexField)).Nodup := List.nodup_nil
  rw [byName, byName, byName, Entries.ofList, Entries.ofList, Entries.ofList,
    Entries.putAll_putAll hnil, List.map_append]
  exact List.foldl_append

/-- Under a name there is its last field. -/
theorem get?_byName (fields : List IndexField) (name : String) :
    Entries.get? (byName fields) name = last? fields name := by
  rw [byName, Entries.ofList, Entries.get?_putAll, Entries.get?_nil, Option.or_none, last?_pairs]

theorem mem_of_mem_byName {e : String × IndexField} (h : e ∈ byName fields) :
    e.2 ∈ fields ∧ e.2.name = e.1 := by
  obtain ⟨f, hf, rfl⟩ := List.mem_map.1 (Entries.mem_ofList h)
  exact ⟨hf, rfl⟩

/-- What is made of the fields that are left and their names. -/
theorem map_byName {β : Type} (fields : List IndexField) (f : String → IndexField → β) :
    ((byName fields).map Prod.snd).map (fun field => f field.name field) =
      (byName fields).map fun e => f e.1 e.2 := by
  rw [List.map_map]
  refine List.map_congr_left fun e he => ?_
  rw [Function.comp_apply, (mem_of_mem_byName he).2]

theorem names_byName (fields : List IndexField) :
    names ((byName fields).map Prod.snd) = (names fields).eraseDups := by
  rw [names, map_byName fields fun name _ => name, ← keys_pairs fields, ← Entries.keys_ofList]
  rfl

theorem mem_byName_iff {f : IndexField} :
    f ∈ (byName fields).map Prod.snd ↔ last? fields f.name = some f := by
  rw [← get?_byName]
  constructor
  · intro h
    obtain ⟨e, he, rfl⟩ := List.mem_map.1 h
    rw [(mem_of_mem_byName he).2]
    exact Entries.get?_of_mem (Entries.nodup_ofList _) he
  · exact fun h => List.mem_map.2 ⟨_, Entries.mem_of_get? h, rfl⟩

/-- Fields of which no two have one name are kept as they are. -/
theorem map_snd_byName (h : (names fields).Nodup) : (byName fields).map Prod.snd = fields := by
  rw [byName, Entries.ofList_of_nodup (by rwa [keys_pairs]), List.map_map]
  exact List.map_id fields

/-- The values by their names are those of the fields that are left. -/
theorem toEntries_byName (fields : List IndexField) :
    toEntries ((byName fields).map Prod.snd) = toEntries fields := by
  have hvalues : (fields.map fun f => (f.name, f.value)) =
      (fields.map fun f => (f.name, f)).map fun e => (e.1, e.2.value) := by
    rw [List.map_map]
    rfl
  have hkeys : Entries.keys ((byName fields).map fun e => (e.1, e.2.value)) =
      Entries.keys (byName fields) := by
    rw [Entries.keys, List.map_map]
    rfl
  rw [toEntries, map_byName fields fun name field => (name, field.value),
    Entries.ofList_of_nodup (hkeys ▸ Entries.nodup_ofList _), toEntries, hvalues,
    Entries.ofList_map IndexField.value]
  rfl

end IndexField

/-! ## The fields of a request -/

namespace IndexRequest

/-- The fields of a request in their order, the external ones last. -/
def allFields (r : IndexRequest) : List IndexField := r.fields ++ r.externalFields.getD []

/-- The last field of a name. -/
def lastField? (r : IndexRequest) (name : String) : Option IndexField :=
  (r.allFields.filter (·.name = name)).getLast?

variable (r : IndexRequest)

theorem resolvedFields_eq : r.resolvedFields = (IndexField.byName r.allFields).map Prod.snd := by
  rw [resolvedFields, allFields, IndexField.byName_append]

theorem lastField?_of_ne {key : String} (h : ∀ f ∈ r.allFields, f.name ≠ key) :
    r.lastField? key = none := by
  rw [lastField?, List.filter_eq_nil_iff.2 (by simpa using h)]
  rfl

theorem name_of_lastField? {f : IndexField} {name : String} (h : r.lastField? name = some f) :
    f ∈ r.allFields ∧ f.name = name := by
  simpa using List.mem_filter.1 (List.mem_of_getLast? h)

/-- The fields that are indexed are the last of their names. -/
theorem mem_resolvedFields_iff {f : IndexField} :
    f ∈ r.resolvedFields ↔ r.lastField? f.name = some f := by
  rw [resolvedFields_eq]
  exact IndexField.mem_byName_iff

variable {r} in
/-- No field is indexed that the request does not hold. -/
theorem mem_resolvedFields {f : IndexField} (h : f ∈ r.resolvedFields) : f ∈ r.allFields :=
  (r.name_of_lastField? (r.mem_resolvedFields_iff.1 h)).1

/-- Merging keeps every name of the two lists once, in the order in which the names come first.
The field of a name is its last external one, or its last one if none is external. So the values
by their names are those of both lists together, and a request that is built from the merged
fields, as its own or as external ones, has just these as its merged fields. -/
theorem resolvedFields_merge :
    (IndexField.names r.resolvedFields).Nodup ∧
    (∀ name, name ∈ IndexField.names r.resolvedFields ↔
      name ∈ IndexField.names r.fields ∨ name ∈ IndexField.names (r.externalFields.getD [])) ∧
    (IndexField.names r.resolvedFields).Pairwise (fun a b =>
      (IndexField.names r.allFields).idxOf a < (IndexField.names r.allFields).idxOf b) ∧
    (∀ f, f ∈ r.resolvedFields ↔
      (IndexField.last? (r.externalFields.getD []) f.name).or
        (IndexField.last? r.fields f.name) = some f) ∧
    IndexField.toEntries r.resolvedFields = IndexField.toEntries r.allFields ∧
    resolvedFields { r with fields := r.resolvedFields, externalFields := none } =
      r.resolvedFields ∧
    resolvedFields { r with fields := [], externalFields := some r.resolvedFields } =
      r.resolvedFields := by
  have hnames : IndexField.names r.resolvedFields = (IndexField.names r.allFields).eraseDups := by
    rw [resolvedFields_eq, IndexField.names_byName]
  have hnodup : (IndexField.names r.resolvedFields).Nodup := hnames ▸ nodup_eraseDups _
  have hagain : (IndexField.byName r.resolvedFields).map Prod.snd = r.resolvedFields :=
    IndexField.map_snd_byName hnodup
  refine ⟨hnodup, fun name => ?_, ?_, fun f => ?_, ?_, ?_, ?_⟩
  · rw [hnames, List.mem_eraseDups, allFields, IndexField.names, List.map_append, List.mem_append]
    rfl
  · rw [hnames]
    exact pairwise_idxOf_eraseDups _
  · rw [mem_resolvedFields_iff, ← IndexField.last?_append]
    rfl
  · rw [resolvedFields_eq, IndexField.toEntries_byName]
  · rw [resolvedFields_eq, allFields]
    dsimp only
    rw [Option.getD_none, List.append_nil, hagain]
  · rw [resolvedFields_eq, allFields]
    exact hagain

end IndexRequest

end ContentDepot
