import ContentDepot.Proofs.Checks
import ContentDepot.Proofs.Json.RoundTrip
import ContentDepot.Repository.Entity

/-!
# Entities and their contents

The check of a model gives the attributes of the model in their order, each with a
value of its kind, and these entities it takes as they are (`EntityModel.admits_iff`).
What is stored of one is read back as it was, unless an integer in it is longer
than the reader admits (`EntityModel.deserialize_serialize`), and different ones are
never stored alike (`EntityModel.Admits.serialize_inj`).

An identifier and a hash can be put into such an entity, and are found in it
(`EntityModel.idOf_withId`, `EntityModel.idOf_withHash`), as long as two attributes
for texts hold them (`EntityModel.IsSound`).
-/

namespace ContentDepot

/-! ## Values of a kind -/

/-- The values that an attribute holds. -/
def AttributeKind.Admits : AttributeKind → Json → Prop
  | text, v => ∃ s, v = .str s
  | optionalText, v => ∃ t : Option String, v = .ofOption t
  | integer, v => ∃ n, v = .int n

namespace AttributeKind

variable {kind : AttributeKind} {v v' : Json}

theorem check_of_admits (h : kind.Admits v) : kind.check v = .ok v := by
  cases kind with
  | optionalText =>
    obtain ⟨t, rfl⟩ := h
    cases t <;> rfl
  | _ =>
    obtain ⟨_, rfl⟩ := h
    rfl

theorem admits_of_check (h : kind.check v = .ok v') : kind.Admits v' := by
  have hgiven : ∀ {α : Type} {f : α → Json} {x : Checked α}, x.map f = .ok v' → ∃ a, v' = f a := by
    intro α f x hx
    cases x with
    | error issues => cases hx
    | ok a =>
      cases hx
      exact ⟨a, rfl⟩
  cases kind <;> exact hgiven h

theorem admits_str (h : kind ≠ .integer) (s : String) : kind.Admits (.str s) := by
  cases kind with
  | text => exact ⟨s, rfl⟩
  | optionalText => exact ⟨some s, rfl⟩
  | integer => exact absurd rfl h

theorem eq_ofOption (h : kind ≠ .integer) (hv : kind.Admits v) :
    ∃ t : Option String, v = .ofOption t := by
  cases kind with
  | text =>
    obtain ⟨s, rfl⟩ := hv
    exact ⟨some s, rfl⟩
  | optionalText => exact hv
  | integer => exact absurd rfl h

end AttributeKind

/-! ## Entities of a model -/

namespace EntityModel

/-- The entity has the attributes of the model in their order, each with a value of its kind. -/
def Admits (m : EntityModel) (e : Entity) : Prop :=
  List.Forall₂ (fun a v => v.1 = a.1 ∧ a.2.Admits v.2) m.attributes e

/-- The attribute is one of the model and holds a text, or may hold one. -/
structure HoldsText (m : EntityModel) (name : String) : Prop where
  mem : name ∈ m.attributes.map Prod.fst
  text : ∀ a ∈ m.attributes, a.1 = name → a.2 ≠ .integer

/-- Every attribute has a name of its own, and different attributes for texts hold the identifier
and the hash. -/
structure IsSound (m : EntityModel) : Prop where
  nodup : (m.attributes.map Prod.fst).Nodup
  id : m.HoldsText m.idAttribute
  hash : m.HoldsText m.hashAttribute
  distinct : m.idAttribute ≠ m.hashAttribute

variable {m : EntityModel} {e : Entity}

theorem Admits.keys (h : m.Admits e) : Entries.keys e = m.attributes.map Prod.fst := by
  unfold Admits at h
  generalize m.attributes = attributes at h
  induction h with
  | nil => rfl
  | cons ha _ ih => rw [Entries.keys_cons, ih, List.map_cons, ha.1]

theorem Admits.of_mem (h : m.Admits e) {v : String × Json} (hv : v ∈ e) :
    ∃ a ∈ m.attributes, v.1 = a.1 ∧ a.2.Admits v.2 := exists_of_forall₂ h hv

/-! ### Checks -/

theorem checkAttribute_of_get? {members : Entries Json} {a : String × AttributeKind} {v : Json}
    (hget : Entries.get? members a.1 = some v) (h : a.2.Admits v) :
    checkAttribute members a = .ok (a.1, v) := by
  obtain ⟨name, kind⟩ := a
  have hcheck := AttributeKind.check_of_admits h
  cases kind <;>
    simp only [checkAttribute, Schema.field, Schema.optionalField, Schema.pick?, hget, hcheck] <;>
    rfl

theorem admits_of_checkAttribute {members : Entries Json} {a : String × AttributeKind}
    {v : String × Json} (h : checkAttribute members a = .ok v) : v.1 = a.1 ∧ a.2.Admits v.2 := by
  obtain ⟨name, kind⟩ := a
  cases kind with
  | optionalText =>
    obtain ⟨given, hx, rfl⟩ := Checked.map_eq_ok.1 h
    refine ⟨rfl, ?_⟩
    rcases Schema.optionalField_eq_ok.1 hx with ⟨-, hv⟩ | ⟨x, -, hx⟩
    · exact ⟨none, hv⟩
    · exact AttributeKind.admits_of_check hx
  | _ =>
    obtain ⟨given, hx, rfl⟩ := Checked.map_eq_ok.1 h
    obtain ⟨x, -, hx⟩ := Schema.field_eq_ok.1 hx
    exact ⟨rfl, AttributeKind.admits_of_check hx⟩

theorem checkAttributes_cons {members : Entries Json} {a : String × AttributeKind}
    {attributes : List (String × AttributeKind)} {e : Entity} :
    checkAttributes members (a :: attributes) = .ok e ↔
      ∃ v es, checkAttribute members a = .ok v ∧ checkAttributes members attributes = .ok es ∧
        e = v :: es := by
  rw [checkAttributes]
  rcases checkAttribute members a with issues | v <;>
    rcases checkAttributes members attributes with issues' | es <;>
    simp [Checked.apply, eq_comm]

theorem checkAttributes_of_forall₂ {members : Entries Json}
    {attributes : List (String × AttributeKind)} {e : Entity}
    (h : List.Forall₂ (fun a v => v.1 = a.1 ∧ a.2.Admits v.2) attributes e)
    (hget : ∀ v ∈ e, Entries.get? members v.1 = some v.2) :
    checkAttributes members attributes = .ok e := by
  induction h with
  | nil => rfl
  | @cons a v attributes es ha _ ih =>
    obtain ⟨name, v⟩ := v
    obtain ⟨rfl, hv⟩ := ha
    exact checkAttributes_cons.2 ⟨_, _, checkAttribute_of_get? (hget _ (List.mem_cons_self ..)) hv,
      ih fun w hw => hget w (List.mem_cons_of_mem _ hw), rfl⟩

theorem check_of_admits (hm : m.IsSound) (h : m.Admits e) : m.check (.obj e) = .ok e :=
  checkAttributes_of_forall₂ h fun _ hv => Entries.get?_of_mem (h.keys ▸ hm.nodup) hv

theorem admits_of_check {v : Json} (h : m.check v = .ok e) : m.Admits e := by
  unfold check at h
  split at h
  · rename_i members
    unfold Admits
    generalize m.attributes = attributes at h ⊢
    induction attributes generalizing e with
    | nil =>
      cases h
      exact .nil
    | cons a attributes ih =>
      obtain ⟨v, es, hv, hes, rfl⟩ := checkAttributes_cons.1 h
      exact .cons (admits_of_checkAttribute hv) (ih hes)
  · cases h

/-- The entities of a model are those that its check gives. -/
theorem admits_iff (hm : m.IsSound) : m.Admits e ↔ ∃ v, m.check v = .ok e :=
  ⟨fun h => ⟨_, check_of_admits hm h⟩, fun ⟨_, h⟩ => admits_of_check h⟩

end EntityModel

/-! ## Contents -/

/-- Whether each integer of an entity is one that is read back from a content. -/
def Entity.isLegible (e : Entity) : Bool :=
  e.all fun v => match v.2 with
    | .int n => Json.Bounds.forRecords.admitsInt n
    | _ => true

namespace EntityModel

variable {m : EntityModel} {e : Entity}

open Json in
/-- A value of an attribute is read back, unless it is an integer that is too long. -/
theorem readable_of_admits {kind : AttributeKind} {v : Json} {depth : Nat} (h : kind.Admits v) :
    Readable .forRecords depth v ∨ IsOversized .forRecords v := by
  cases kind with
  | text =>
    obtain ⟨s, rfl⟩ := h
    exact .inl (.str s)
  | optionalText =>
    obtain ⟨t, rfl⟩ := h
    cases t with
    | none => exact .inl .null
    | some s => exact .inl (.str s)
  | integer =>
    obtain ⟨n, rfl⟩ := h
    cases hn : Bounds.forRecords.admitsInt n with
    | true => exact .inl (.int n hn)
    | false => exact .inr ⟨n, rfl, hn⟩

open Json in
theorem Admits.read (hm : m.IsSound) (h : m.Admits e) :
    read .forRecords (printChars (.obj e)) =
      if e.isLegible then .ok (.obj e) else .error .oversized := by
  have hvalues : ∀ v ∈ e, Readable .forRecords 199 v.2 ∨ IsOversized .forRecords v.2 := by
    intro v hv
    obtain ⟨a, -, -, ha⟩ := h.of_mem hv
    exact readable_of_admits ha
  have hlegible : e.isLegible = true ↔ ∀ v ∈ e, ¬ IsOversized .forRecords v.2 := by
    unfold Entity.isLegible
    rw [List.all_eq_true]
    refine forall₂_congr fun v _ => ?_
    constructor
    · rintro hv ⟨n, hn, hno⟩
      rw [hn] at hv
      exact absurd hv (by simp [hno])
    · intro hno
      split
      · rename_i n hn
        by_contra hfalse
        exact hno ⟨n, hn, by simpa using hfalse⟩
      · rfl
  split
  · rename_i hall
    exact read_printChars (.obj (h.keys ▸ hm.nodup) fun v hv =>
      (hvalues v hv).resolve_right (hlegible.1 hall v hv))
  · rename_i hsome
    refine read_oversized rfl hvalues ?_
    by_contra hnone
    exact hsome (hlegible.2 fun v hv hover => hnone ⟨v, hv, hover⟩)

/-- What is stored of an entity is read back as it was, unless an integer in it is too long. -/
theorem deserialize_serialize (hm : m.IsSound) (h : m.Admits e) :
    m.deserialize (serialize e) = if e.isLegible then .ok e else .fail .jsonInvalid := by
  rw [deserialize, serialize, Text.Utf8.decode?_encode, Json.print, String.toList_ofList]
  dsimp only
  rw [h.read hm]
  cases e.isLegible with
  | true => exact check_of_admits hm h
  | false => rfl

/-- Within wide bounds every entity is read back. -/
theorem Admits.exists_readable (hm : m.IsSound) (h : m.Admits e) :
    ∃ n, ∀ k, n ≤ k → Json.Readable ⟨1, k, false⟩ 1 (.obj e) := by
  have hvalue : ∀ v ∈ e, ∃ n, ∀ k, n ≤ k → Json.Readable ⟨1, k, false⟩ 0 v.2 := by
    intro v hv
    obtain ⟨a, -, -, ha⟩ := h.of_mem hv
    generalize a.2 = kind at ha
    cases kind with
    | text =>
      obtain ⟨s, hs⟩ := ha
      exact ⟨0, fun _ _ => hs ▸ .str s⟩
    | optionalText =>
      obtain ⟨t, ht⟩ := ha
      cases t with
      | none => exact ⟨0, fun _ _ => ht ▸ .null⟩
      | some s => exact ⟨0, fun _ _ => ht ▸ .str s⟩
    | integer =>
      obtain ⟨i, hi⟩ := ha
      refine ⟨(Nat.toDigits 10 i.natAbs).length, fun k hk => hi ▸ .int i ?_⟩
      simpa [Json.Bounds.admitsInt, Json.Bounds.admits] using hk
  -- The widest of the bounds of the values is one for all.
  obtain ⟨n, hn⟩ : ∃ n, ∀ v ∈ e, ∀ k, n ≤ k → Json.Readable ⟨1, k, false⟩ 0 v.2 := by
    generalize e = values at hvalue
    induction values with
    | nil => exact ⟨0, fun _ hv => absurd hv List.not_mem_nil⟩
    | cons v vs ih =>
      obtain ⟨n, hn⟩ := hvalue v (List.mem_cons_self ..)
      obtain ⟨n', hn'⟩ := ih fun w hw => hvalue w (List.mem_cons_of_mem _ hw)
      refine ⟨max n n', fun w hw k hk => ?_⟩
      rcases List.mem_cons.1 hw with rfl | hw
      · exact hn k (by omega)
      · exact hn' w hw k (by omega)
  exact ⟨n, fun k hk => .obj (h.keys ▸ hm.nodup) fun v hv => hn v hv k hk⟩

/-- Different entities have different contents. -/
theorem Admits.serialize_inj (hm : m.IsSound) {e' : Entity} (h : m.Admits e) (h' : m.Admits e')
    (heq : serialize e = serialize e') : e = e' := by
  have hprint : Json.printChars (.obj e) = Json.printChars (.obj e') := by
    have hdecoded := congrArg Text.Utf8.decode? heq
    rw [serialize, serialize, Text.Utf8.decode?_encode, Text.Utf8.decode?_encode, Json.print,
      Json.print, String.toList_ofList, String.toList_ofList] at hdecoded
    exact Option.some.inj hdecoded
  obtain ⟨n, hn⟩ := h.exists_readable hm
  obtain ⟨n', hn'⟩ := h'.exists_readable hm
  have hread := Json.read_printChars (hn (max n n') (by omega))
  rw [hprint, Json.read_printChars (hn' (max n n') (by omega))] at hread
  exact (Json.obj.inj (Except.ok.inj hread)).symm

/-! ## Identifiers and hashes -/

/-- A text can be put into an attribute for texts. -/
theorem Admits.put (h : m.Admits e) {name : String} (hn : m.HoldsText name) (s : String) :
    m.Admits (Entries.put e name (.str s)) := by
  have hk : name ∈ Entries.keys e := h.keys ▸ hn.mem
  replace hn := hn.text
  -- Attributes and entity are walked in step, so the attribute is where the key is.
  unfold Admits at *
  generalize m.attributes = attributes at h hn
  induction h with
  | nil => cases hk
  | @cons a v attributes es ha hes ih =>
    obtain ⟨key, v⟩ := v
    obtain ⟨rfl, hv⟩ := ha
    rw [Entries.put]
    split
    · rename_i hkey
      exact .cons ⟨hkey.symm, AttributeKind.admits_str (hn a (List.mem_cons_self ..) hkey) s⟩ hes
    · rename_i hkey
      refine .cons ⟨rfl, hv⟩ (ih ?_ fun a ha => hn a (List.mem_cons_of_mem _ ha))
      exact (List.mem_cons.1 hk).resolve_left fun h => hkey h.symm

/-- A text in the place of another value that is no integer leaves an entity as legible as it is. -/
theorem Admits.isLegible_put (h : m.Admits e) {name : String} (hn : m.HoldsText name) (s : String) :
    Entity.isLegible (Entries.put e name (.str s)) = Entity.isLegible e := by
  replace hn := hn.text
  unfold Admits at *
  generalize m.attributes = attributes at h hn
  induction h with
  | nil => rfl
  | @cons a v attributes es ha _ ih =>
    obtain ⟨key, v⟩ := v
    obtain ⟨rfl, hv⟩ := ha
    rw [Entries.put]
    split
    · rename_i hkey
      obtain ⟨t, rfl⟩ := AttributeKind.eq_ofOption (hn a (List.mem_cons_self ..) hkey) hv
      cases t <;> rfl
    · simp only [Entity.isLegible, List.all_cons] at ih ⊢
      rw [ih fun a ha => hn a (List.mem_cons_of_mem _ ha)]

/-- The identifier of an entity is a text, if it has one. -/
theorem Admits.exists_idOf (hm : m.IsSound) (h : m.Admits e) :
    ∃ t : Option String, m.idOf e = .ofOption t := by
  unfold idOf
  rcases hget : Entries.get? e m.idAttribute with _ | v
  · exact ⟨none, rfl⟩
  · obtain ⟨a, ha, hname, hv⟩ := h.of_mem (Entries.mem_of_get? hget)
    exact AttributeKind.eq_ofOption (hm.id.text a ha hname.symm) hv

theorem idOf_withId (m : EntityModel) (e : Entity) (id : String) :
    m.idOf (m.withId e id) = .str id := by
  rw [idOf, withId, Entries.get?_put_self]
  rfl

/-- A hash leaves the identifier as it is. -/
theorem idOf_withHash (h : m.idAttribute ≠ m.hashAttribute) (e : Entity) (hash : Option String) :
    m.idOf (m.withHash e hash) = m.idOf e := by
  rw [idOf, withHash, Entries.get?_put, if_neg (Ne.symm h), idOf]

end EntityModel

end ContentDepot
