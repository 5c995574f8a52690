import ContentDepot.Proofs.Checks
import ContentDepot.Proofs.Json.RoundTrip
import ContentDepot.Query.Builder

/-!
# Queries are read back

The written form of a query is read as the same query. What could go wrong is the
operation: an unknown one is kept as the text of whatever value stood for it, and
that text is later read as an operation again. It names none of the nine
(`ofLabel?_text`), so a query that was built or read holds no other kind of
operation (`Query.IsGenuine`):

* `Clause.check_toWire`: a clause with a genuine operation is read back, with one
  field or with several;
* `Query.isGenuine_of_fromWire`, `Query.IsGenuine.buildAll`: reading and building
  give such queries;
* `fromWire_toWire_buildAll`: the written form of a query that was read, and built
  further, is read back, and the spellings of a list of clauses agree.
-/

namespace ContentDepot

/-! ## Operations -/

/-- Whether the character may stand in the name of a known operation. -/
def Operation.isLabelChar (c : Char) : Bool := c.isLower || c == '_'

theorem Operation.isLabelChar_of_mem {op : Operation} {c : Char} (h : c ∈ op.label.toList) :
    isLabelChar c = true := by
  have hall : (op.label.toList.all isLabelChar) = true := by cases op <;> decide
  exact List.all_eq_true.1 hall c h

theorem Operation.isLabelChar_of_isDigit {c : Char} (h : c.isDigit = true) :
    isLabelChar c = false := by
  have hle : c.toNat ≤ 57 := (Char.isDigit_iff_toNat.1 h).2
  have hlower : c.isLower = false := by
    delta Char.isLower
    simp only [ge_iff_le, UInt32.le_iff_toNat_le, Bool.and_eq_false_iff, decide_eq_false_iff_not]
    exact .inl fun hge => absurd (Nat.le_trans hge hle) (by decide)
  rw [isLabelChar, hlower, Bool.false_or, beq_eq_false_iff_ne]
  exact Json.ne_of_isDigit h (by decide)

/-- A text with another character names no operation. -/
theorem Operation.ofLabel?_of_mem {s : String} {c : Char} (h : c ∈ s.toList)
    (hc : isLabelChar c = false) : ofLabel? s = none := by
  refine List.find?_eq_none.2 fun op _ hop => ?_
  rw [beq_iff_eq] at hop
  rw [isLabelChar_of_mem (hop ▸ h)] at hc
  cases hc

/-- A finite number is shown with a point or with the sign of its exponent. -/
theorem Binary64.exists_mem_layout (ds : List Char) (exponent : Int) :
    ∃ c ∈ layout ds exponent, c = '.' ∨ c = '+' ∨ c = '-' := by
  unfold layout
  split
  · split
    · exact ⟨'.', by simp, .inl rfl⟩
    · exact ⟨'.', by simp, .inl rfl⟩
  · by_cases h : exponent < 0
    · exact ⟨'-', by simp [h], .inr (.inr rfl)⟩
    · exact ⟨'+', by simp [h], .inr (.inl rfl)⟩

theorem Binary64.ofLabel?_render (x : Binary64) : Operation.ofLabel? x.render = none := by
  have hmark : ∀ c : Char, c = '.' ∨ c = '+' ∨ c = '-' → Operation.isLabelChar c = false := by
    rintro c (rfl | rfl | rfl) <;> decide
  cases x with
  | nan => decide
  | infinite s => cases s <;> decide
  | finite s m e =>
    by_cases hm : m = 0
    · refine Operation.ofLabel?_of_mem (c := '.') ?_ (hmark _ (.inl rfl))
      simp [render, hm]
    · obtain ⟨c, hc, hsort⟩ := exists_mem_layout (dropZeros (Nat.toDigits 10 (digits m e).1))
        ((digits m e).2 + (Nat.toDigits 10 (digits m e).1).length - 1)
      refine Operation.ofLabel?_of_mem (c := c) ?_ (hmark c hsort)
      rw [render, if_neg hm, String.toList_ofList]
      exact List.mem_append_right _ hc

/-- The text of a value that is no text names no operation. -/
theorem ofLabel?_text {v : Json} (h : ∀ s, v ≠ .str s) : Operation.ofLabel? v.text = none := by
  cases v with
  | null => decide
  | bool b => cases b <;> decide
  | int n =>
    obtain ⟨c, cs, hn, hc⟩ := Json.exists_printChars_int n
    have hmem : c ∈ (toString n).toList := by
      rw [show (toString n).toList = c :: cs from hn]
      exact List.mem_cons_self ..
    refine Operation.ofLabel?_of_mem hmem ?_
    rcases hc with rfl | hdigit
    · decide
    · exact Operation.isLabelChar_of_isDigit hdigit
  | float x => exact x.ofLabel?_render
  | str s => exact absurd rfl (h s)
  | arr items =>
    exact Operation.ofLabel?_of_mem (c := '[') (by simp [Json.text, Json.shown]) (by decide)
  | obj members =>
    exact Operation.ofLabel?_of_mem (c := '\x7b') (by simp [Json.text, Json.shown]) (by decide)

/-- An operation that is one of the nine, or whose name is none of theirs. -/
def ClauseOperation.IsGenuine : ClauseOperation → Prop
  | known _ => True
  | other s => Operation.ofLabel? s = none

/-- A genuine operation is read from its name. -/
theorem ClauseOperation.IsGenuine.ofLabel_label {op : ClauseOperation} (h : op.IsGenuine) :
    ofLabel op.label = op := by
  cases op with
  | known op => rw [label, ofLabel, Operation.ofLabel?_label]
  | other s => rw [label, ofLabel, show Operation.ofLabel? s = none from h]

/-- Whatever value stands for it, an operation is genuine. -/
theorem ClauseOperation.isGenuine_ofJson (v : Json) : (ofJson v).IsGenuine := by
  cases v with
  | str s =>
    rw [ofJson, ofLabel]
    rcases h : Operation.ofLabel? s with _ | op
    · exact h
    · exact trivial
  | _ => exact ofLabel?_text fun s h => by cases h

/-! ## Clauses -/

namespace Checked

variable {α : Type}

/-- A list passes a check if each of its items does. -/
theorem allFrom_map {β : Type} {check : Json → Checked α} {f : β → Json} {g : β → α} {xs : List β}
    (h : ∀ x ∈ xs, check (f x) = .ok (g x)) (position : Nat) :
    allFrom check position (xs.map f) = .ok (xs.map g) := by
  rw [allFrom_eq_ok, List.forall₂_map_left_iff, List.forall₂_map_right_iff, List.forall₂_same]
  exact h

end Checked

namespace Clause

/-- The operation of the clause is genuine. -/
def IsGenuine (c : Clause) : Prop := c.operation.IsGenuine

/-- An object is the clause whose parts stand under its keys. -/
theorem check_of_members {notAnObject : IssueKind} {members : Entries Json} {names : List String}
    {operation value : Json} (hn : checkNames members = .ok names)
    (ho : Entries.get? members "operation" = some operation)
    (hv : Entries.get? members "value" = some value) :
    check notAnObject (.obj members) = .ok (ofParts names (.ofJson operation) value) := by
  simp only [check, hn, Schema.field, Schema.optionalField, Schema.pick?, ho, hv]
  rfl

theorem nonEmptyListOf_names (name : String) (moreNames : List String) :
    Schema.nonEmptyListOf Schema.string (.arr ((name :: moreNames).map Json.str)) =
      .ok (name :: moreNames) := by
  have hlist : Checked.all Schema.string ((name :: moreNames).map Json.str) =
      .ok ((name :: moreNames).map id) :=
    Checked.allFrom_map (f := Json.str) (g := id) (fun _ _ => rfl) 0
  rw [Schema.nonEmptyListOf, Schema.listOf, hlist, List.map_id]
  rfl

/-- A clause with a genuine operation is read back, whether it names one field or several. -/
theorem check_toWire (notAnObject : IssueKind) {c : Clause} (h : c.IsGenuine) :
    check notAnObject c.toWire = .ok c := by
  have hoperation : ClauseOperation.ofJson (.str c.operation.label) = c.operation :=
    h.ofLabel_label
  obtain ⟨name, moreNames, operation, value⟩ := c
  cases moreNames with
  | nil =>
    have hnames : checkNames [("name", .str name), ("operation", .str operation.label),
        ("value", value)] = .ok [name] := by
      show (Schema.nonEmptyListOf Schema.string (.arr ([name].map Json.str))).inside
        (.key "names") = _
      rw [nonEmptyListOf_names]
      rfl
    rw [toWire, check_of_members hnames rfl rfl, hoperation]
    rfl
  | cons other others =>
    have hnames : checkNames [("names", .arr ((name :: other :: others).map Json.str)),
        ("operation", .str operation.label), ("value", value)] = .ok (name :: other :: others) := by
      show (Schema.nonEmptyListOf Schema.string _).inside (.key "names") = _
      rw [nonEmptyListOf_names]
      rfl
    rw [toWire]
    dsimp only
    rw [Clause.names, check_of_members hnames rfl rfl, hoperation]
    rfl

/-- A clause that was read is made of parts, its operation of some value. -/
theorem exists_of_check {notAnObject : IssueKind} {v : Json} {c : Clause}
    (h : check notAnObject v = .ok c) :
    ∃ names operation value, c = ofParts names (.ofJson operation) value := by
  cases v with
  | obj members =>
    simp only [check, Schema.field] at h
    rcases hn : checkNames members with _ | names <;>
      rcases ho : Schema.pick? members ["operation"] with _ | ⟨key, operation⟩ <;>
      rcases hv : Schema.optionalField members ["value"] Json.null .ok with _ | value <;>
      rw [hn, ho, hv] at h <;> cases h
    exact ⟨names, operation, value, rfl⟩
  | _ => cases h

/-- A clause that was read has a genuine operation. -/
theorem isGenuine_of_check {notAnObject : IssueKind} {v : Json} {c : Clause}
    (h : check notAnObject v = .ok c) : c.IsGenuine := by
  obtain ⟨names, operation, value, rfl⟩ := exists_of_check h
  exact ClauseOperation.isGenuine_ofJson operation

end Clause

/-! ## Queries -/

namespace Query

/-- Every clause has a genuine operation. -/
def IsGenuine (q : Query) : Prop := ∀ c ∈ q.clauses, c.IsGenuine

/-- A query with genuine operations is read back. -/
theorem fromWire_toWire {q : Query} (h : q.IsGenuine) : fromWire q.toWire = .ok q := by
  have hall : Checked.all (Clause.check .modelType) (q.clauses.map Clause.toWire) =
      .ok (q.clauses.map id) :=
    Checked.allFrom_map (f := Clause.toWire) (g := id)
      (fun c hc => Clause.check_toWire .modelType (h c hc)) 0
  show ((Checked.all (Clause.check .modelType) (q.clauses.map Clause.toWire)).inside
    (.key "query")).map Query.mk = .ok q
  rw [hall, List.map_id]
  rfl

/-- A query object that was read has genuine operations. -/
theorem isGenuine_of_check {notAnObject : IssueKind} {v : Json} {q : Query}
    (h : check notAnObject v = .ok q) : q.IsGenuine := by
  cases v with
  | obj members =>
    simp only [check, Schema.optionalField] at h
    rcases hp : Schema.pick? members ["query", "filter_clauses"] with _ | ⟨key, written⟩ <;>
      simp only [hp] at h
    · cases h
      exact fun c hc => by cases hc
    cases written with
    | arr items =>
      rcases hitems : Schema.listOf (Clause.check notAnObject) (.arr items) with _ | clauses <;>
        simp only [hitems] at h <;> cases h
      obtain ⟨_, -, hall⟩ := Schema.listOf_eq_ok.1 hitems
      intro c hc
      obtain ⟨v, -, hv⟩ := exists_of_forall₂ hall hc
      exact Clause.isGenuine_of_check hv
    | _ => cases h
  | _ => cases h

/-- A query that was read has genuine operations. -/
theorem isGenuine_of_fromWire {payload : Json} {q : Query} (h : fromWire payload = .ok q) :
    q.IsGenuine := by
  cases payload with
  | null =>
    cases h
    exact fun c hc => by cases hc
  | arr items =>
    exact isGenuine_of_check (show check .modelType (.obj [("query", .arr items)]) = .ok q from h)
  | obj members => exact isGenuine_of_check (show check .modelType (.obj members) = .ok q from h)
  | _ => cases h

/-- A clause with a genuine operation may be added. -/
theorem IsGenuine.add {q : Query} (h : q.IsGenuine) {c : Clause} (hc : c.IsGenuine) :
    (q.add c).IsGenuine := by
  intro c' hc'
  rcases List.mem_append.1 hc' with hc' | hc'
  · exact h c' hc'
  · rw [List.mem_singleton.1 hc']
    exact hc

/-- A step of building keeps the operations genuine. -/
theorem IsGenuine.build {q q' : Query} (h : q.IsGenuine) {step : BuildStep}
    (hq : q.build step = .ok q') : q'.IsGenuine := by
  cases step with
  | add operation names value =>
    rcases hn : namesOf names with f | ns <;> simp only [Query.build, hn] at hq <;> cases hq
    exact h.add (ClauseOperation.isGenuine_ofJson operation)
  | addKnown op names value =>
    rcases hn : namesOf names with f | ns <;> simp only [Query.build, hn] at hq <;> cases hq
    exact h.add trivial
  | addAmong names values =>
    rcases hi : itemsOf? values with _ | items <;>
      rcases hn : namesOf names with f | ns <;> simp only [Query.build, hi, hn] at hq <;> cases hq
    exact h.add trivial
  | setValue position value =>
    rcases hp : placeOf position q.clauses.length with f | place <;>
      simp only [Query.build, hp] at hq <;> cases hq
    intro c hc
    obtain ⟨i, hi, rfl⟩ := List.mem_iff_getElem.1 hc
    rw [List.length_modify] at hi
    have hget := h q.clauses[i] (List.getElem_mem hi)
    rw [Clause.IsGenuine, List.getElem_modify]
    split
    · exact hget
    · exact hget

/-- Whatever steps it is built by, a query keeps its operations genuine. -/
theorem IsGenuine.buildAll {q : Query} (h : q.IsGenuine) (steps : List BuildStep) :
    (q.buildAll steps).1.IsGenuine := by
  induction steps generalizing q with
  | nil => exact h
  | cons step steps ih =>
    rw [Query.buildAll]
    rcases hq : q.build step with f | q'
    · exact ih h
    · exact ih (h.build hq)

theorem isGenuine_empty : empty.IsGenuine := fun _ hc => by cases hc

/-- The written form of the query that a value stands for. -/
def normalize (payload : Json) : Checked Json := (fromWire payload).map toWire

theorem normalize_normalize (payload : Json) :
    (normalize payload >>= normalize) = normalize payload := by
  rcases hq : fromWire payload with issues | q
  · rw [normalize, hq]
    rfl
  · have hwritten : normalize payload = .ok q.toWire := by rw [normalize, hq]; rfl
    rw [hwritten]
    show normalize q.toWire = .ok q.toWire
    rw [normalize, fromWire_toWire (isGenuine_of_fromWire hq)]
    rfl

/-- The key under which the clauses stand decides only where an issue is reported. -/
theorem fromWire_filterClauses (items : List Json) (q : Query) :
    fromWire (.obj [("filter_clauses", .arr items)]) = .ok q ↔
      fromWire (.arr items) = .ok q := by
  have hkey : ∀ key, ((Checked.all (Clause.check .modelType) items).inside key).map Query.mk =
      .ok q ↔ (Checked.all (Clause.check .modelType) items).map Query.mk = .ok q := by
    intro key
    rcases Checked.all (Clause.check .modelType) items with issues | clauses
    · constructor
      · intro h
        cases h
      · intro h
        cases h
    · exact Iff.rfl
  exact (hkey (.key "filter_clauses")).trans (hkey (.key "query")).symm

/-- A query that was read, or begun as the empty one, and then built by any steps, is read back
from its written form with the same clauses. So reading and writing a value a second time changes
nothing, and a list of clauses stands for the same query on its own and under either key. -/
theorem fromWire_toWire_buildAll (payload : Json) (steps : List BuildStep) (items : List Json) :
    (∀ q, fromWire payload = .ok q →
      fromWire (q.buildAll steps).1.toWire = .ok (q.buildAll steps).1) ∧
    fromWire (empty.buildAll steps).1.toWire = .ok (empty.buildAll steps).1 ∧
    (normalize payload >>= normalize) = normalize payload ∧
    fromWire (.obj [("query", .arr items)]) = fromWire (.arr items) ∧
    ∀ q, fromWire (.obj [("filter_clauses", .arr items)]) = .ok q ↔
      fromWire (.arr items) = .ok q :=
  ⟨fun _ h => fromWire_toWire ((isGenuine_of_fromWire h).buildAll steps),
    fromWire_toWire (isGenuine_empty.buildAll steps), normalize_normalize payload, rfl,
    fromWire_filterClauses items⟩

/-- An unknown operation, given as a truth value, and a clause with two fields come back. -/
theorem fromWire_toWire_ofTruth :
    ∃ q, fromWire (.arr [.obj [("name", .str "a"), ("operation", .bool true)]]) = .ok q ∧
      (q.buildAll [.addKnown .fullText (.arr [.str "a", .str "b"]) (.str "x")]).1.clauses =
        [⟨"a", [], .other "True", .null⟩, ⟨"a", ["b"], .known .fullText, .str "x"⟩] ∧
      fromWire (q.buildAll [.addKnown .fullText (.arr [.str "a", .str "b"]) (.str "x")]).1.toWire =
        .ok (q.buildAll [.addKnown .fullText (.arr [.str "a", .str "b"]) (.str "x")]).1 :=
  ⟨⟨[⟨"a", [], .other "True", .null⟩]⟩, by rfl, by rfl,
    (fromWire_toWire_buildAll (.arr [.obj [("name", .str "a"), ("operation", .bool true)]])
      [.addKnown .fullText (.arr [.str "a", .str "b"]) (.str "x")] []).1 _ (by rfl)⟩

end Query

end ContentDepot
