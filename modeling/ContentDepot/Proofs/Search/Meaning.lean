import ContentDepot.InMemory.Engine
import ContentDepot.Search.Placement

/-!
# What a query means

A query reaches the engine as a predicate in three slots. Where no number is out
of the range of binary64, the engine reads the predicate back and keeps a
document exactly if every clause does (`Clause.keeps`), in the order of the
documents:

* `ofJson?_toJson`: the engine reads the predicate that was written.
* `fulfils_predicate`: a document fulfils the predicate of a query exactly if every
  clause keeps it, whatever the slots of the clauses.
* `matching_eq`: the documents that a search body selects before they are sorted.
* `meaning_of_query`: queries that are joined, clauses that have no test, and the
  two clauses that are each other's opposite.
-/

namespace ContentDepot

open Search InMemory

/-! ## Predicates are read back -/

namespace Search

theorem mapM_str? (values : List String) : (values.map Json.str).mapM Json.str? = some values := by
  induction values with
  | nil => rfl
  | cons v vs ih => simp [Json.str?, ih]

theorem Test.ofJson?_toJson (t : Test) : Test.ofJson? t.toJson = some t := by
  cases t with
  | term field value => rfl
  | terms field values =>
    show ((values.map Json.str).mapM Json.str?).map _ = _
    rw [mapM_str?]
    rfl
  | word field value => rfl
  | wordInSome fields value =>
    show ((fields.map Json.str).mapM Json.str?).map _ = _
    rw [mapM_str?]
    rfl
  | range field bound limit => simp [toJson, ofJson?, Bound.ofLabel?_label]

namespace Predicate

theorem mapM_ofJson? (tests : List Test) :
    (tests.map Test.toJson).mapM Test.ofJson? = some tests := by
  induction tests with
  | nil => rfl
  | cons t ts ih => simp [Test.ofJson?_toJson, ih]

/-- A slot is found under its name, behind others of other names. -/
theorem get?_slot (name : String) (tests : List Test) (rest : Entries Json) (key : String) :
    Entries.get? (slot name tests ++ rest) key =
      if name = key ∧ tests ≠ [] then some (.arr (tests.map Test.toJson))
      else Entries.get? rest key := by
  cases tests with
  | nil => simp [slot]
  | cons t ts => simp [slot, Entries.get?_cons]

theorem slot?_of_get? {members : Entries Json} {name : String} {tests : List Test}
    (h : Entries.get? members name =
      if tests ≠ [] then some (.arr (tests.map Test.toJson)) else none) :
    slot? members name = some tests := by
  unfold slot?
  rw [h]
  cases tests with
  | nil => rfl
  | cons t ts => exact mapM_ofJson? (t :: ts)

/-- The engine reads the predicate that was written. -/
theorem ofJson?_toJson (p : Predicate) : ofJson? p.toJson = some p := by
  cases p with
  | anything => rfl
  | slots must mustNot filter =>
    have hread : ∀ name tests, (name = "must" ∧ tests = must) ∨
        (name = "must_not" ∧ tests = mustNot) ∨ (name = "filter" ∧ tests = filter) →
        slot? (slot "must" must ++ slot "must_not" mustNot ++ slot "filter" filter) name =
          some tests := by
      intro name tests h
      refine slot?_of_get? ?_
      rw [List.append_assoc, get?_slot, get?_slot,
        show slot "filter" filter = slot "filter" filter ++ [] by rw [List.append_nil], get?_slot,
        Entries.get?_nil]
      rcases h with ⟨rfl, rfl⟩ | ⟨rfl, rfl⟩ | ⟨rfl, rfl⟩ <;> simp
    show ((slot? _ "must").bind fun _ => _) = _
    rw [hread "must" must (by simp), hread "must_not" mustNot (by simp),
      hread "filter" filter (by simp)]
    rfl

end Predicate

end Search

/-! ## Numbers in range -/

namespace Json

/-- Whether a value is no integer beyond the range of binary64. -/
def isInRangeLeaf : Json → Bool
  | .int n => (Binary64.ofInt n).isFinite
  | _ => true

/-- Whether no integer in a value is beyond the range of binary64. -/
def inRange (v : Json) : Bool := v.every isInRangeLeaf

theorem inRange_of_get? {members : Entries Json} {key : String} {v : Json}
    (h : (obj members).inRange = true) (hv : Entries.get? members key = some v) :
    v.inRange = true := by
  induction members with
  | nil => cases hv
  | cons m ms ih =>
    obtain ⟨k, v'⟩ := m
    simp only [inRange, every, everyMember, everyIn, Bool.and_eq_true] at h ih
    rw [Entries.get?_cons] at hv
    split at hv
    · cases hv
      exact h.1
    · exact ih h.2 hv

end Json

namespace InMemory

theorem inRange_fieldValue {d : Document} (h : (Json.obj d).inRange = true) (field : String) :
    (fieldValue d field).inRange = true := by
  unfold fieldValue
  rcases hv : Entries.get? d (bareName field) with _ | v
  · rfl
  · exact Json.inRange_of_get? h hv

theorem unlessInfinite_ok {x : Binary64} (h : x.isFinite = true) :
    unlessInfinite x = .ok (some x) := by
  cases x with
  | infinite negative => cases h
  | _ => rfl

theorem asNumber?_ok {v : Json} (h : v.inRange = true) : ∃ x, asNumber? v = .ok x := by
  cases v with
  | int n =>
    simp only [Json.inRange, Json.every, Json.isInRangeLeaf] at h
    exact ⟨_, unlessInfinite_ok h⟩
  | _ => exact ⟨_, rfl⟩

/-! ## Tests -/

theorem scalarHasTerm_ok (keyword : Bool) {found value : Json} (hf : found.inRange = true)
    (hv : value.inRange = true) : ∃ b, scalarHasTerm keyword found value = .ok b := by
  obtain ⟨x, hx⟩ := asNumber?_ok hf
  obtain ⟨y, hy⟩ := asNumber?_ok hv
  unfold scalarHasTerm
  split
  · exact ⟨_, rfl⟩
  split
  · exact ⟨_, rfl⟩
  split
  · rw [hx, hy]
    cases x <;> cases y <;> exact ⟨_, rfl⟩
  · rw [hx, hy]
    cases x <;> cases y <;> exact ⟨_, rfl⟩
  · exact ⟨_, rfl⟩
  · exact ⟨_, rfl⟩

mutual

/-- Whether a value has a term can be told if no number is out of range. -/
theorem hasTerm_ok (keyword : Bool) {value : Json} (hv : value.inRange = true) (found : Json)
    (hf : found.inRange = true) : ∃ b, hasTerm keyword value found = .ok b := by
  cases found with
  | arr items =>
    rw [hasTerm]
    rw [Json.inRange, Json.every] at hf
    exact someHasTerm_ok keyword hv items hf
  | _ => exact scalarHasTerm_ok keyword hf hv

theorem someHasTerm_ok (keyword : Bool) {value : Json} (hv : value.inRange = true)
    (items : List Json) (hf : Json.everyItem Json.isInRangeLeaf items = true) :
    ∃ b, someHasTerm keyword value items = .ok b := by
  cases items with
  | nil => exact ⟨_, rfl⟩
  | cons x xs =>
    simp only [Json.everyItem, Bool.and_eq_true] at hf
    obtain ⟨b, hb⟩ := hasTerm_ok keyword hv x hf.1
    rw [someHasTerm, hb]
    cases b with
    | true => exact ⟨_, rfl⟩
    | false => exact someHasTerm_ok keyword hv xs hf.2

end

theorem hasSomeTerm_ok (keyword : Bool) {found : Json} (hf : found.inRange = true)
    (terms : List String) : ∃ b, hasSomeTerm keyword found terms = .ok b := by
  induction terms with
  | nil => exact ⟨_, rfl⟩
  | cons t ts ih =>
    obtain ⟨b, hb⟩ := hasTerm_ok keyword (show (Json.str t).inRange = true from rfl) found hf
    rw [hasSomeTerm, hb]
    cases b with
    | true => exact ⟨_, rfl⟩
    | false => exact ih

theorem isWithin_ok (bound : Bound) {found limit : Json} (hf : found.inRange = true)
    (hl : limit.inRange = true) : ∃ b, isWithin bound found limit = .ok b := by
  obtain ⟨x, hx⟩ := asNumber?_ok hf
  obtain ⟨y, hy⟩ := asNumber?_ok hl
  unfold isWithin
  split
  · exact ⟨_, rfl⟩
  · rw [hx, hy]
    cases x <;> cases y <;> exact ⟨_, rfl⟩

/-- Whether no number that a test compares with is out of range. -/
def inRange : Test → Bool
  | .term _ value | .range _ _ value => value.inRange
  | _ => true

/-- Whether a document passes a test can be told if no number is out of range. -/
theorem passes_ok (keywords : List String) {d : Document} (hd : (Json.obj d).inRange = true)
    {t : Test} (ht : inRange t = true) : ∃ b, passes keywords d t = .ok b := by
  cases t with
  | term field value => exact hasTerm_ok _ ht _ (inRange_fieldValue hd field)
  | terms field values => exact hasSomeTerm_ok _ (inRange_fieldValue hd field) values
  | word field value => exact ⟨_, rfl⟩
  | wordInSome fields value => exact ⟨_, rfl⟩
  | range field bound limit => exact isWithin_ok bound (inRange_fieldValue hd field) ht

/-- Whether a document passes a test, where that can be told. -/
def passed (keywords : List String) (d : Document) (t : Test) : Bool :=
  match passes keywords d t with
  | .ok b => b
  | .error _ => false

variable {keywords : List String} {d : Document}

theorem passes_eq (hd : (Json.obj d).inRange = true) {t : Test} (ht : inRange t = true) :
    passes keywords d t = .ok (passed keywords d t) := by
  obtain ⟨b, hb⟩ := passes_ok keywords hd ht
  rw [passed, hb]

theorem passesAll_eq (hd : (Json.obj d).inRange = true) {tests : List Test}
    (ht : ∀ t ∈ tests, inRange t = true) :
    passesAll keywords d tests = .ok (tests.all (passed keywords d)) := by
  induction tests with
  | nil => rfl
  | cons t ts ih =>
    rw [passesAll, passes_eq hd (ht t (List.mem_cons_self ..)), List.all_cons]
    cases passed keywords d t with
    | true => exact ih fun t' h => ht t' (List.mem_cons_of_mem _ h)
    | false => rfl

theorem passesSome_eq (hd : (Json.obj d).inRange = true) {tests : List Test}
    (ht : ∀ t ∈ tests, inRange t = true) :
    passesSome keywords d tests = .ok (tests.any (passed keywords d)) := by
  induction tests with
  | nil => rfl
  | cons t ts ih =>
    rw [passesSome, passes_eq hd (ht t (List.mem_cons_self ..)), List.any_cons]
    cases passed keywords d t with
    | true => rfl
    | false => exact ih fun t' h => ht t' (List.mem_cons_of_mem _ h)

/-- A document fulfils the slots if it passes all tests of two of them and none of the third. -/
theorem fulfils_slots (hd : (Json.obj d).inRange = true) {must mustNot filter : List Test}
    (hm : ∀ t ∈ must, inRange t = true) (hn : ∀ t ∈ mustNot, inRange t = true)
    (hf : ∀ t ∈ filter, inRange t = true) :
    fulfils keywords d (.slots must mustNot filter) =
      .ok (must.all (passed keywords d) && filter.all (passed keywords d) &&
        mustNot.all fun t => !passed keywords d t) := by
  rw [fulfils, passesAll_eq hd hm, passesAll_eq hd hf, passesSome_eq hd hn]
  rw [← List.not_any_eq_all_not]
  cases must.all (passed keywords d) <;> cases filter.all (passed keywords d) <;> rfl

end InMemory

/-! ## Clauses and queries -/

theorem inRange_fillAbsent (fill : Bool) {v : Json} (h : v.inRange = true) :
    (fillAbsent fill v).inRange = true := by
  unfold fillAbsent
  split
  · rfl
  · rfl
  · exact h

namespace Clause

variable {fill : Bool} {c : Clause} {slot : Slot} {t : Test}

/-- The test of a clause compares with nothing but the value of the clause. -/
theorem inRange_of_place (h : c.place fill = .ok (slot, t)) (hc : c.value.inRange = true) :
    InMemory.inRange t = true := by
  have hv := inRange_fillAbsent fill hc
  unfold place at h
  split at h
  · cases h
  · dsimp only at h
    split at h
    · cases h
      rfl
    · cases h
    · split at h
      · cases h
      · split at h <;> cases h <;> first | rfl | exact hv

/-- Whether a clause keeps a document: one without a test keeps all. -/
def keeps (fill : Bool) (keywords : List String) (d : Document) (c : Clause) : Bool :=
  match c.place fill with
  | .ok (.mustNot, t) => !passed keywords d t
  | .ok (_, t) => passed keywords d t
  | .error _ => true

end Clause

namespace Query

variable (fill : Bool) (keywords : List String) (d : Document)

/-- Whether no number in the values of the clauses is out of range. -/
def inRange (q : Query) : Bool := q.clauses.all (·.value.inRange)

/-- Whether every clause keeps a document. -/
def keeps (q : Query) : Bool := q.clauses.all (Clause.keeps fill keywords d)

/-- The clauses of two queries together. -/
def append (q₁ q₂ : Query) : Query := ⟨q₁.clauses ++ q₂.clauses⟩

theorem keeps_append (q₁ q₂ : Query) :
    (q₁.append q₂).keeps fill keywords d =
      (q₁.keeps fill keywords d && q₂.keeps fill keywords d) := List.all_append

theorem keeps_add (q : Query) (c : Clause) :
    (q.add c).keeps fill keywords d = (q.keeps fill keywords d && c.keeps fill keywords d) := by
  rw [keeps, add, List.all_append, List.all_cons, List.all_nil, Bool.and_true]
  rfl

/-- The slots taken together ask what the clauses ask one by one. -/
theorem slots_eq_keeps (q : Query) :
    ((q.tests fill .must).all (passed keywords d) &&
      (q.tests fill .filter).all (passed keywords d) &&
      (q.tests fill .mustNot).all fun t => !passed keywords d t) = q.keeps fill keywords d := by
  obtain ⟨clauses⟩ := q
  simp only [tests, keeps]
  induction clauses with
  | nil => rfl
  | cons c cs ih =>
    rw [List.all_cons, ← ih]
    unfold Clause.keeps
    rcases hp : c.place fill with report | ⟨slot, t⟩
    · simp [Clause.testIn?, hp]
    · cases slot <;> simp [Clause.testIn?, hp] <;> ac_rfl

variable {fill keywords d}

theorem inRange_of_tests {q : Query} (hq : q.inRange = true) (slot : Slot) :
    ∀ t ∈ q.tests fill slot, InMemory.inRange t = true := by
  intro t ht
  obtain ⟨c, hc, hct⟩ := List.mem_filterMap.1 ht
  unfold Clause.testIn? at hct
  split at hct
  · rename_i s t' hp
    split at hct
    · cases hct
      exact Clause.inRange_of_place hp (List.all_eq_true.1 hq c hc)
    · cases hct
  · cases hct

/-- A document fulfils the predicate of a query exactly if every clause keeps it. -/
theorem fulfils_predicate (hd : (Json.obj d).inRange = true) {q : Query} (hq : q.inRange = true) :
    fulfils keywords d (q.predicate fill) = .ok (q.keeps fill keywords d) := by
  rw [← slots_eq_keeps]
  unfold predicate
  dsimp only
  split
  · rename_i h
    simp only [Bool.and_eq_true, List.isEmpty_iff] at h
    rw [h.1.1, h.1.2, h.2]
    rfl
  · exact fulfils_slots hd (inRange_of_tests hq _) (inRange_of_tests hq _) (inRange_of_tests hq _)

end Query

/-! ## The documents that are selected -/

theorem select_eq {keywords : List String} {p : Predicate} (keep : Document → Bool)
    {ds : List (String × Document)} (h : ∀ d ∈ ds, fulfils keywords d.2 p = .ok (keep d.2)) :
    select keywords p ds = .ok (ds.filter fun d => keep d.2) := by
  induction ds with
  | nil => rfl
  | cons d ds ih =>
    rw [select, h d (List.mem_cons_self ..), ih fun d' h' => h d' (List.mem_cons_of_mem _ h'),
      List.filter_cons]
    cases keep d.2 <;> rfl

/-- Whether every clause of a query that may be absent keeps a document. -/
def keepsOf (fill : Bool) (keywords : List String) (query : Option Query) (d : Document) : Bool :=
  query.all (·.keeps fill keywords d)

/-- Before they are sorted, the documents of a search are those that fulfil its predicate. -/
theorem matching_of_fulfils {e : Engine} {index : String} {body : Json} {p : Predicate}
    (keep : Document → Bool)
    (h : ∀ d ∈ e.documents index, fulfils (e.keywordFields index) d.2 p = .ok (keep d.2))
    (hb : body.member? "query" = some p.toJson) :
    e.matching index body =
      sortBy (Engine.keysOf body) ((e.documents index).filter fun d => keep d.2) := by
  unfold Engine.matching
  rw [hb, Option.bind_some, Predicate.ofJson?_toJson]
  dsimp only
  rw [select_eq keep h]
  rfl

/-- Before they are sorted, the documents of a search are those that every clause keeps, in their
order. -/
theorem matching_eq {e : Engine} {index : String} {body : Json} {fill : Bool}
    {query : Option Query} (hd : ∀ d ∈ e.documents index, (Json.obj d.2).inRange = true)
    (hq : ∀ q, query = some q → q.inRange = true)
    (hb : body.member? "query" = some (predicateOf fill query).toJson) :
    e.matching index body = sortBy (Engine.keysOf body)
      ((e.documents index).filter fun d => keepsOf fill (e.keywordFields index) query d.2) := by
  refine matching_of_fulfils _ (fun d hmem => ?_) hb
  cases query with
  | none => rfl
  | some q => exact Query.fulfils_predicate (hd d hmem) (hq q rfl)

/-- What a request for a number of matches selects is not sorted. -/
theorem matching_countBody {e : Engine} {index : String} {fill : Bool} {q : Query}
    (hd : ∀ d ∈ e.documents index, (Json.obj d.2).inRange = true) (hq : q.inRange = true) :
    e.matching index (countBody fill (some q)) =
      .ok ((e.documents index).filter fun d => q.keeps fill (e.keywordFields index) d.2) :=
  matching_eq hd (fun _ h => Option.some.inj h ▸ hq) rfl

theorem predicate_of_untested {fill : Bool} {c : Clause} {report : Event}
    (h : c.place fill = .error report) : Query.predicate fill ⟨[c]⟩ = .anything := by
  have hnone : ∀ slot, c.testIn? fill slot = none := fun slot => by rw [Clause.testIn?, h]
  simp [Query.predicate, Query.tests, hnone]

/-- Whatever the mapping and the documents, as long as no number is out of range: two queries
together keep the documents that both keep, in their order; a clause that has no test keeps all of
them; and of the documents that a query keeps, each is kept by exactly one of the clauses that ask
whether a field has a value and whether it has not. -/
theorem meaning_of_query (e : Engine) (index : String) (fill : Bool)
    (hd : ∀ d ∈ e.documents index, (Json.obj d.2).inRange = true) :
    (∀ q₁ q₂ : Query, q₁.inRange = true → q₂.inRange = true →
      ∃ r₁ r₂, e.matching index (countBody fill (some q₁)) = .ok r₁ ∧
        e.matching index (countBody fill (some q₂)) = .ok r₂ ∧
        e.matching index (countBody fill (some (q₁.append q₂))) =
          .ok ((e.documents index).filter fun d => d ∈ r₁ ∧ d ∈ r₂)) ∧
    (∀ c report, c.place fill = .error report →
      e.matching index (countBody fill (some ⟨[c]⟩)) = .ok (e.documents index)) ∧
    ∀ (q : Query) (field : String) (more : List String) (v : Json), q.inRange = true →
      v.inRange = true → isScalar (fillAbsent fill v) = true →
      ∃ r t, e.matching index (countBody fill (some q)) = .ok r ∧
        e.matching index (countBody fill (some (q.add ⟨field, more, .known .equals, v⟩))) =
          .ok (r.filter t) ∧
        e.matching index (countBody fill (some (q.add ⟨field, more, .known .notEquals, v⟩))) =
          .ok (r.filter fun d => !t d) := by
  refine ⟨fun q₁ q₂ h₁ h₂ => ?_, fun c report hc => ?_, fun q field more v hq hv hs => ?_⟩
  · have h₁₂ : (q₁.append q₂).inRange = true := by
      rw [Query.inRange, Query.append, List.all_append]
      exact Bool.and_eq_true_iff.2 ⟨h₁, h₂⟩
    refine ⟨_, _, matching_countBody hd h₁, matching_countBody hd h₂, ?_⟩
    rw [matching_countBody hd h₁₂]
    refine congrArg Except.ok (List.filter_congr fun d hmem => ?_)
    rw [Query.keeps_append]
    simp [List.mem_filter, hmem]
  · have hbody : (countBody fill (some ⟨[c]⟩)).member? "query" =
        some Predicate.anything.toJson := by
      rw [countBody, predicateOf, predicate_of_untested hc]
      rfl
    have hall : e.matching index (countBody fill (some ⟨[c]⟩)) =
        .ok ((e.documents index).filter fun _ => true) :=
      matching_of_fulfils (fun _ => true) (fun _ _ => rfl) hbody
    rw [hall, List.filter_eq_self.2 fun _ _ => rfl]
  · have hadd : ∀ op, (q.add ⟨field, more, .known op, v⟩).inRange = true := by
      intro op
      rw [Query.inRange, Query.add, List.all_append]
      exact Bool.and_eq_true_iff.2 ⟨hq, by simpa using hv⟩
    have hsplit : ∀ d, Clause.keeps fill (e.keywordFields index) d
        ⟨field, more, .known .notEquals, v⟩ =
          !Clause.keeps fill (e.keywordFields index) d ⟨field, more, .known .equals, v⟩ := by
      intro d
      simp [Clause.keeps, Clause.place, hs]
    refine ⟨_, fun d => Clause.keeps fill (e.keywordFields index) d.2
      ⟨field, more, .known .equals, v⟩, matching_countBody hd hq, ?_, ?_⟩
    · rw [matching_countBody hd (hadd .equals), List.filter_filter]
      simp only [Query.keeps_add, Bool.and_comm]
    · rw [matching_countBody hd (hadd .notEquals), List.filter_filter]
      simp only [Query.keeps_add, hsplit, Bool.and_comm]

/-- Two documents, one of which has a number in a field and the other a word. -/
def twoDocuments : Engine :=
  { Engine.initial with
    indices := [("docs", [("a", [("size", .int 1)]), ("b", [("size", .str "one")])])] }

/-- One document has the number, and the other has not. -/
theorem meaning_of_two_clauses :
    (∀ d ∈ twoDocuments.documents "docs", (Json.obj d.2).inRange = true) ∧
      ∃ r t, twoDocuments.matching "docs" (countBody true (some .empty)) = .ok r ∧
        twoDocuments.matching "docs" (countBody true
          (some (Query.empty.add ⟨"size", [], .known .equals, .float (.ofInt 1)⟩))) =
            .ok (r.filter t) ∧
        twoDocuments.matching "docs" (countBody true
          (some (Query.empty.add ⟨"size", [], .known .notEquals, .float (.ofInt 1)⟩))) =
            .ok (r.filter fun d => !t d) ∧
        r.filter t = [("a", [("size", .int 1)])] := by
  have hd : ∀ d ∈ twoDocuments.documents "docs", (Json.obj d.2).inRange = true := by
    decide +kernel
  obtain ⟨r, t, hr, he, hn⟩ := (meaning_of_query twoDocuments "docs" true hd).2.2 .empty "size" []
    (.float (.ofInt 1)) rfl rfl rfl
  refine ⟨hd, r, t, hr, he, hn, ?_⟩
  have hone : (twoDocuments.matching "docs" (countBody true
      (some (Query.empty.add ⟨"size", [], .known .equals, .float (.ofInt 1)⟩)))).toOption =
        some [("a", [("size", .int 1)])] := by decide +kernel
  rw [he] at hone
  exact Option.some.inj hone

end ContentDepot
