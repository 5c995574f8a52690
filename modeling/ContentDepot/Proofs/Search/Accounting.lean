import Mathlib.Algebra.GroupWithZero.Nat
import Mathlib.Data.List.Basic
import ContentDepot.Index.Metadata
import ContentDepot.Proofs.Session.Course

/-!
# Every clause is accounted for

A clause becomes one test or one report, and nothing else is asked or reported:

* `Clause.isAsked`: the clauses that have a test, told from their operation and from their value
  once absent values are filled in;
* `Clause.slot`, `Clause.form`: where the test of such a clause stands and what the engine is
  asked, in its own form;
* `Clause.place_of_isAsked`, `Clause.place_of_not_isAsked`: the placement of a clause is the one
  or the other;
* `log_of_reports`: what a talk that reports puts into the log;
* `translation_accounts`: the predicate of a query holds the forms of the clauses that are asked,
  slot by slot and in their order, and the log of a search the reports of all others.
-/

namespace ContentDepot

open Search

/-! ## What becomes of a clause -/

namespace Search

/-- The slots in the order in which they are written. -/
def slots : List Slot := [.must, .mustNot, .filter]

/-- The name of a slot. -/
def Slot.label : Slot → String
  | .must => "must"
  | .mustNot => "must_not"
  | .filter => "filter"

end Search

namespace Clause

/-- The value that a clause asks for. -/
def sought (fill : Bool) (c : Clause) : Json := fillAbsent fill c.value

/-- Whether a clause is asked: its operation is known and its value suits it. -/
def isAsked (fill : Bool) (c : Clause) : Bool :=
  match c.operation, c.sought fill with
  | .other _, _ => false
  | .known .isAmong, .arr _ => true
  | .known .isAmong, _ => false
  | .known _, .null | .known _, .arr _ | .known _, .obj _ => false
  | .known _, _ => true

/-- The slot in which a clause is asked. -/
def slot (c : Clause) : Slot :=
  match c.operation with
  | .known .notEquals => .mustNot
  | .known .isAmong => .filter
  | _ => .must

/-- What the engine is asked for a clause, in its own form. -/
def form (fill : Bool) (c : Clause) : Json :=
  let one (test : String) (value : Json) : Json := .obj [(test, .obj [(c.name, value)])]
  let range (bound : String) : Json := one "range" (.obj [(bound, c.sought fill)])
  match c.operation with
  | .known .fullText =>
    .obj [("multi_match", .obj [("query", c.sought fill), ("fields", .arr (c.names.map .str)),
      ("lenient", .bool true)])]
  | .known .equals | .known .notEquals => one "term" (c.sought fill)
  | .known .contains => one "match" (c.sought fill)
  | .known .below => range "lt"
  | .known .atMost => range "lte"
  | .known .above => range "gt"
  | .known .atLeast => range "gte"
  | .known .isAmong =>
    match c.sought fill with
    | .arr items => one "terms" (.arr (items.map fun v => .str (Text.lower v.text)))
    | v => v
  | .other _ => .null

/-- What is reported of a clause that is not asked. -/
def report (c : Clause) : Event :=
  if c.operation.isKnown then ⟨.warning, "filter_clause_ignored", []⟩
  else ⟨.warning, "filter_operation_not_supported", []⟩

variable {fill : Bool} {c : Clause}

/-- A clause is asked exactly if its operation is known and its value is a list where the
operation is to be among values, and one that can be compared with where it is another. -/
theorem isAsked_iff :
    c.isAsked fill = true ↔ ∃ op, c.operation = .known op ∧
      (op = .isAmong ∧ (∃ items, c.sought fill = .arr items) ∨
        op ≠ .isAmong ∧ isScalar (c.sought fill) = true) := by
  unfold isAsked
  cases c.operation with
  | other label => simp
  | known op => cases op <;> cases c.sought fill <;> simp [isScalar]

/-- A clause that is asked has one test, which is in its slot and has its form. -/
theorem place_of_isAsked (h : c.isAsked fill = true) :
    ∃ t, c.place fill = .ok (c.slot, t) ∧ t.toJson = c.form fill := by
  obtain ⟨op, hop, hvalue⟩ := isAsked_iff.1 h
  unfold sought at hvalue
  unfold place slot form sought
  simp only [hop]
  rcases hvalue with ⟨rfl, items, hitems⟩ | ⟨hne, hscalar⟩
  · simp only [hitems]
    refine ⟨_, rfl, ?_⟩
    rw [Test.toJson, List.map_map]
    rfl
  · cases op with
    | isAmong => exact absurd rfl hne
    | _ =>
      simp only [hscalar, Bool.not_true, Bool.false_eq_true, if_false]
      exact ⟨_, rfl, rfl⟩

/-- A clause that is not asked has no test but one report. -/
theorem place_of_not_isAsked (h : c.isAsked fill = false) :
    c.place fill = .error c.report := by
  unfold isAsked sought at h
  unfold place report
  cases hop : c.operation with
  | other label => rfl
  | known op =>
    rw [hop] at h
    simp only [ClauseOperation.isKnown, if_true]
    generalize fillAbsent fill c.value = v at h ⊢
    cases op <;> cases v <;> first | rfl | cases h

end Clause

/-! ## What becomes of a query -/

namespace Query

variable (fill : Bool)

/-- The forms of the clauses that are asked in a slot, in the order of the clauses. -/
def forms (clauses : List Clause) (slot : Slot) : List Json :=
  ((clauses.filter (Clause.isAsked fill)).filter (·.slot = slot)).map (Clause.form fill)

/-- A slot under its name, unless nothing is asked in it. -/
def member? (clauses : List Clause) (slot : Slot) : Option (String × Json) :=
  match forms fill clauses slot with
  | [] => none
  | forms => some (slot.label, .arr forms)

/-- The query that is asked for clauses, in the form of the engine. -/
def asked (clauses : List Clause) : Json :=
  if clauses.any (Clause.isAsked fill) then
    .obj [("bool", .obj (slots.filterMap (member? fill clauses)))]
  else .obj [("match_all", .obj [])]

/-- The reports of the clauses that are not asked, in the order of the clauses. -/
def unasked (clauses : List Clause) : List Event :=
  (clauses.filter fun c => !c.isAsked fill).map Clause.report

variable {fill}

theorem testIn?_eq (slot : Slot) (c : Clause) :
    (c.testIn? fill slot).map Test.toJson =
      (Option.guard (fun c => c.slot = slot && c.isAsked fill) c).map (Clause.form fill) := by
  unfold Clause.testIn? Option.guard
  cases h : c.isAsked fill with
  | true =>
    obtain ⟨t, ht, hform⟩ := Clause.place_of_isAsked h
    by_cases hs : c.slot = slot <;> simp [ht, h, hs, hform]
  | false => simp [Clause.place_of_not_isAsked h, h]

theorem report?_eq (c : Clause) :
    c.report? fill = (Option.guard (fun c => !c.isAsked fill) c).map Clause.report := by
  unfold Clause.report? Option.guard
  cases h : c.isAsked fill with
  | true =>
    obtain ⟨t, ht, -⟩ := Clause.place_of_isAsked h
    simp [ht, h]
  | false => simp [Clause.place_of_not_isAsked h, h]

/-- The tests of a slot are the forms of the clauses that are asked in it. -/
theorem map_tests (q : Query) (slot : Slot) :
    (q.tests fill slot).map Test.toJson = forms fill q.clauses slot := by
  rw [tests, forms, List.map_filterMap, funext (testIn?_eq slot), ← List.map_filterMap,
    List.filterMap_eq_filter, List.filter_filter]

/-- The reports of a query are those of the clauses that are not asked. -/
theorem reports_eq (q : Query) : q.reports fill = unasked fill q.clauses := by
  rw [reports, unasked, funext report?_eq, ← List.map_filterMap, List.filterMap_eq_filter]

/-- No slot has a form exactly if no clause is asked. -/
theorem forms_eq_nil_iff (clauses : List Clause) :
    (∀ slot, forms fill clauses slot = []) ↔ ∀ c ∈ clauses, c.isAsked fill = false := by
  simp only [forms, List.map_eq_nil_iff, List.filter_eq_nil_iff, List.mem_filter,
    decide_eq_true_eq, and_imp]
  refine ⟨fun h c hc => ?_, fun h slot c hc hasked => ?_⟩
  · exact Bool.eq_false_iff.2 fun hasked => h c.slot c hc hasked rfl
  · rw [h c hc] at hasked
    cases hasked

theorem any_isAsked_eq_false (clauses : List Clause) :
    clauses.any (Clause.isAsked fill) = false ↔ ∀ slot, forms fill clauses slot = [] := by
  rw [forms_eq_nil_iff, List.any_eq_false]
  simp only [Bool.not_eq_true]

variable (fill) in
theorem slot_tests (q : Query) (slot : Slot) :
    Predicate.slot slot.label (q.tests fill slot) = (member? fill q.clauses slot).toList := by
  rw [member?, ← map_tests]
  cases q.tests fill slot <;> rfl

/-- The members of a predicate are its three slots, one after the other. -/
theorem members_tests (q : Query) :
    Predicate.slot "must" (q.tests fill .must) ++
        Predicate.slot "must_not" (q.tests fill .mustNot) ++
        Predicate.slot "filter" (q.tests fill .filter) =
      slots.filterMap (member? fill q.clauses) := by
  have hmust := slot_tests fill q .must
  have hmustNot := slot_tests fill q .mustNot
  have hfilter := slot_tests fill q .filter
  simp only [Slot.label] at hmust hmustNot hfilter
  rw [hmust, hmustNot, hfilter, slots, List.filterMap_cons, List.filterMap_cons,
    List.filterMap_cons, List.filterMap_nil]
  cases member? fill q.clauses .must <;> cases member? fill q.clauses .mustNot <;>
    cases member? fill q.clauses .filter <;> rfl

/-- The predicate of a query asks for the clauses that are asked. -/
theorem toJson_predicate (q : Query) : (q.predicate fill).toJson = asked fill q.clauses := by
  have hempty : ((q.tests fill .must).isEmpty && (q.tests fill .mustNot).isEmpty &&
      (q.tests fill .filter).isEmpty) = !q.clauses.any (Clause.isAsked fill) := by
    rw [Bool.eq_iff_iff, Bool.not_eq_true', any_isAsked_eq_false]
    simp only [Bool.and_eq_true, List.isEmpty_iff, ← map_tests, List.map_eq_nil_iff]
    exact ⟨fun ⟨⟨hm, hn⟩, hf⟩ slot => by cases slot <;> assumption,
      fun h => ⟨⟨h _, h _⟩, h _⟩⟩
  unfold predicate asked
  simp only [hempty]
  cases q.clauses.any (Clause.isAsked fill) with
  | false => rfl
  | true =>
    simp only [Bool.not_true, Bool.false_eq_true, if_false, if_true, Predicate.toJson,
      members_tests]

/-- Every clause belongs to one slot. -/
theorem sum_length_slots (clauses : List Clause) :
    (slots.map fun slot => (clauses.filter (·.slot = slot)).length).sum = clauses.length := by
  induction clauses with
  | nil => rfl
  | cons c cs ih =>
    simp only [slots, List.map_cons, List.map_nil, List.sum_cons, List.sum_nil, List.length_cons,
      List.filter_cons] at ih ⊢
    cases c.slot <;> simp <;> omega

/-- A clause is asked in one slot or reported, and not both. -/
theorem sum_length_forms (clauses : List Clause) :
    (slots.map fun slot => (forms fill clauses slot).length).sum + (unasked fill clauses).length =
      clauses.length := by
  simp only [forms, unasked, List.length_map, sum_length_slots]
  exact (List.length_eq_length_filter_add _).symm

end Query

/-! ## What is reported while a search is made -/

/-- Events without fields that are reported one after the other stand at the end of the log, each
with the request that is bound. -/
theorem Context.log_foldl_record {events : List Event} (h : ∀ e ∈ events, e.fields = [])
    (c : Context) : (events.foldl Context.record c).log =
      c.log ++ events.map fun e => ⟨e, Entries.get? c.bound Context.requestIdKey⟩ := by
  induction events generalizing c with
  | nil => exact (List.append_nil _).symm
  | cons e es ih =>
    rw [List.foldl_cons, ih fun e he => h e (.tail _ he), List.map_cons, Context.record,
      h e (.head _)]
    exact List.append_assoc ..

/-- What is reported of a query has no fields of its own. -/
theorem Search.fields_of_reportsOf (fill : Bool) (query : Option Query) :
    ∀ e ∈ Search.reportsOf fill query, e.fields = [] := by
  intro e he
  cases query with
  | none => cases he
  | some q =>
    rw [Search.reportsOf, Query.reports_eq] at he
    obtain ⟨c, -, rfl⟩ := List.mem_map.1 he
    unfold Clause.report
    split <;> rfl

namespace MetadataIndex

variable {α ω : Type} (answer : Request → ω → Reply × ω)

/-- A talk that reports and is discreet afterwards. -/
theorem log_of_reports {events : List Event} (h : ∀ e ∈ events, e.fields = [])
    {rest : Attempt α} (hrest : Discreet rest) (c : Context) (w : ω) :
    (Exchange.carry answer
      ((liftM (Exchange.emitAll events) : Attempt Unit) >>= fun _ => rest) c w).2.1.log =
      c.log ++ events.map fun e => ⟨e, Entries.get? c.bound Context.requestIdKey⟩ := by
  rw [Exchange.carry_bind_of_ok (Exchange.carry_emitAll answer events c w), hrest,
    Context.log_foldl_record h]

variable (e : Endpoint) (fill : Bool) (index : String) (query : Option Query)

theorem log_searching (pageable : Pageable) (c : Context) (w : ω) :
    (Exchange.carry answer (searching e fill index query pageable) c w).2.1.log =
      c.log ++ (reportsOf fill query).map
        fun e => ⟨e, Entries.get? c.bound Context.requestIdKey⟩ :=
  log_of_reports answer (fields_of_reportsOf fill query) (.bind (.call _ _ _ _ _) fun _ => .bind (.check _) fun _ =>
    .bind (.ofRead _) fun _ => .ofRead _) c w

theorem log_counting (c : Context) (w : ω) :
    (Exchange.carry answer (counting e fill index query) c w).2.1.log =
      c.log ++ (reportsOf fill query).map
        fun e => ⟨e, Entries.get? c.bound Context.requestIdKey⟩ :=
  log_of_reports answer (fields_of_reportsOf fill query) (.bind (.call _ _ _ _ _) fun _ => .bind (.check _) fun _ =>
    .bind (.ofRead _) fun _ => .ofRead _) c w

end MetadataIndex

namespace Search

/-- The clauses of a query; without a query there are none. -/
def clausesOf (query : Option Query) : List Clause := query.elim [] (·.clauses)

/-- A clause that has no form is dropped with its report; the others keep their places. -/
example :
    let q : Query := ⟨[⟨"age", [], .other "between", .arr []⟩, ⟨"tag", [], .known .isAmong, .int 1⟩,
      ⟨"age", [], .known .atLeast, .int 30⟩]⟩
    (predicateOf true (some q)).toJson =
        .obj [("bool", .obj [("must", .arr [
          .obj [("range", .obj [("age", .obj [("gte", .int 30)])])]])])] ∧
      reportsOf true (some q) =
        [⟨.warning, "filter_operation_not_supported", []⟩, ⟨.warning, "filter_clause_ignored", []⟩] :=
  ⟨rfl, rfl⟩

end Search

end ContentDepot
