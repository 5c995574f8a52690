import ContentDepot.Logging.Event
import ContentDepot.Paging.Pageable
import ContentDepot.Query.Basic
import ContentDepot.Search.Placeholder
import ContentDepot.Search.Predicate
import ContentDepot.Text.Lowering

/-!
# From queries to predicates

Each clause of a query becomes one test in one slot. A clause that has no test,
because its operation is not known or its value does not suit it, is left out
and reported.

* `Clause.place`: the slot and the test of a clause, or the report.
* `Query.predicate`: the predicate; it is `anything` where no clause has a test.
* `Query.reports`: the reports, in the order of the clauses.
* `searchBody`, `countBody`: the bodies of the two requests.
-/

namespace ContentDepot

namespace Search

/-- The slots of a predicate. -/
inductive Slot where
  | must
  | mustNot
  | filter
  deriving DecidableEq, Repr, Inhabited

/-- The report of a clause whose value does not suit its operation. -/
def clauseIgnored : Event := ⟨.warning, "filter_clause_ignored", []⟩

/-- The report of a clause whose operation is not known. -/
def operationNotSupported : Event := ⟨.warning, "filter_operation_not_supported", []⟩

/-- Whether a value can be compared with: it is neither null nor a list nor an object. -/
def isScalar : Json → Bool
  | .null | .arr _ | .obj _ => false
  | _ => true

end Search

open Search

namespace Clause

/-- The slot and the test of a clause, or the report that it has none. -/
def place (fill : Bool) (c : Clause) : Except Event (Slot × Test) :=
  match c.operation with
  | .other _ => .error operationNotSupported
  | .known op =>
    let value := fillAbsent fill c.value
    match op, value with
    | .isAmong, .arr items =>
      .ok (.filter, .terms c.name (items.map fun v => Text.lower v.text))
    | .isAmong, _ => .error clauseIgnored
    | op, value =>
      if !isScalar value then .error clauseIgnored
      else match op with
        | .fullText => .ok (.must, .wordInSome c.names value)
        | .equals => .ok (.must, .term c.name value)
        | .notEquals => .ok (.mustNot, .term c.name value)
        | .contains => .ok (.must, .word c.name value)
        | .below => .ok (.must, .range c.name .below value)
        | .atMost => .ok (.must, .range c.name .atMost value)
        | .above => .ok (.must, .range c.name .above value)
        | .atLeast => .ok (.must, .range c.name .atLeast value)
        | .isAmong => .error clauseIgnored

/-- The test of a clause, if it belongs to the slot. -/
def testIn? (fill : Bool) (slot : Slot) (c : Clause) : Option Test :=
  match c.place fill with
  | .ok (s, test) => if s = slot then some test else none
  | .error _ => none

/-- The report of a clause, if it has no test. -/
def report? (fill : Bool) (c : Clause) : Option Event :=
  match c.place fill with
  | .ok _ => none
  | .error report => some report

end Clause

namespace Query

/-- The tests of a slot, in the order of the clauses. -/
def tests (fill : Bool) (q : Query) (slot : Slot) : List Test :=
  q.clauses.filterMap (Clause.testIn? fill slot)

/-- The predicate of a query. -/
def predicate (fill : Bool) (q : Query) : Predicate :=
  let must := q.tests fill .must
  let mustNot := q.tests fill .mustNot
  let filter := q.tests fill .filter
  if must.isEmpty && mustNot.isEmpty && filter.isEmpty then .anything
  else .slots must mustNot filter

/-- What is reported about a query. -/
def reports (fill : Bool) (q : Query) : List Event := q.clauses.filterMap (Clause.report? fill)

end Query

namespace Search

/-- The predicate of a query that may be absent. -/
def predicateOf (fill : Bool) (query : Option Query) : Predicate :=
  match query with
  | none => .anything
  | some q => q.predicate fill

/-- What is reported about a query that may be absent. -/
def reportsOf (fill : Bool) (query : Option Query) : List Event :=
  match query with
  | none => []
  | some q => q.reports fill

/-- A sort key in the engine's form; a field that the engine does not know must not
fail the search. -/
def sortKey (key : SortKey) : Json :=
  .obj [(key.field, .obj [("order", .str (if key.ascending then "asc" else "desc")),
    ("unmapped_type", .str "date")])]

/-- The body of a request for one page of hits. -/
def searchBody (fill : Bool) (query : Option Query) (pageable : Pageable) : Json :=
  let sort := match pageable.sort with
    | [] => []
    | keys => [("sort", Json.arr (keys.map sortKey))]
  .obj ([("query", (predicateOf fill query).toJson), ("from", .int pageable.offset),
    ("size", .int pageable.size)] ++ sort)

/-- The body of a request for the number of matches alone. -/
def countBody (fill : Bool) (query : Option Query) : Json :=
  .obj [("query", (predicateOf fill query).toJson), ("size", .int 0),
    ("track_total_hits", .bool true)]

end Search

end ContentDepot
