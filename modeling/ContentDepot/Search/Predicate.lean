import ContentDepot.Json.Basic

/-!
# Search predicates

What the search engine is asked. A test looks at one field, or at several for a
word; a predicate combines tests in three slots. The engine's own form of a
predicate is JSON.

* `Test`, `Predicate`: the two layers.
* `Predicate.toJson`, `Predicate.ofJson?`: writing and reading.
-/

namespace ContentDepot.Search

/-- One side of a range. -/
inductive Bound where
  | below
  | atMost
  | above
  | atLeast
  deriving DecidableEq, Repr, Inhabited

namespace Bound

/-- The name of a bound. -/
def label : Bound → String
  | below => "lt"
  | atMost => "lte"
  | above => "gt"
  | atLeast => "gte"

/-- The bound with a name. -/
def ofLabel? (s : String) : Option Bound :=
  [below, atMost, above, atLeast].find? fun b => b.label == s

theorem ofLabel?_label (b : Bound) : ofLabel? b.label = some b := by cases b <;> decide

end Bound

/-- A test of a document. -/
inductive Test where
  /-- The field has the term. -/
  | term (field : String) (value : Json)
  /-- The field has one of the terms. -/
  | terms (field : String) (values : List String)
  /-- The field has a word of the text. -/
  | word (field : String) (value : Json)
  /-- One of the fields has a word of the text. -/
  | wordInSome (fields : List String) (value : Json)
  /-- The field lies on one side of a limit. -/
  | range (field : String) (bound : Bound) (limit : Json)
  deriving Repr, Inhabited, DecidableEq

namespace Test

/-- The engine's form of a test. -/
def toJson : Test → Json
  | term field value => .obj [("term", .obj [(field, value)])]
  | terms field values => .obj [("terms", .obj [(field, .arr (values.map Json.str))])]
  | word field value => .obj [("match", .obj [(field, value)])]
  | wordInSome fields value =>
    .obj [("multi_match", .obj [("query", value), ("fields", .arr (fields.map Json.str)),
      ("lenient", .bool true)])]
  | range field bound limit => .obj [("range", .obj [(field, .obj [(bound.label, limit)])])]

/-- Reads a test. -/
def ofJson? : Json → Option Test
  | .obj [("term", .obj [(field, value)])] => some (term field value)
  | .obj [("terms", .obj [(field, .arr values)])] => (values.mapM Json.str?).map (terms field)
  | .obj [("match", .obj [(field, value)])] => some (word field value)
  | .obj [("multi_match", .obj [("query", value), ("fields", .arr fields), ("lenient", _)])] =>
    (fields.mapM Json.str?).map fun fields => wordInSome fields value
  | .obj [("range", .obj [(field, .obj [(bound, limit)])])] =>
    (Bound.ofLabel? bound).map fun bound => range field bound limit
  | _ => none

end Test

/-- What a document has to fulfil. -/
inductive Predicate where
  /-- Nothing at all. -/
  | anything
  /-- Every test of the first and the last list, and none of the second. -/
  | slots (must mustNot filter : List Test)
  deriving Repr, Inhabited, DecidableEq

namespace Predicate

/-- A slot under its name, unless it is empty. -/
def slot (name : String) : List Test → List (String × Json)
  | [] => []
  | tests => [(name, .arr (tests.map Test.toJson))]

/-- The engine's form of a predicate: empty slots are left out. -/
def toJson : Predicate → Json
  | anything => .obj [("match_all", .obj [])]
  | slots must mustNot filter =>
    .obj [("bool", .obj (slot "must" must ++ slot "must_not" mustNot ++ slot "filter" filter))]

/-- Reads a slot; one that is absent is empty. -/
def slot? (members : Entries Json) (name : String) : Option (List Test) :=
  match Entries.get? members name with
  | none => some []
  | some (.arr items) => items.mapM Test.ofJson?
  | some _ => none

/-- Reads a predicate. -/
def ofJson? : Json → Option Predicate
  | .obj [("match_all", .obj [])] => some anything
  | .obj [("bool", .obj members)] => do
    return slots (← slot? members "must") (← slot? members "must_not") (← slot? members "filter")
  | _ => none

end Predicate

end ContentDepot.Search
