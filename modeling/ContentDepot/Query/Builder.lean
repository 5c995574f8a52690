import ContentDepot.Query.Wire

/-!
# Building a query

A query is built by adding one clause after the other. Names and value lists
come as JSON values: a text is one name, the items of a list or the keys of an
object are several, and a text as a value list stands for its characters. A step
that fails leaves the query as it was.

* `BuildStep`: the steps.
* `Query.build`: one step.
* `Query.buildAll`: steps one after the other, each with its failure.
-/

namespace ContentDepot

/-- A step in building a query. -/
inductive BuildStep where
  /-- Adds a clause with the operation that a value stands for. -/
  | add (operation names value : Json)
  /-- Adds a clause with a known operation. -/
  | addKnown (op : Operation) (names value : Json)
  /-- Adds a membership test. -/
  | addAmong (names values : Json)
  /-- Gives a clause another value; a negative position counts from the end. -/
  | setValue (position value : Json)
  deriving Repr, Inhabited

namespace Query

/-- The items that a value consists of, if it has any. -/
def itemsOf? : Json → Option (List Json)
  | .arr items => some items
  | .str s => some (s.toList.map fun c => .str (String.singleton c))
  | .obj members => some ((Entries.keys members).map Json.str)
  | _ => none

/-- The field names that a value stands for. -/
def namesOf (names : Json) : Except Failure (List String) := do
  let items ← match names with
    | .str s => .ok [Json.str s]
    | v => match itemsOf? v with
      | some items => .ok items
      | none => .error (.fault .wrongType)
  match (Schema.nonEmptyListOf Schema.string (.arr items)).inside (.key "names") with
  | .ok names => .ok names
  | .error issues => .error (.invalid issues)

/-- The place in a list of a length that an integer stands for, which may count from the end; a
truth value counts as zero or one. -/
def placeOf (position : Json) (length : Nat) : Except Fault Nat := do
  let n ← match position with
    | .int n => .ok n
    | .bool b => .ok (if b then 1 else 0)
    | _ => .error .wrongType
  let place := if n < 0 then n + length else n
  if 0 ≤ place ∧ place < length then .ok place.toNat else .error .noSuchItem

/-- One step. -/
def build (q : Query) : BuildStep → Except Failure Query
  | .add operation names value => do
    let names ← namesOf names
    return q.add (.ofParts names (.ofJson operation) value)
  | .addKnown op names value => do
    let names ← namesOf names
    return q.add (.ofParts names (.known op) value)
  | .addAmong names values => do
    let some items := itemsOf? values | .error (.fault .wrongType)
    let names ← namesOf names
    return q.add (.ofParts names (.known .isAmong) (.arr items))
  | .setValue position value =>
    match placeOf position q.clauses.length with
    | .ok place => .ok ⟨q.clauses.modify place fun c => { c with value }⟩
    | .error f => .error (.fault f)

/-- Steps one after the other: the query at the end, and the failure of each step. -/
def buildAll (q : Query) : List BuildStep → Query × List (Option Failure)
  | [] => (q, [])
  | step :: steps =>
    match q.build step with
    | .ok q' => let (last, failures) := buildAll q' steps; (last, none :: failures)
    | .error e => let (last, failures) := buildAll q steps; (last, some e :: failures)

end Query

end ContentDepot
