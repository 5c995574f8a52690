import ContentDepot.InMemory.Matching
import ContentDepot.Json.Order

/-!
# Sorting documents

Documents are sorted by several keys, of which the first counts most: one
stable pass for each key, the last key first. Whatever the direction, a document
without a value comes after all that have one. Values that cannot be compared
are a fault.

* `pass`: sorting by one key.
* `sortBy`: sorting by all.
-/

namespace ContentDepot.InMemory

/-- A key to sort by, as the engine reads it. -/
structure Key where
  field : String
  descending : Bool
  deriving DecidableEq, Repr

/-- Whether the first value may stand before the second. -/
def mayPrecede (descending : Bool) (a b : Json) : Bool :=
  match Json.order? a b with
  | some .lt => !descending
  | some .gt => descending
  | _ => true

/-- Whether a document has a value to sort by. -/
def hasValue (field : String) (d : String × Document) : Bool :=
  match fieldValue d.2 field with
  | .null => false
  | _ => true

/-- Sorts by one key; documents without a value come last. -/
def pass (key : Key) (ds : List (String × Document)) :
    Except Fault (List (String × Document)) :=
  let present := ds.filter (hasValue key.field)
  let absent := ds.filter fun d => !hasValue key.field d
  let valueOf := fun d : String × Document => fieldValue d.2 key.field
  if Json.comparable (present.map valueOf) then
    .ok (present.mergeSort (fun a b => mayPrecede key.descending (valueOf a) (valueOf b)) ++ absent)
  else .error .wrongType

/-- Sorts by keys, the first of which counts most. -/
def sortBy : List Key → List (String × Document) → Except Fault (List (String × Document))
  | [], ds => .ok ds
  | key :: keys, ds => do pass key (← sortBy keys ds)

end ContentDepot.InMemory
