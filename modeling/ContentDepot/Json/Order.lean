import ContentDepot.Json.Basic

/-!
# Comparing values

Two values are the same if they mean the same: an integer and a binary64 number
of one value are, a truth value counts as zero or one, and the order of the
members of an object does not matter. Numbers are ordered with numbers, texts
with texts by code points, and lists with lists by their first items that
differ; other values are not ordered.

* `number?`: the place of a value in the order of numbers.
* `same`: sameness.
* `order?`: the order of two values, if they have one.
* `sorted?`: values in their order, if all of them can be compared.
-/

namespace ContentDepot.Json

/-- The place of a number or truth value in the order of numbers. -/
def number? : Json → Option Binary64.Place
  | .bool b => some (Binary64.placeOfInt (if b then 1 else 0))
  | .int n => some (Binary64.placeOfInt n)
  | .float x => x.place
  | _ => none

mutual

/-- Whether two values mean the same. -/
def same : Json → Json → Bool
  | .null, .null => true
  | .str a, .str b => a == b
  | .arr xs, .arr ys => sameItems xs ys
  | .obj xs, .obj ys => xs.length == ys.length && sameMembers xs ys
  | .bool a, b => sameNumber (.bool a) b
  | .int a, b => sameNumber (.int a) b
  | .float a, b => sameNumber (.float a) b
  | _, _ => false

/-- Whether two lists have the same items. -/
def sameItems : List Json → List Json → Bool
  | [], [] => true
  | x :: xs, y :: ys => same x y && sameItems xs ys
  | _, _ => false

/-- Whether every member is also a member of an object. -/
def sameMembers : List (String × Json) → List (String × Json) → Bool
  | [], _ => true
  | m :: ms, other => sameMember m other && sameMembers ms other

/-- Whether an object has a member. -/
def sameMember : String × Json → List (String × Json) → Bool
  | (k, v), other => match Entries.get? other k with
    | some w => same v w
    | none => false

/-- Whether two values are the same number. -/
def sameNumber (a b : Json) : Bool :=
  match number? a, number? b with
  | some p, some q => p == q
  | _, _ => false

end

/-- The order of two numbers. -/
def orderNumbers? (a b : Json) : Option Ordering :=
  match number? a, number? b with
  | some p, some q => some (if p.lt q then .lt else if q.lt p then .gt else .eq)
  | _, _ => none

mutual

/-- The order of two values, if they have one. -/
def order? : Json → Json → Option Ordering
  | .str a, .str b => some (compare a b)
  | .arr xs, .arr ys => orderItems? xs ys
  | a, b => orderNumbers? a b

/-- The order of two lists: that of the first items that differ, else that of their lengths. -/
def orderItems? : List Json → List Json → Option Ordering
  | [], [] => some .eq
  | [], _ :: _ => some .lt
  | _ :: _, [] => some .gt
  | x :: xs, y :: ys => if same x y then orderItems? xs ys else order? x y

end

/-- Whether all values can be compared with each other. -/
def comparable : List Json → Bool
  | [] => true
  | v :: vs => vs.all (fun w => (order? v w).isSome) && comparable vs

/-- Values in their order, if all of them can be compared. -/
def sorted? (vs : List Json) : Option (List Json) :=
  if comparable vs then some (vs.mergeSort fun a b => order? a b != some .gt) else none

end ContentDepot.Json
