import ContentDepot.Decimal.Numeral
import ContentDepot.Entries

/-!
# JSON values

A value of the data format. Integers have no bound and are kept apart from
binary64 numbers; the members of an object keep their order.

* `decEq`: equality is decidable.
* `member?`, `truthy`: what a reader asks of a value.
* `finite`, `sendable`: what holds of every number in a value.
* `levels`: how deep values lie within a value.
-/

namespace ContentDepot

/-- A JSON value. -/
inductive Json where
  | null
  | bool (b : Bool)
  | int (n : Int)
  | float (x : Binary64)
  | str (s : String)
  | arr (items : List Json)
  | obj (members : List (String × Json))
  deriving Repr, Inhabited

namespace Json

mutual

/-- Equality of values. -/
def decEq : (a b : Json) → Decidable (a = b)
  | .null, .null => isTrue rfl
  | .bool a, .bool b => decidable_of_iff (a = b) (by simp)
  | .int a, .int b => decidable_of_iff (a = b) (by simp)
  | .float a, .float b => decidable_of_iff (a = b) (by simp)
  | .str a, .str b => decidable_of_iff (a = b) (by simp)
  | .arr a, .arr b => match decEqItems a b with
    | isTrue h => isTrue (by rw [h])
    | isFalse h => isFalse (by simpa using h)
  | .obj a, .obj b => match decEqMembers a b with
    | isTrue h => isTrue (by rw [h])
    | isFalse h => isFalse (by simpa using h)
  | .null, .bool _ | .null, .int _ | .null, .float _ | .null, .str _ | .null, .arr _
  | .null, .obj _ | .bool _, .null | .bool _, .int _ | .bool _, .float _ | .bool _, .str _
  | .bool _, .arr _ | .bool _, .obj _ | .int _, .null | .int _, .bool _ | .int _, .float _
  | .int _, .str _ | .int _, .arr _ | .int _, .obj _ | .float _, .null | .float _, .bool _
  | .float _, .int _ | .float _, .str _ | .float _, .arr _ | .float _, .obj _ | .str _, .null
  | .str _, .bool _ | .str _, .int _ | .str _, .float _ | .str _, .arr _ | .str _, .obj _
  | .arr _, .null | .arr _, .bool _ | .arr _, .int _ | .arr _, .float _ | .arr _, .str _
  | .arr _, .obj _ | .obj _, .null | .obj _, .bool _ | .obj _, .int _ | .obj _, .float _
  | .obj _, .str _ | .obj _, .arr _ => isFalse (by simp)

/-- Equality of lists of values. -/
def decEqItems : (a b : List Json) → Decidable (a = b)
  | [], [] => isTrue rfl
  | x :: xs, y :: ys => match decEq x y, decEqItems xs ys with
    | isTrue h, isTrue h' => isTrue (by rw [h, h'])
    | isFalse h, _ => isFalse (by simp [h])
    | _, isFalse h => isFalse (by simp [h])
  | [], _ :: _ | _ :: _, [] => isFalse (by simp)

/-- Equality of lists of members. -/
def decEqMembers : (a b : List (String × Json)) → Decidable (a = b)
  | [], [] => isTrue rfl
  | x :: xs, y :: ys => match decEqMember x y, decEqMembers xs ys with
    | isTrue h, isTrue h' => isTrue (by rw [h, h'])
    | isFalse h, _ => isFalse (by simp [h])
    | _, isFalse h => isFalse (by simp [h])
  | [], _ :: _ | _ :: _, [] => isFalse (by simp)

/-- Equality of members. -/
def decEqMember : (a b : String × Json) → Decidable (a = b)
  | (k, x), (l, y) => match decEq x y with
    | isTrue h => decidable_of_iff (k = l) (by simp [h])
    | isFalse h => isFalse (by simp [h])

end

instance : DecidableEq Json := decEq

/-- The member of an object under a key; other values have none. -/
def member? : Json → String → Option Json
  | .obj ms, key => Entries.get? ms key
  | _, _ => none

/-- The text of a value that is a text. -/
def str? : Json → Option String
  | .str s => some s
  | _ => none

/-- A text or null. -/
def ofOption : Option String → Json
  | none => .null
  | some s => .str s

/-- Whether a value counts as true: null, false, zeros and everything of length
zero do not. -/
def truthy : Json → Bool
  | .null => false
  | .bool b => b
  | .int n => n != 0
  | .float x => !x.isZero
  | .str s => !s.isEmpty
  | .arr items => !items.isEmpty
  | .obj members => !members.isEmpty

mutual

/-- Whether a test holds for every value that occurs in a value and is neither a list nor
an object. -/
def every (test : Json → Bool) : Json → Bool
  | .arr items => everyItem test items
  | .obj members => everyMember test members
  | v => test v

/-- Whether a test holds throughout the values of a list. -/
def everyItem (test : Json → Bool) : List Json → Bool
  | [] => true
  | x :: xs => every test x && everyItem test xs

/-- Whether a test holds throughout the values of all members. -/
def everyMember (test : Json → Bool) : List (String × Json) → Bool
  | [] => true
  | m :: ms => everyIn test m && everyMember test ms

/-- Whether a test holds throughout the value of a member. -/
def everyIn (test : Json → Bool) : String × Json → Bool
  | (_, v) => every test v

end

mutual

/-- How many values lie within one another in a value, the value included. -/
def levels : Json → Nat
  | .arr items => levelsOfItems items + 1
  | .obj members => levelsOfMembers members + 1
  | _ => 1

/-- The greatest number of levels in the values of a list. -/
def levelsOfItems : List Json → Nat
  | [] => 0
  | x :: xs => max (levels x) (levelsOfItems xs)

/-- The greatest number of levels in the values of all members. -/
def levelsOfMembers : List (String × Json) → Nat
  | [] => 0
  | m :: ms => max (levelsOfMember m) (levelsOfMembers ms)

/-- The number of levels in the value of a member. -/
def levelsOfMember : String × Json → Nat
  | (_, v) => levels v

end

/-- Whether a value is no infinity and not the undefined number. -/
def isFiniteLeaf : Json → Bool
  | .float x => x.isFinite
  | _ => true

/-- Whether a value holds neither an infinity nor the undefined number. -/
def finite (v : Json) : Bool := v.every isFiniteLeaf

/-- Whether a value is no number that cannot be written: neither one that is not finite nor
an integer with too many digits. -/
def isSendableLeaf : Json → Bool
  | .int n => n.natAbs < Nat.pow 10 Numeral.maxDigits
  | v => isFiniteLeaf v

/-- Whether a value can be sent: each of its numbers is finite and not too long. -/
def sendable (v : Json) : Bool := v.every isSendableLeaf

end Json

end ContentDepot
