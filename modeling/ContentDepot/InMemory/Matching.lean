import ContentDepot.Decimal.Numeral
import ContentDepot.Failure
import ContentDepot.Search.Predicate
import ContentDepot.Text.Lowering
import ContentDepot.Text.Word

/-!
# Which documents a predicate selects

The meaning of a predicate on a document. A field that the mapping knows as a
keyword is matched as a whole; the text of every other field is taken apart into
words in lower case. Numbers are compared as binary64 numbers, and an integer
beyond their range is a fault.

* `passes`: whether a document passes a test.
* `fulfils`: whether it fulfils a predicate.
* `select`: the documents that do.
-/

namespace ContentDepot.InMemory

open Search

/-- A document: its fields with their values. -/
abbrev Document := Entries Json

/-- The ending of a field name that asks for the whole value. -/
def keywordSuffix : String := ".keyword"

/-- The name of the field without the ending that asks for the whole value. -/
def bareName (field : String) : String :=
  let cs := field.toList
  let suffix := keywordSuffix.toList
  if suffix.isSuffixOf cs then String.ofList (cs.take (cs.length - suffix.length)) else field

/-- Whether a field is matched as a whole. -/
def isKeyword (keywords : List String) (field : String) : Bool :=
  keywordSuffix.toList.isSuffixOf field.toList || keywords.contains field

/-- The value of a field; an absent field has null. -/
def fieldValue (d : Document) (field : String) : Json :=
  (Entries.get? d (bareName field)).getD .null

/-- The words of a value in lower case. -/
def words (v : Json) : List String := Text.tokens (Text.lower v.text)

/-- The number that an integer has become; an infinite one is out of range. -/
def unlessInfinite : Binary64 → Except Fault (Option Binary64)
  | .infinite _ => .error .outOfRange
  | x => .ok (some x)

/-- A value as a binary64 number, if it is one or reads as one; a truth value does not. -/
def asNumber? : Json → Except Fault (Option Binary64)
  | .int n => unlessInfinite (Binary64.ofInt n)
  | .float x => .ok (some x)
  | .str s => .ok (Numeral.float? s)
  | _ => .ok none

/-- Whether a value is a truth value. -/
def isBool : Json → Bool
  | .bool _ => true
  | _ => false

/-- Whether a value that is no list has a term. -/
def scalarHasTerm (keyword : Bool) (found : Json) (value : Json) : Except Fault Bool :=
  match found with
  | .null => .ok false
  | found =>
    if isBool found || isBool value then
      .ok (Text.lower found.text == Text.lower value.text)
    else match found with
      | .int _ | .float _ => do
        match ← asNumber? value with
        | none => return false
        | some y =>
          match ← asNumber? found with
          | none => return false
          | some x => return x.same y
      | .str s => .ok (if keyword then s == value.text else (words (.str s)).contains value.text)
      | found => .ok (!keyword && (words found).contains value.text)

mutual

/-- Whether a value has a term; a list has the terms of its items. -/
def hasTerm (keyword : Bool) (value : Json) : Json → Except Fault Bool
  | .arr items => someHasTerm keyword value items
  | found => scalarHasTerm keyword found value

/-- Whether one of several values has a term. -/
def someHasTerm (keyword : Bool) (value : Json) : List Json → Except Fault Bool
  | [] => .ok false
  | x :: xs => do
    if ← hasTerm keyword value x then return true
    someHasTerm keyword value xs

end

/-- Whether one of several terms is there. -/
def hasSomeTerm (keyword : Bool) (found : Json) : List String → Except Fault Bool
  | [] => .ok false
  | t :: ts => do
    if ← hasTerm keyword (.str t) found then return true
    hasSomeTerm keyword found ts

/-- Whether a value shares a word with another; an absent value shares none. -/
def sharesWord (found value : Json) : Bool :=
  match found with
  | .null => false
  | found => (words value).any (words found).contains

/-- Whether two texts stand on the side of each other that a bound says. -/
def textWithin (bound : Bound) (a b : String) : Bool :=
  match bound with
  | .below => a < b
  | .atMost => !decide (b < a)
  | .above => b < a
  | .atLeast => !decide (a < b)

/-- Whether two numbers stand on the side of each other that a bound says. -/
def numberWithin (bound : Bound) (x y : Binary64) : Bool :=
  match bound with
  | .below => x.less y
  | .atMost => x.less y || x.same y
  | .above => y.less x
  | .atLeast => y.less x || x.same y

/-- Whether a value lies within a bound: as numbers if both are, and as texts otherwise. -/
def isWithin (bound : Bound) (found limit : Json) : Except Fault Bool :=
  match found with
  | .null => .ok false
  | found => do
    match ← asNumber? found, ← asNumber? limit with
    | some x, some y => return numberWithin bound x y
    | _, _ => return textWithin bound found.text limit.text

/-- Whether a document passes a test. -/
def passes (keywords : List String) (d : Document) : Test → Except Fault Bool
  | .term field value => hasTerm (isKeyword keywords field) value (fieldValue d field)
  | .terms field values => hasSomeTerm (isKeyword keywords field) (fieldValue d field) values
  | .word field value => .ok (sharesWord (fieldValue d field) value)
  | .wordInSome fields value => .ok (fields.any fun field => sharesWord (fieldValue d field) value)
  | .range field bound limit => isWithin bound (fieldValue d field) limit

/-- Whether a document passes all tests, up to the first that it fails. -/
def passesAll (keywords : List String) (d : Document) : List Test → Except Fault Bool
  | [] => .ok true
  | t :: ts => do
    if ← passes keywords d t then passesAll keywords d ts else return false

/-- Whether a document passes one of the tests, up to the first that it passes. -/
def passesSome (keywords : List String) (d : Document) : List Test → Except Fault Bool
  | [] => .ok false
  | t :: ts => do
    if ← passes keywords d t then return true else passesSome keywords d ts

/-- Whether a document fulfils a predicate. -/
def fulfils (keywords : List String) (d : Document) : Predicate → Except Fault Bool
  | .anything => .ok true
  | .slots must mustNot filter => do
    if !(← passesAll keywords d must) then return false
    if !(← passesAll keywords d filter) then return false
    return !(← passesSome keywords d mustNot)

/-- The documents that fulfil a predicate, in their order. -/
def select (keywords : List String) (p : Predicate) :
    List (String × Document) → Except Fault (List (String × Document))
  | [] => .ok []
  | d :: ds => do
    if ← fulfils keywords d.2 p then return d :: (← select keywords p ds)
    select keywords p ds

end ContentDepot.InMemory
