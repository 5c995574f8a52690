import ContentDepot.Decimal.Numeral
import ContentDepot.Failure

/-!
# Checking values against records

A check turns a value into a record or lists all its issues, in the order of
the record's fields. Checks of the parts are combined so that no issue is lost.

* `Checked.with`: two checks side by side.
* `Checked.inside`: the issues of a part, seen from the whole.
* `Checked.all`: a check for every item of a list.
* `field`, `optionalField`: the member of an object under the first of its names.
-/

namespace ContentDepot

/-- A result, or the issues that stand against it. -/
abbrev Checked (α : Type) := Except (List Issue) α

namespace Checked

variable {α β : Type}

/-- One issue with the value itself. -/
def fail (kind : IssueKind) : Checked α := .error [⟨kind, []⟩]

/-- The issues of a part, seen from the whole. -/
def inside (step : Step) : Checked α → Checked α
  | .ok a => .ok a
  | .error issues => .error (issues.map fun i => ⟨i.kind, step :: i.path⟩)

/-- A function and its argument, checked side by side: the issues of both count. -/
def apply : Checked (α → β) → Checked α → Checked β
  | .ok f, .ok a => .ok (f a)
  | .ok _, .error e => .error e
  | .error e, .ok _ => .error e
  | .error e, .error e' => .error (e ++ e')

/-- Checks the items of a list from a position on. -/
def allFrom (check : Json → Checked α) (position : Nat) : List Json → Checked (List α)
  | [] => .ok []
  | x :: xs =>
    apply (apply (.ok List.cons) (inside (.item position) (check x)))
      (allFrom check (position + 1) xs)

/-- Checks every item of a list. -/
def all (check : Json → Checked α) (items : List Json) : Checked (List α) := allFrom check 0 items

end Checked

namespace Schema

variable {α : Type}

/-- A text; nothing is turned into one. -/
def string : Json → Checked String
  | .str s => .ok s
  | _ => .fail .stringType

/-- A text or null. -/
def stringOrNull : Json → Checked (Option String)
  | .null => .ok none
  | v => (string v).map some

/-- A text of at least one character. -/
def nonEmptyString (v : Json) : Checked String := do
  let s ← string v
  if s.isEmpty then .fail .stringTooShort else return s

/-- A list, each of whose items passes a check. -/
def listOf (check : Json → Checked α) : Json → Checked (List α)
  | .arr items => Checked.all check items
  | _ => .fail .listType

/-- A list of at least one item. -/
def nonEmptyListOf (check : Json → Checked α) (v : Json) : Checked (List α) := do
  let items ← listOf check v
  if items.isEmpty then .fail .tooShort else return items

/-- An object with any members. -/
def object : Json → Checked (Entries Json)
  | .obj members => .ok members
  | _ => .fail .dictType

/-- The member under the first of the names that the object has, with that name. -/
def pick? (members : Entries Json) : List String → Option (String × Json)
  | [] => none
  | name :: names => match Entries.get? members name with
    | some v => some (name, v)
    | none => pick? members names

/-- A field that has to be there, under one of its names; a missing one is reported
under the first. -/
def field (members : Entries Json) (names : List String) (check : Json → Checked α) : Checked α :=
  match pick? members names with
  | some (name, v) => (check v).inside (.key name)
  | none => (Checked.fail .missing).inside (.key (names.headD ""))

/-- A field that may be absent. -/
def optionalField (members : Entries Json) (names : List String) (default : α)
    (check : Json → Checked α) : Checked α :=
  match pick? members names with
  | some (name, v) => (check v).inside (.key name)
  | none => .ok default

/-- An integer that a text stands for. -/
def intOfText (s : String) : Checked Int :=
  match Numeral.settingInt s with
  | .ok n => .ok n
  | .error .malformed => .fail .intParsing
  | .error .oversized => .fail .intParsingSize

/-- The bound of the integers that a binary64 number may stand for. -/
def floatIntBound : Int := 9223372036854775808

/-- An integer that a binary64 number stands for. -/
def intOfFloat (x : Binary64) : Checked Int :=
  match x.truncate? with
  | none => .fail .finiteNumber
  | some n =>
    if !x.isIntegral then .fail .intFromFloat
    else if -floatIntBound < n && n < floatIntBound then .ok n
    else .fail .intParsingSize

/-- An integer, also from a text, an integral number or a truth value. -/
def laxInt : Json → Checked Int
  | .int n => .ok n
  | .bool b => .ok (if b then 1 else 0)
  | .float x => intOfFloat x
  | .str s => intOfText s
  | _ => .fail .intType

end Schema

end ContentDepot
