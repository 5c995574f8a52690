import ContentDepot.Json.Display

/-!
# Queries

A query is a list of clauses that all have to hold. A clause tests one or more
fields, of which the first names it, with an operation and a value. An operation
that is not known is kept as its name.

* `Operation`: the nine known operations and their names.
* `Clause`, `Query`.
-/

namespace ContentDepot

/-- The known operations of a clause. -/
inductive Operation where
  /-- Some word of the text occurs in one of the fields. -/
  | fullText
  | equals
  | notEquals
  /-- Some word of the text occurs in the field. -/
  | contains
  /-- The value of the field is among the given ones. -/
  | isAmong
  | below
  | atMost
  | above
  | atLeast
  deriving DecidableEq, Repr, Inhabited

namespace Operation

/-- The name of an operation. -/
def label : Operation → String
  | fullText => "full_text"
  | equals => "equals"
  | notEquals => "not_equals"
  | contains => "contains"
  | isAmong => "in"
  | below => "lt"
  | atMost => "lte"
  | above => "gt"
  | atLeast => "gte"

/-- All known operations. -/
def known : List Operation :=
  [fullText, equals, notEquals, contains, isAmong, below, atMost, above, atLeast]

/-- The operation with a name. -/
def ofLabel? (s : String) : Option Operation := known.find? fun op => op.label == s

theorem ofLabel?_label (op : Operation) : ofLabel? op.label = some op := by
  cases op <;> decide

end Operation

/-- The operation of a clause: a known one, or the name of another. -/
inductive ClauseOperation where
  | known (op : Operation)
  | other (label : String)
  deriving DecidableEq, Repr, Inhabited

namespace ClauseOperation

/-- The name of an operation. -/
def label : ClauseOperation → String
  | known op => op.label
  | other s => s

/-- The operation that a name stands for. -/
def ofLabel (s : String) : ClauseOperation :=
  match Operation.ofLabel? s with
  | some op => known op
  | none => other s

/-- The operation that a value stands for: a value that is no text is taken as its text. -/
def ofJson : Json → ClauseOperation
  | .str s => ofLabel s
  | v => other v.text

/-- Whether the operation is one of the nine. -/
def isKnown : ClauseOperation → Bool
  | known _ => true
  | other _ => false

end ClauseOperation

/-- One test. There is at least one field. -/
structure Clause where
  name : String
  moreNames : List String
  operation : ClauseOperation
  value : Json
  deriving Repr, Inhabited, DecidableEq

/-- The fields of a clause. -/
def Clause.names (c : Clause) : List String := c.name :: c.moreNames

/-- Clauses that all have to hold. -/
structure Query where
  clauses : List Clause
  deriving Repr, Inhabited, DecidableEq

namespace Query

/-- The query without a clause. -/
def empty : Query := ⟨[]⟩

/-- Whether the query has no clause. -/
def isEmpty (q : Query) : Bool := q.clauses.isEmpty

/-- The query with one more clause. -/
def add (q : Query) (c : Clause) : Query := ⟨q.clauses ++ [c]⟩

/-- A clause that tests one field with a known operation. -/
def single (op : Operation) (name : String) (value : Json) : Query :=
  ⟨[⟨name, [], .known op, value⟩]⟩

end Query

end ContentDepot
