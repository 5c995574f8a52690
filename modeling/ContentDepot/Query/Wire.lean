import ContentDepot.Query.Basic
import ContentDepot.Schema

/-!
# Queries as JSON

A query is sent as an object with its clauses under `query`; a bare list of
clauses and the key `filter_clauses` are read as well. A clause with one field
is written with `name`, one with several with `names`.

* `toWire`: the written form.
* `fromWire`: reading any of the accepted forms.
-/

namespace ContentDepot

namespace Clause

/-- The fields of a clause object: the list under `names`, else the text under `name`. -/
def checkNames (members : Entries Json) : Checked (List String) :=
  match Entries.get? members "names", Entries.get? members "name" with
  | none, some name => (Schema.nonEmptyListOf Schema.string (.arr [name])).inside (.key "names")
  | some names, _ => (Schema.nonEmptyListOf Schema.string names).inside (.key "names")
  | none, none => (Checked.fail .missing).inside (.key "names")

/-- A clause of its parts; there is at least one field. -/
def ofParts (names : List String) (operation : ClauseOperation) (value : Json) : Clause :=
  ⟨names.headD "", names.tail, operation, value⟩

/-- Reads a clause; `notAnObject` is the issue with a value that has no members. -/
def check (notAnObject : IssueKind) : Json → Checked Clause
  | .obj members =>
    let found := Checked.apply (.ok ofParts) (checkNames members)
    let found := found.apply
      (Schema.field members ["operation"] fun v => .ok (ClauseOperation.ofJson v))
    found.apply (Schema.optionalField members ["value"] .null .ok)
  | _ => .fail notAnObject

/-- The written form of a clause. -/
def toWire (c : Clause) : Json :=
  let names := match c.moreNames with
    | [] => ("name", Json.str c.name)
    | _ => ("names", Json.arr (c.names.map Json.str))
  .obj [names, ("operation", .str c.operation.label), ("value", c.value)]

end Clause

namespace Query

/-- Reads a query object; `notAnObject` is the issue with a value that has no members. -/
def check (notAnObject : IssueKind) : Json → Checked Query
  | .obj members =>
    (Schema.optionalField members ["query", "filter_clauses"] []
      (Schema.listOf (Clause.check notAnObject))).map Query.mk
  | _ => .fail notAnObject

/-- Reads a query: null has no clause, and a bare list is a list of clauses. -/
def fromWire : Json → Checked Query
  | .null => .ok empty
  | .arr items => check .modelType (.obj [("query", .arr items)])
  | v => check .modelType v

/-- The written form of a query. -/
def toWire (q : Query) : Json := .obj [("query", .arr (q.clauses.map Clause.toWire))]

end Query

end ContentDepot
