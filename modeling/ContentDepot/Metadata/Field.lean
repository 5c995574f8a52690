import ContentDepot.Schema

/-!
# Index fields

A field is a name with a value that is indexed beside a piece of content. Of
fields with one name the last gives the value, at the place of the first.

* `toEntries`: fields as a map of their values.
* `byName`: fields as a map of the fields themselves.
-/

namespace ContentDepot

/-- An attribute that is indexed beside a piece of content. -/
structure IndexField where
  name : String
  value : Json
  /-- Whether the value has a written form; null stands for one that has not. -/
  writable : Bool := true
  deriving Repr, Inhabited, DecidableEq

namespace IndexField

/-- Reads a field; `notAnObject` is the issue with a value that has no members. -/
def check (notAnObject : IssueKind) : Json → Checked IndexField
  | .obj members =>
    let found := Checked.apply (.ok fun name value => { name, value })
      (Schema.field members ["name"] Schema.nonEmptyString)
    found.apply (Schema.optionalField members ["value"] .null .ok)
  | _ => .fail notAnObject

/-- A field as an object. -/
def toJson (f : IndexField) : Json := .obj [("name", .str f.name), ("value", f.value)]

/-- Fields as a map, the last value of each name at the place of its first. -/
def toEntries (fields : List IndexField) : Entries Json :=
  Entries.ofList (fields.map fun f => (f.name, f.value))

/-- Fields by their names, the last of each name at the place of its first. -/
def byName (fields : List IndexField) : Entries IndexField :=
  Entries.ofList (fields.map fun f => (f.name, f))

end IndexField

end ContentDepot
