import ContentDepot.Json.Reader
import ContentDepot.Metadata.Field

/-!
# Metadata, index requests and receipts

* `Metadata`: what the index knows of a piece of content.
* `IndexRequest`: what is to be indexed; `resolvedFields` merges the external
  fields over the others.
* `Receipt`: the answer to a write, `index`, `id` and `hash`.

Two spellings of the identifiers are read, the short one first.
-/

namespace ContentDepot

/-- What the index knows of a piece of content. -/
structure Metadata where
  index : String
  id : String
  hash : Option String
  contentType : Option String
  fields : Entries Json
  deriving Repr, Inhabited, DecidableEq

namespace Metadata

/-- Reads a record. -/
def check : Json → Checked Metadata
  | .obj ms =>
    let found := Checked.apply (.ok Metadata.mk)
      (Schema.field ms ["index", "index_name"] Schema.string)
    let found := found.apply (Schema.field ms ["id", "document_id"] Schema.string)
    let found := found.apply (Schema.optionalField ms ["hash"] none Schema.stringOrNull)
    let found := found.apply (Schema.optionalField ms ["content_type"] none Schema.stringOrNull)
    found.apply (Schema.optionalField ms ["index_fields"] [] Schema.object)
  | _ => .fail .modelType

/-- A record as an object. -/
def toJson (m : Metadata) : Json :=
  .obj [("index", .str m.index), ("id", .str m.id), ("hash", .ofOption m.hash),
    ("content_type", .ofOption m.contentType), ("index_fields", .obj m.fields)]

/-- The value of a field, or the default. -/
def getField (m : Metadata) (name : String) (default : Json) : Json :=
  (Entries.get? m.fields name).getD default

/-- The names with an underscore in front that belong to all records alike. -/
def sharedNames : List String :=
  ["__weakref__", "__fields_set__", "__class_vars__", "__private_attributes__", "__signature__",
    "__pydantic_complete__", "__pydantic_computed_fields__", "__pydantic_core_schema__",
    "__pydantic_custom_init__", "__pydantic_decorators__", "__pydantic_fields__",
    "__pydantic_generic_metadata__", "__pydantic_parent_namespace__", "__pydantic_post_init__",
    "__pydantic_root_model__", "__pydantic_serializer__", "__pydantic_setattr_handlers__",
    "__pydantic_validator__"]

/-- Why a name of a record cannot be given a value. A record never changes, so none of its
attributes can be set; a name with an underscore in front is no attribute and can, apart from
those that belong to all records or determine what the record is. -/
def setFailure? (_ : Metadata) (name : String) (value : Json) : Option Failure :=
  if name.toList.head? ≠ some '_' then some (.invalid [⟨.frozenInstance, [.key name]⟩])
  else if sharedNames.contains name then some (.fault .noSuchMember)
  else if name = "__class__" then some (.fault .wrongType)
  else if name = "__dict__" then match value with
    | .obj _ => none
    | _ => some (.fault .wrongType)
  else none

end Metadata

/-- What is to be indexed for a piece of content. -/
structure IndexRequest where
  id : Option String
  index : String
  contentType : Option String
  hash : Option String
  fields : List IndexField
  externalFields : Option (List IndexField)
  deriving Repr, Inhabited, DecidableEq

namespace IndexRequest

/-- Reads a request; `notAnObject` is the issue with a value that has no members. -/
def check (notAnObject : IssueKind) : Json → Checked IndexRequest
  | .obj ms =>
    let found := Checked.apply (.ok IndexRequest.mk)
      (Schema.optionalField ms ["id", "document_id"] none Schema.stringOrNull)
    let found := found.apply (Schema.field ms ["index", "index_name"] Schema.string)
    let found := found.apply (Schema.optionalField ms ["content_type"] none Schema.stringOrNull)
    let found := found.apply (Schema.optionalField ms ["hash"] none Schema.stringOrNull)
    let found := found.apply
      (Schema.optionalField ms ["index_fields"] [] (Schema.listOf (IndexField.check notAnObject)))
    found.apply (Schema.optionalField ms ["external_index_fields"] none fun
      | .null => .ok none
      | v => (Schema.listOf (IndexField.check notAnObject) v).map some)
  | _ => .fail notAnObject

/-- Reads a request from a text. -/
def checkText (s : String) : Checked IndexRequest :=
  match Json.read .forRecords s.toList with
  | .ok v => check .modelType v
  | .error _ => .fail .jsonInvalid

/-- A request as an object. -/
def toJson (r : IndexRequest) : Json :=
  .obj [("id", .ofOption r.id), ("index", .str r.index), ("content_type", .ofOption r.contentType),
    ("hash", .ofOption r.hash), ("index_fields", .arr (r.fields.map IndexField.toJson)),
    ("external_index_fields", match r.externalFields with
      | none => .null
      | some fields => .arr (fields.map IndexField.toJson))]

/-- The fields of the request with the external ones merged over them. -/
def resolvedFields (r : IndexRequest) : List IndexField :=
  (Entries.putAll (IndexField.byName r.fields)
    (IndexField.byName (r.externalFields.getD []))).map Prod.snd

end IndexRequest

/-- The answer to a write. -/
structure Receipt where
  index : String
  id : String
  hash : String
  deriving Repr, Inhabited, DecidableEq

namespace Receipt

/-- Makes a receipt of values that have to be texts; issues name the long spellings. -/
def ofParts (index id hash : Json) : Checked Receipt :=
  let found := Checked.apply (.ok Receipt.mk) ((Schema.string index).inside (.key "index_name"))
  let found := found.apply ((Schema.string id).inside (.key "document_id"))
  found.apply ((Schema.string hash).inside (.key "hash"))

/-- Reads a receipt. -/
def check : Json → Checked Receipt
  | .obj ms =>
    let found := Checked.apply (.ok Receipt.mk)
      (Schema.field ms ["index", "index_name"] Schema.string)
    let found := found.apply (Schema.field ms ["id", "document_id"] Schema.string)
    found.apply (Schema.field ms ["hash"] Schema.string)
  | _ => .fail .modelType

/-- A receipt as an object. -/
def toJson (r : Receipt) : Json :=
  .obj [("index", .str r.index), ("id", .str r.id), ("hash", .str r.hash)]

end Receipt

end ContentDepot
