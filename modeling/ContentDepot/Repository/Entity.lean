import ContentDepot.Json.Printer
import ContentDepot.Json.Reader
import ContentDepot.Schema

/-!
# Entities

An entity is a record with named attributes, of which one holds its identifier
and one the hash of its stored content. It is stored as compact JSON with all
its attributes in their order.

* `EntityModel`: the attributes of a kind of entity.
* `EntityModel.check`: reading an entity from a value.
* `Attribute`, `Entity.attribute?`: what a path of attributes leads to.
* `EntityModel.serialize`, `EntityModel.deserialize`: an entity as stored content.
-/

namespace ContentDepot

/-- What an attribute may hold. -/
inductive AttributeKind where
  | text
  | optionalText
  | integer
  deriving DecidableEq, Repr, Inhabited

namespace AttributeKind

/-- Reads the value of an attribute. -/
def check : AttributeKind → Json → Checked Json
  | text, v => (Schema.string v).map Json.str
  | optionalText, v => (Schema.stringOrNull v).map Json.ofOption
  | integer, v => (Schema.laxInt v).map Json.int

end AttributeKind

/-- The attributes of a kind of entity, and those for its identifier and its hash. -/
structure EntityModel where
  attributes : List (String × AttributeKind)
  idAttribute : String
  hashAttribute : String
  deriving DecidableEq, Repr

/-- The values of the attributes, in their order. -/
abbrev Entity := Entries Json

/-- What an attribute is: a value, or an operation, which has no written form. -/
inductive Attribute where
  | value (v : Json)
  | operation
  deriving Repr, Inhabited

namespace Attribute

/-- The operations of an integer. -/
def integerOperations : List String :=
  ["as_integer_ratio", "bit_count", "bit_length", "conjugate", "from_bytes", "is_integer",
    "to_bytes"]

/-- The operations of a text. -/
def textOperations : List String :=
  ["capitalize", "casefold", "center", "count", "encode", "endswith", "expandtabs", "find",
    "format", "format_map", "index", "isalnum", "isalpha", "isascii", "isdecimal", "isdigit",
    "isidentifier", "islower", "isnumeric", "isprintable", "isspace", "istitle", "isupper", "join",
    "ljust", "lower", "lstrip", "maketrans", "partition", "removeprefix", "removesuffix",
    "replace", "rfind", "rindex", "rjust", "rpartition", "rsplit", "rstrip", "split",
    "splitlines", "startswith", "strip", "swapcase", "title", "translate", "upper", "zfill"]

/-- The operations of an object. -/
def objectOperations : List String :=
  ["clear", "copy", "fromkeys", "get", "items", "keys", "pop", "popitem", "setdefault", "update",
    "values"]

/-- The operations of an entity, and what is known of its kind. -/
def entityOperations : List String :=
  ["construct", "copy", "dict", "from_orm", "json", "model_construct", "model_copy", "model_dump",
    "model_dump_json", "model_fields", "model_fields_set", "model_json_schema",
    "model_parametrized_name", "model_post_init", "model_rebuild", "model_validate",
    "model_validate_json", "model_validate_strings", "parse_file", "parse_obj", "parse_raw",
    "schema", "schema_json", "update_forward_refs", "validate"]

/-- An operation, if it is in a list. -/
def operationIn (names : List String) (name : String) : Option Attribute :=
  if names.contains name then some operation else none

/-- An attribute of a value: an integer is a rational number and a complex one. -/
def ofValue? : Json → String → Option Attribute
  | .int n, name =>
    if name = "real" || name = "numerator" then some (value (.int n))
    else if name = "imag" then some (value (.int 0))
    else if name = "denominator" then some (value (.int 1))
    else operationIn integerOperations name
  | .str _, name => operationIn textOperations name
  | .obj _, name => operationIn objectOperations name
  | _, _ => none

/-- An attribute of an attribute; operations have none that is known here. -/
def attribute? : Attribute → String → Option Attribute
  | value v, name => ofValue? v name
  | operation, _ => none

end Attribute

namespace Entity

/-- The attributes of all entities beside those of their models. -/
def sharedAttributes : Entries Json :=
  [("model_extra", .null), ("model_config", .obj []), ("model_computed_fields", .obj [])]

/-- What a path of attributes leads to, points between them. -/
def attribute? (e : Entity) (path : String) : Option Attribute :=
  match (path.toList.splitOn '.').map String.ofList with
  | [] => none
  | name :: names =>
    let first := match (Entries.get? e name).or (Entries.get? sharedAttributes name) with
      | some v => some (Attribute.value v)
      | none => Attribute.operationIn Attribute.entityOperations name
    first.bind fun a => names.foldlM Attribute.attribute? a

end Entity

namespace EntityModel

/-- Reads one attribute; one that may be null may be absent. -/
def checkAttribute (members : Entries Json) (a : String × AttributeKind) :
    Checked (String × Json) :=
  let value := match a.2 with
    | .optionalText =>
      Schema.optionalField members [a.1] Json.null (AttributeKind.check .optionalText)
    | kind => Schema.field members [a.1] (AttributeKind.check kind)
  value.map fun v => (a.1, v)

/-- Reads the attributes of a list. -/
def checkAttributes (members : Entries Json) : List (String × AttributeKind) → Checked Entity
  | [] => .ok []
  | a :: rest =>
    Checked.apply (Checked.apply (.ok List.cons) (checkAttribute members a))
      (checkAttributes members rest)

/-- Reads an entity. -/
def check (m : EntityModel) : Json → Checked Entity
  | .obj members => checkAttributes members m.attributes
  | _ => .fail .modelType

/-- An entity as stored content. -/
def serialize (e : Entity) : Bytes := Text.Utf8.encode (Json.obj e).print

/-- Stored content as an entity. -/
def deserialize (m : EntityModel) (content : Bytes) : Checked Entity :=
  match Text.Utf8.decode? content with
  | none => .fail .jsonInvalid
  | some cs => match Json.read .forRecords cs with
    | .error _ => .fail .jsonInvalid
    | .ok v => m.check v

/-- The identifier of an entity. -/
def idOf (m : EntityModel) (e : Entity) : Json := (Entries.get? e m.idAttribute).getD .null

/-- The entity with an identifier. -/
def withId (m : EntityModel) (e : Entity) (id : String) : Entity :=
  Entries.put e m.idAttribute (.str id)

/-- The entity with the hash of its content. -/
def withHash (m : EntityModel) (e : Entity) (hash : Option String) : Entity :=
  Entries.put e m.hashAttribute (.ofOption hash)

end EntityModel

end ContentDepot
