import ContentDepot.Json.Display

/-!
# Failures

Everything that can end an operation without a result, as causes. The wording
is in one place: `StoreError.message`.

* `Fault`: an operation on a value that the value does not admit.
* `Cause`: what stood behind a failed talk with a backend.
* `StoreError`: the errors of the depot, each of one `ErrorKind`.
* `Issue`: one defect found while a value is checked against a record.
* `Failure`: any of these, as an operation ends with it.
-/

namespace ContentDepot

/-! ## Faults -/

/-- An operation that a value does not admit. -/
inductive Fault where
  | noSuchMember
  | wrongType
  | badValue
  | outOfRange
  | noSuchItem
  | noSuchKey
  | malformedJson
  | malformedText
  /-- A value lies too deep within others. -/
  | tooDeep
  | invalidRecord
  | unsuccessfulStatus
  | invalidAddress
  /-- Settings of which no service can be made. -/
  | refusedService
  | runtime (message : String)
  deriving DecidableEq, Repr, Inhabited

/-- The name of a fault. -/
def Fault.label : Fault → String
  | .noSuchMember => "AttributeError"
  | .wrongType => "TypeError"
  | .badValue => "ValueError"
  | .outOfRange => "OverflowError"
  | .noSuchItem => "IndexError"
  | .noSuchKey => "KeyError"
  | .malformedJson => "JSONDecodeError"
  | .malformedText => "UnicodeDecodeError"
  | .tooDeep => "RecursionError"
  | .invalidRecord => "ValidationError"
  | .unsuccessfulStatus => "HTTPStatusError"
  | .invalidAddress => "InvalidURL"
  | .refusedService => "AssertionError"
  | .runtime _ => "RuntimeError"

/-- A fault within a message: its name in angle brackets, and nothing for one that
came without a text. -/
def Fault.text : Fault → String
  | .runtime "" => ""
  | f => "<" ++ f.label ++ ">"

/-- Whether the fault is one of reading a value, which a lenient reader passes over. -/
def Fault.isValueFault : Fault → Bool
  | .badValue | .malformedJson | .malformedText => true
  | _ => false

/-! ## Errors of the depot -/

/-- How a caller branches on an error. -/
inductive ErrorKind where
  | validation
  | notFound
  | backend
  | unsupported
  deriving DecidableEq, Repr, Inhabited

/-- The name of a kind. -/
def ErrorKind.label : ErrorKind → String
  | .validation => "validation"
  | .notFound => "not_found"
  | .backend => "backend"
  | .unsupported => "unsupported"

/-- The status with which an error of this kind is answered. -/
def ErrorKind.status : ErrorKind → Nat
  | .validation => 400
  | .notFound => 404
  | .unsupported => 501
  | .backend => 500

/-- The classes of errors: one for each kind, and the general one, which counts as
a failure of a backend. -/
inductive ErrorClass where
  | general
  | validation
  | notFound
  | backend
  | unsupported
  deriving DecidableEq, Repr, Inhabited

/-- The kind of the errors of a class. -/
def ErrorClass.kind : ErrorClass → ErrorKind
  | .general | .backend => .backend
  | .validation => .validation
  | .notFound => .notFound
  | .unsupported => .unsupported

/-- What was under way when a backend failed. -/
inductive Activity where
  | storingFile
  | indexingFile
  | fetchingFile
  | storingContent
  | fetchingContent
  | indexingDocument
  | lookingUp
  | searching
  | counting
  | creatingIndex
  deriving DecidableEq, Repr, Inhabited

/-- An activity in words. -/
def Activity.phrase : Activity → String
  | .storingFile => "storing the file"
  | .indexingFile => "indexing the file"
  | .fetchingFile => "fetching the file"
  | .storingContent => "storing content into IPFS"
  | .fetchingContent => "fetching content from IPFS"
  | .indexingDocument => "indexing document into Elasticsearch"
  | .lookingUp => "searching into Elasticsearch"
  | .searching => "searching documents into Elasticsearch"
  | .counting => "counting into Elasticsearch"
  | .creatingIndex => "creating the index into Elasticsearch"

/-- What stood behind a failed talk with a backend: a fault, a member that an
answer lacked, or a connection that broke. -/
inductive Cause where
  | fault (f : Fault)
  | missingMember (key : String)
  | transport (message : String)
  deriving DecidableEq, Repr, Inhabited

/-- A cause within a message. -/
def Cause.text : Cause → String
  | .fault f => f.text
  | .missingMember key => Text.Quoted.quote key
  | .transport message => message

/-- The errors of the depot. -/
inductive StoreError where
  /-- A required parameter is missing or empty. -/
  | emptyParameter (name : String)
  /-- There is no content to store. -/
  | missingContent
  | negativePage
  | pageSizeTooSmall
  | pageSizeTooLarge (maximum : Int)
  /-- External field names that the repository does not admit. -/
  | unknownExternalFields (names : List Json)
  /-- The request part of a form is not an index request. -/
  | invalidRequestForm
  | noDocument (index : String) (id : Json)
  | noContent (hash : Json)
  | noFileWithHash (index hash : Json)
  /-- The search engine answered with a status outside success. -/
  | engineStatus (status : Int) (detail : String)
  /-- The content store answered with a status that says nothing about the content. -/
  | contentStatus (status : Int) (hash : Json)
  /-- An activity failed for a cause below it. -/
  | failed (activity : Activity) (cause : Cause)
  | unsupported (operation : Json)
  /-- An error whose message and context are given. -/
  | declared (cls : ErrorClass) (message : String) (context : Entries Json)
  deriving Repr, Inhabited

namespace StoreError

/-- The class of an error. -/
def cls : StoreError → ErrorClass
  | emptyParameter _ | missingContent | negativePage | pageSizeTooSmall | pageSizeTooLarge _
  | unknownExternalFields _ | invalidRequestForm => .validation
  | noDocument .. | noContent _ | noFileWithHash .. => .notFound
  | engineStatus .. | contentStatus .. | failed .. => .backend
  | unsupported _ => .unsupported
  | declared c _ _ => c

/-- The kind of an error. -/
def kind (e : StoreError) : ErrorKind := e.cls.kind

/-- The message of an error. -/
def message : StoreError → String
  | emptyParameter name => name ++ " cannot be null or empty"
  | missingContent => "content cannot be null"
  | negativePage => "page must be >= 0"
  | pageSizeTooSmall => "size must be >= 1"
  | pageSizeTooLarge maximum => "size must be <= " ++ toString maximum
  | unknownExternalFields names =>
    "Unknown external index fields: " ++ (Json.arr names).text
  | invalidRequestForm => "Invalid indexer request: " ++ Fault.invalidRecord.text
  | noDocument index id => "Document [index=" ++ index ++ ", id=" ++ id.text ++ "] not found"
  | noContent hash => "Content [hash=" ++ hash.text ++ "] not found"
  | noFileWithHash index hash =>
    "File [index=" ++ index.text ++ ", hash=" ++ hash.text ++ "] not found"
  | engineStatus status detail =>
    "Elasticsearch answered HTTP " ++ toString status ++ ": " ++ detail
  | contentStatus status _ =>
    "Error while fetching content from IPFS: HTTP " ++ toString status
  | failed activity cause => "Error while " ++ activity.phrase ++ ": " ++ cause.text
  | unsupported operation => "Operation '" ++ operation.text ++ "' is not supported"
  | declared _ text _ => text

/-- What an error says about its circumstances, by name. -/
def context : StoreError → Entries Json
  | emptyParameter name => [("parameter", .str name)]
  | missingContent => [("parameter", .str "content")]
  | negativePage => [("parameter", .str "page")]
  | pageSizeTooSmall | pageSizeTooLarge _ => [("parameter", .str "size")]
  | unknownExternalFields names => [("fields", .arr names)]
  | invalidRequestForm => []
  | noDocument index id => [("index", .str index), ("id", id)]
  | noContent hash => [("hash", hash)]
  | noFileWithHash index hash => [("index", index), ("hash", hash)]
  | engineStatus status _ => [("status", .int status)]
  | contentStatus _ hash => [("hash", hash)]
  | failed .. => []
  | unsupported operation => [("operation", operation)]
  | declared _ _ entries => entries

/-- An argument that may come in its place or by its name, but not in both ways. -/
def argument (name : String) (given : List Json) (named : Entries Json) : Except Fault Json :=
  match given, Entries.get? named name with
  | [v], none | [], some v => .ok v
  | _, _ => .error .wrongType

/-- The error of a class with what is given in places and by names. An error that is not of the
unsupported kind takes a message, which has to be a text, and keeps every other name as its
context; one of that kind takes an operation and nothing else. -/
def ofArguments (cls : ErrorClass) (given : List Json) (named : Entries Json) :
    Except Fault StoreError := do
  if cls = .unsupported then
    let operation ← argument "operation" given named
    if (Entries.keys named).all (· == "operation") then return .unsupported operation
    else throw .wrongType
  else
    let message ← argument "message" given named
    if Entries.has named "self" then throw .wrongType
    match message with
    | .str text => return .declared cls text (Entries.erase named "message")
    | _ => throw .wrongType

end StoreError

/-! ## Issues of a check -/

/-- What a value lacks to be the record that is wanted. -/
inductive IssueKind where
  | missing
  | stringType
  | listType
  | dictType
  | modelType
  | stringTooShort
  | tooShort
  | jsonInvalid
  | intType
  | intParsing
  | intParsingSize
  | intFromFloat
  | finiteNumber
  | floatType
  | floatParsing
  | boolType
  | boolParsing
  | frozenInstance
  | modelAttributesType
  | greaterThanEqual
  | literalError
  | valueError
  deriving DecidableEq, Repr, Inhabited

/-- The name of an issue. -/
def IssueKind.label : IssueKind → String
  | .missing => "missing"
  | .stringType => "string_type"
  | .listType => "list_type"
  | .dictType => "dict_type"
  | .modelType => "model_type"
  | .stringTooShort => "string_too_short"
  | .tooShort => "too_short"
  | .jsonInvalid => "json_invalid"
  | .intType => "int_type"
  | .intParsing => "int_parsing"
  | .intParsingSize => "int_parsing_size"
  | .intFromFloat => "int_from_float"
  | .finiteNumber => "finite_number"
  | .floatType => "float_type"
  | .floatParsing => "float_parsing"
  | .boolType => "bool_type"
  | .boolParsing => "bool_parsing"
  | .frozenInstance => "frozen_instance"
  | .modelAttributesType => "model_attributes_type"
  | .greaterThanEqual => "greater_than_equal"
  | .literalError => "literal_error"
  | .valueError => "value_error"

/-- A step from a value to a part of it. -/
inductive Step where
  | key (name : String)
  | item (position : Nat)
  deriving DecidableEq, Repr, Inhabited

/-- A defect and where it lies. -/
structure Issue where
  kind : IssueKind
  path : List Step
  deriving DecidableEq, Repr, Inhabited

/-! ## How an operation ends without a result -/

/-- The ways in which an operation fails. -/
inductive Failure where
  | error (e : StoreError)
  | invalid (issues : List Issue)
  | fault (f : Fault)
  deriving Repr, Inhabited

/-- A failure within a message. -/
def Failure.text : Failure → String
  | .error e => e.message
  | .invalid _ => Fault.invalidRecord.text
  | .fault f => f.text

/-- A value that is null or of length zero. -/
def Json.isBlank : Json → Bool
  | .null => true
  | .str s => s.isEmpty
  | .arr items => items.isEmpty
  | .obj members => members.isEmpty
  | _ => false

/-- Refuses a parameter that is null or of length zero. -/
def require (value : Json) (name : String) : Except StoreError Unit :=
  if value.isBlank then .error (.emptyParameter name) else .ok ()

end ContentDepot
