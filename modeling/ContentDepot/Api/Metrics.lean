import ContentDepot.Api.Message

/-!
# Metrics

A report of metrics comes in the form that a request accepts. The list of what
it accepts is gone through in order; an item counts if it names a form and a
version from 1.0.0 on, or the open form without a version. Where no item counts
the report is plain text of an older version.

* `Metrics.mediaType`: the media type of the report for what a request accepts.
* `Metrics.report`: the response, whose entries are no matter here.
-/

namespace ContentDepot.Api.Metrics

/-- What a request accepts, commas between the items. -/
def acceptList (r : Request) : List (List Char) :=
  let given := (r.headers.filter fun h => headerName h.1 == "accept").map (·.2.toList)
  (List.intercalate [','] given).splitOn ','

/-- An item of such a list: its media type and its parameters. -/
structure Accepted where
  media : String
  parameters : List (String × String)
  deriving Repr, DecidableEq

namespace Accepted

/-- A parameter, where there is an equals sign. -/
def parameter? (cs : List Char) : Option (String × String) :=
  if cs.contains '=' then
    let cs := Text.trim Text.isBlank cs
    some (String.ofList (cs.takeWhile (· != '=')),
      String.ofList ((cs.dropWhile (· != '=')).drop 1))
  else none

/-- The item that a text stands for. -/
def ofChars (cs : List Char) : Accepted :=
  let parts := cs.splitOn ';'
  ⟨String.ofList (Text.trim Text.isBlank (parts.headD [])), parts.filterMap parameter?⟩

/-- The version, where one is named. -/
def version? (a : Accepted) : Option String :=
  match Entries.get? a.parameters "version" with
  | some "" | none => none
  | some version => some version

/-- The ways in which names are escaped. -/
def escapings : List String := ["allow-utf-8", "underscores", "dots", "values"]

/-- How names are escaped. -/
def escaping (a : Accepted) : String :=
  let named := (Entries.get? a.parameters "escaping").getD ""
  if escapings.contains named then named else "underscores"

end Accepted

/-- Whether the parts of a version are not below those of another; parts that differ have to be
numbers to be compared. -/
def notBelow : List String → List Int → Except Fault Bool
  | _, [] => .ok true
  | [], _ :: _ => .ok false
  | part :: parts, least :: rest =>
    match Numeral.int? part with
    | none => .error .wrongType
    | some n => if n = least then notBelow parts rest else .ok (least < n)

/-- Whether a version is at least 1.0.0. -/
def isRecent (version : String) : Except Fault Bool :=
  notBelow ((version.toList.splitOn '.').map String.ofList) [1, 0, 0]

/-- A media type with its version, in UTF-8. -/
def versioned (media version : String) : String :=
  media ++ "; version=" ++ version ++ "; charset=utf-8"

/-- The media type of the open form. -/
def openMedia : String := "application/openmetrics-text"

/-- The media type of the plain form. -/
def plainMedia : String := "text/plain"

/-- The media type of the report that an item asks for, if it counts. -/
def mediaTypeOf? (a : Accepted) : Except Fault (Option String) := do
  if a.media ≠ openMedia ∧ a.media ≠ plainMedia then return none
  match a.version? with
  | none => return if a.media = openMedia then some (versioned openMedia "1.0.0") else none
  | some version =>
    if ← isRecent version then
      let shown := if a.media = openMedia then version else "1.0.0"
      return some (versioned a.media shown ++ "; escaping=" ++ a.escaping)
    else return none

/-- The media type of the report for what a request accepts. -/
def mediaType : List Accepted → Except Fault String
  | [] => .ok (versioned plainMedia "0.0.4")
  | a :: rest => do
    match ← mediaTypeOf? a with
    | some found => return found
    | none => mediaType rest

/-- A report of metrics without entries. -/
def report (r : Request) : Except Fault Response :=
  (mediaType ((acceptList r).map Accepted.ofChars)).map fun found =>
    ⟨200, [("content-type", found)], .empty⟩

end ContentDepot.Api.Metrics
