import ContentDepot.Exchange.Connection
import ContentDepot.Metadata.Record
import ContentDepot.Search.Placeholder

/-!
# Reading the answers of the search engine

What the engine answers is read leniently where it says nothing that is needed,
and refused for a cause where it lacks the shape that is.

* `Response.check`: refuses a status outside success.
* `Metadata.ofHit`: the record of a hit.
* `hitsOf`, `totalOf`: the hits of a search and the number of matches.
-/

namespace ContentDepot

namespace Search

/-- What an answer says of its error: the type, if the error has one. -/
def errorType (r : Response) : Except Cause Json :=
  match r.body.json? with
  | .error f => if f.isValueFault then .ok .null else .error (.fault f)
  | .ok v => do
    match ← v.memberOrFault "error" with
    | none => return .null
    | some (.obj ms) => return (Entries.get? ms "type").getD .null
    | some e => return e

/-- Breaks off at a status outside success, with the type of the error or the body. -/
def check (r : Response) : Attempt Unit := do
  if r.isSuccess then return ()
  let type ← Attempt.ofRead (errorType r)
  throw (.status r.status (if type.truthy then type.text else r.body.text))

/-- A pair of values, as which a value is read within a list of entries. -/
def pairOf : Json → Except Fault (Json × Json)
  | .arr [k, v] => .ok (k, v)
  | .arr _ => .error .badValue
  | .str s => match s.toList with
    | [k, v] => .ok (.str (String.singleton k), .str (String.singleton v))
    | _ => .error .badValue
  | .obj [(k, _), (v, _)] => .ok (.str k, .str v)
  | .obj _ => .error .badValue
  | _ => .error .wrongType

/-- Entries that come as a list of pairs. The flag says whether all keys are texts. -/
def entriesOf : List Json → Except Fault (Bool × List (String × Json))
  | [] => .ok (true, [])
  | x :: xs => do
    let (k, v) ← pairOf x
    match k with
    | .arr _ | .obj _ => throw .wrongType
    | .str key =>
      let (texts, rest) ← entriesOf xs
      return (texts, (key, v) :: rest)
    | _ =>
      let (_, rest) ← entriesOf xs
      return (false, rest)

/-- The document of a hit. The flag says whether all keys are texts. -/
def documentOf : Json → Except Fault (Bool × Entries Json)
  | .obj ms => .ok (true, ms)
  | v =>
    if !v.truthy then .ok (true, [])
    else match v with
      | .arr items => do
        let (texts, entries) ← entriesOf items
        return (texts, Entries.ofList entries)
      | .str _ => .error .badValue
      | _ => .error .wrongType

/-- A value as text, unless it is null. -/
def textOf? : Option Json → Option String
  | none | some .null => none
  | some v => some v.text

/-- The record of a hit: the reserved keys are taken out of the document. -/
def metadataOf (hit : Json) : Except Fault Metadata :=
  match hit with
  | .obj ms => do
    let (texts, document) ← documentOf ((Entries.get? ms "_source").getD .null)
    match Entries.get? ms "_index", Entries.get? ms "_id", texts with
    | some (.str index), some (.str id), true =>
      return {
        index := index
        id := id
        hash := textOf? (Entries.get? document hashKey)
        contentType := textOf? (Entries.get? document contentTypeKey)
        fields := Entries.erase (Entries.erase document hashKey) contentTypeKey }
    | _, _, _ => throw .invalidRecord
  | _ => .error .noSuchMember

/-- The record of a hit, or the cause why it has none. -/
def readHit (hit : Json) : Except Cause Metadata :=
  match metadataOf hit with
  | .ok m => .ok m
  | .error f => .error (.fault f)

/-- The member of the hits of an answer. -/
def hitsMember (answer : Json) (key : String) : Except Cause (Option Json) := do
  let hits ← answer.memberOrFault "hits"
  (hits.getD (.obj [])).memberOrFault key

/-- The hits of an answer, in their order. -/
def hitsOf (answer : Json) : Except Cause (List Metadata) := do
  match (← hitsMember answer "hits").getD (.arr []) with
  | .arr items => items.mapM readHit
  | .str "" | .obj [] => return []
  | .str _ | .obj _ => throw (.fault .noSuchMember)
  | _ => throw (.fault .wrongType)

/-- A value as an integer. -/
def intOf : Json → Except Fault Int
  | .int n => .ok n
  | .bool b => .ok (if b then 1 else 0)
  | .float x => match x.truncate?, x with
    | some n, _ => .ok n
    | none, .nan => .error .badValue
    | none, _ => .error .outOfRange
  | .str s => match Numeral.int? s with
    | some n => .ok n
    | none => .error .badValue
  | _ => .error .wrongType

/-- The number of matches that an answer reports, plainly or within an object. -/
def totalOf (answer : Json) : Except Cause Int := do
  let total := (← hitsMember answer "total").getD (.int 0)
  let total := match total with
    | .obj ms => (Entries.get? ms "value").getD (.int 0)
    | v => v
  match intOf total with
  | .ok n => return n
  | .error f => throw (.fault f)

end Search

end ContentDepot
