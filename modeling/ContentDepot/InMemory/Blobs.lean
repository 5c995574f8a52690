import ContentDepot.Digest.Sha256
import ContentDepot.Entries
import ContentDepot.Exchange.Message
import ContentDepot.Text.Percent

/-!
# A content store in memory

A content store that keeps its contents in memory, under the beginning of their
digests. It can be switched to answer every request with one status.

* `Blobs.hashOf`: the hash of a content.
* `Blobs.answer`: the reply to a request and the state after it.
-/

namespace ContentDepot.InMemory

/-- The state of a content store. -/
structure Blobs where
  /-- The contents under their hashes. -/
  blobs : Entries Bytes
  /-- The status of every answer, if there is one. -/
  failing : Option Int
  deriving Repr

namespace Blobs

/-- A store without contents. -/
def initial : Blobs := ⟨[], none⟩

/-- The hash of a content: a mark and the first 44 digits of its digest. -/
def hashOf (content : Bytes) : String :=
  "Qm" ++ String.ofList ((Digest.Sha256.hexDigest content).toList.take 44)

/-- A response with a value as its body. -/
def respond (status : Int) (body : Json) : Reply := .response ⟨status, .json body⟩

/-- A response that tells of an error. -/
def respondError (status : Int) (message : String) : Reply :=
  respond status (.obj [("Message", .str message), ("Code", .int 0), ("Type", .str "error")])

/-- The value of a parameter. -/
def parameter (r : Request) (name : String) : String := (Entries.get? r.query name).getD ""

/-- The reply to a request and the state after it. -/
def answer (b : Blobs) (r : Request) : Reply × Blobs :=
  match b.failing with
  | some status => (respondError status "emulated failure", b)
  | none =>
    let path := Text.Percent.decode r.path
    if path = "/api/v0/version" then
      (respond 200 (.obj [("Version", .str "0.0.0-emulator")]), b)
    else if path = "/api/v0/add" then
      match r.payload with
      | .file content =>
        let hash := hashOf content
        (respond 200 (.obj [("Name", .str "file"), ("Hash", .str hash),
          ("Size", .str (toString content.length))]),
          { b with blobs := Entries.put b.blobs hash content })
      | _ => (.fault .wrongType, b)
    else if path = "/api/v0/cat" then
      let hash := parameter r "arg"
      match Entries.get? b.blobs hash with
      | none => (respondError 500 ("block was not found locally (offline): " ++ hash), b)
      | some content => (.response ⟨200, .bytes content⟩, b)
    else (respond 404 (.obj [("Message", .str "404 page not found")]), b)

end Blobs

end ContentDepot.InMemory
