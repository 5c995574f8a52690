import ContentDepot.InMemory.Blobs
import ContentDepot.InMemory.Engine

/-!
# The backends of a session

Opposite a depot stand two backends. Each answers from a list of prepared
replies as long as there are any; after that the backend in memory answers, or
the connection breaks where there is none.

* `World.answer`: the reply to a request and the state after it.
* `World.backendAnswer`: the same for backends without prepared replies.
-/

namespace ContentDepot

open InMemory

/-- The state of both backends, the prepared replies, and the requests that were sent. -/
structure World where
  engine : Engine
  contents : Blobs
  /-- Whether the backends in memory answer when no prepared reply is left. -/
  inMemory : Bool
  engineReplies : List Reply
  contentReplies : List Reply
  sent : List Request
  deriving Repr

namespace World

/-- Empty backends. -/
def initial (inMemory : Bool) : World := ⟨.initial, .initial, inMemory, [], [], []⟩

/-- The world with replies prepared, and no request sent yet. -/
def prepare (w : World) (engineReplies contentReplies : List Reply) : World :=
  { w with engineReplies := engineReplies, contentReplies := contentReplies, sent := [] }

/-- Lets a backend answer every request with one status, or work again. -/
def setFailing (w : World) (b : Backend) (status : Option Int) : World :=
  match b with
  | .content => { w with contents := { w.contents with failing := status } }
  | .engine => { w with engine := { w.engine with failing := status } }

/-- What happens to a request for which there is neither a prepared reply nor a backend. -/
def unanswered : Reply := .disrupted "no scripted response"

/-- The reply of the backend in memory and the state after it. -/
def backendAnswer (r : Request) (w : World) : Reply × World :=
  if w.inMemory then
    match r.backend with
    | .content => let (reply, b) := w.contents.answer r; (reply, { w with contents := b })
    | .engine => let (reply, e) := w.engine.answer r; (reply, { w with engine := e })
  else (unanswered, w)

/-- The first prepared reply of a backend, if there is one, and the state without it. -/
def prepared? (b : Backend) (w : World) : Option (Reply × World) :=
  match b with
  | .content => match w.contentReplies with
    | [] => none
    | reply :: rest => some (reply, { w with contentReplies := rest })
  | .engine => match w.engineReplies with
    | [] => none
    | reply :: rest => some (reply, { w with engineReplies := rest })

/-- The reply to a request and the state after it. -/
def answer (r : Request) (w : World) : Reply × World :=
  let w := { w with sent := w.sent ++ [r] }
  match prepared? r.backend w with
  | some found => found
  | none => backendAnswer r w

end World

end ContentDepot
