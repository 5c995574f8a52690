import ContentDepot.Api.Service
import ContentDepot.Session.Call
import ContentDepot.Session.World

/-!
# Sessions

A session is a process and the backends opposite it. Calls on the parts of the
installation and requests to the service come one after the other; the first
request starts the service, and a start that has failed is tried again by the next.

* `Session.call`: one call.
* `Session.request`: one request to the service.
* `Session.runCalls`: calls one after the other.
-/

namespace ContentDepot

/-- A process and the backends opposite it. -/
structure Session where
  installation : Installation
  service : Api.Service
  /-- Whether the first request still has to start the service. -/
  startsService : Bool
  context : Context
  world : World

namespace Session

variable {α : Type}

/-- Prepares replies for what comes next; the requests and the log begin anew. -/
def prepare (s : Session) (engineReplies contentReplies : List Reply) : Session :=
  { s with
    context := { s.context with log := [] }
    world := s.world.prepare engineReplies contentReplies }

/-- Carries a talk out. -/
def talk (s : Session) (x : Exchange α) : α × Session :=
  let (result, context, world) := x.run World.answer s.context s.world
  (result, { s with context := context, world := world })

/-- Carries a call out. -/
def call (s : Session) (c : Call) : Outcome × Session := s.talk (c.perform s.installation)

/-- Carries calls out one after the other. -/
def runCalls (s : Session) : List Call → List Outcome × Session
  | [] => ([], s)
  | c :: cs =>
    let (outcome, s) := s.call c
    let (outcomes, s) := s.runCalls cs
    (outcome :: outcomes, s)

/-- Starts the service if that is still to be done. -/
def startService (s : Session) : Except Failure Unit × Session :=
  match Api.Routes.ofSettings s.service.settings with
  | .error f => (.error (.fault f), s)
  | .ok _ =>
    if s.startsService then
      match s.talk s.service.start.run with
      | (.ok _, s) => (.ok (), { s with startsService := false })
      | (.error f, s) => (.error f, s)
    else (.ok (), s)

/-- Handles a request to the service. -/
def request (s : Session) (r : Api.Request) : Except Failure Api.Response × Session :=
  match s.startService with
  | (.ok _, s) =>
    let (response, s) := s.talk (s.service.handle r)
    (.ok response, s)
  | (.error f, s) => (.error f, s)

end Session

end ContentDepot
