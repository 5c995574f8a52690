import ContentDepot.Api.Message

/-!
# Requests from other origins

A request that names the origin of the page that made it is told whether that
origin is admitted. A page asks beforehand with a request of its own whether a
method is admitted; every method in `knownMethods` is.

* `admits`: whether an origin is admitted.
* `preflight?`: the response to a request made beforehand.
* `shared`: a response with what its origin is told.
-/

namespace ContentDepot.Api.Origin

/-- The origins of a list, commas between them. -/
def listed (origins : String) : List String := (origins.toList.splitOn ',').map String.ofList

/-- Whether an origin is admitted; an empty list and a star admit all. -/
def admits (origins origin : String) : Bool :=
  origins.isEmpty || (listed origins).contains "*" || (listed origins).contains origin

/-- The methods that pages of other origins may use. -/
def knownMethods : List String := ["DELETE", "GET", "HEAD", "OPTIONS", "PATCH", "POST", "PUT"]

/-- A response with what its origin is told. -/
def tell (origins origin : String) (r : Response) : Response :=
  let r := r.withHeader "access-control-allow-credentials" "true"
  if admits origins origin then r.withHeader "access-control-allow-origin" origin else r

/-- The response to a request made beforehand, if the request is one. -/
def preflight? (origins : String) (r : Request) : Option Response := do
  let origin ← r.header? "origin"
  let method ← r.header? "access-control-request-method"
  if r.method ≠ "OPTIONS" then none
  let failures := (if admits origins origin then [] else ["origin"]) ++
    (if knownMethods.contains method then [] else ["method"])
  let answer := if failures.isEmpty then Response.plain 200 "OK"
    else Response.plain 400 ("Disallowed CORS " ++ String.intercalate ", " failures)
  return tell origins origin answer

/-- A response with what the origin of its request is told, if the request names one. -/
def shared (origins : String) (request : Request) (r : Response) : Response :=
  match request.header? "origin" with
  | none => r
  | some origin => tell origins origin r

end ContentDepot.Api.Origin
