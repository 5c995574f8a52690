import ContentDepot.Exchange.Url
import ContentDepot.Failure

/-!
# Addresses of backends

A backend is addressed by a URL, whose path and query precede the path of every
request. So where the URL has a query, the path of a request lengthens the query.

* `Address.ofUrl?`: the address that a URL gives.
* `Address.target`: the URL of a request.
* `parseQuery`, `lastValue?`, `grouped`: the parameters that a query names.
-/

namespace ContentDepot

/-- The text that an escaped name or value of a query stands for; a plus sign is a blank. -/
def decodeComponent (cs : List Char) : String :=
  Text.Percent.decode (String.ofList (cs.map fun c => if c == '+' then ' ' else c))

/-- The names and values of a query, in order. -/
def parseQuery (cs : List Char) : List (String × String) :=
  ((cs.splitOn '&').filter (!·.isEmpty)).map fun item =>
    (decodeComponent (item.takeWhile (· != '=')),
      decodeComponent ((item.dropWhile (· != '=')).drop 1))

/-- The last value of a name. -/
def lastValue? (query : List (String × String)) (name : String) : Option String :=
  ((query.filter fun e => e.1 == name).map Prod.snd).getLast?

/-- Parameters with those of one name side by side, at the place of the first. -/
def grouped (parameters : List (String × String)) : List (String × String) :=
  (parameters.map Prod.fst).eraseDups.flatMap fun name =>
    parameters.filter fun p => p.1 == name

/-- Where a backend is: a URL whose path or query ends with a slash. -/
structure Address where
  base : Url
  deriving Repr, DecidableEq

namespace Address

/-- The address that a URL gives, unless the URL is not valid. -/
def ofUrl? (url : String) : Option Address := do
  let base ← Url.parse? url.toList
  let resource := base.resource
  if resource.getLast? == some '/' then return ⟨base⟩
  else return ⟨← base.withResource? (resource ++ ['/'])⟩

/-- Whether an escaped key or value has one character for the character: a blank is written as a
plus sign. -/
def isShort (c : Char) : Bool := Text.Percent.isUnreserved c || c == ' '

/-- How long a query is when its keys and values are escaped. -/
def queryLength (query : List (String × String)) : Nat :=
  let escaped := fun s : String => (Text.Percent.escapeUnless isShort s.toList).length
  query.foldl (fun n e => n + escaped e.1 + 1 + escaped e.2) (query.length - 1)

/-- The URL of a request to this address, given its path with a slash in front. One that says by
itself where it leads has nothing to do with the address. -/
def target (a : Address) (relative : String) : Except Fault Url :=
  match Url.parse? relative.toList with
  | none => .error .invalidAddress
  | some r =>
    if r.isAbsolute then .ok r
    else match a.base.withResource? (a.base.resource ++ r.resource.dropWhile (· == '/')) with
    | some url => .ok url
    | none => .error .invalidAddress

end Address

end ContentDepot
