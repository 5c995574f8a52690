import ContentDepot.Api.Message
import ContentDepot.Exchange.Address
import ContentDepot.Paging.Pageable

/-!
# Parameters of a search

The query text of a target is a list of names with values, of which a plus sign
stands for a blank; of a name that comes twice the last value counts.

* `SearchParameters.check`: the parameters of a search, or their issues.
* `SearchParameters.pageable`: the page that they ask for.
-/

namespace ContentDepot.Api

/-- What a search may be asked for beside its query. -/
structure SearchParameters where
  page : Int
  size : Option Int
  sort : Option String
  ascending : Bool
  deriving Repr, DecidableEq

namespace SearchParameters

/-- An integer of at least a bound. -/
def integerFrom (bound : Int) (s : String) : Checked Int :=
  match Schema.intOfText s with
  | .ok n => if n < bound then .fail .greaterThanEqual else .ok n
  | .error issues => .error issues

/-- A direction: whether it ascends. -/
def direction (s : String) : Checked Bool :=
  if s = "ASC" then .ok true
  else if s = "DESC" then .ok false
  else .fail .literalError

/-- A parameter that may be absent. -/
def parameter {α : Type} (query : List (String × String)) (name : String) (default : α)
    (check : String → Checked α) : Checked α :=
  match lastValue? query name with
  | none => .ok default
  | some s => ((check s).inside (.key name)).inside (.key "query")

/-- The parameters of a search, or their issues. -/
def check (query : List (String × String)) : Checked SearchParameters :=
  let found := Checked.apply (.ok SearchParameters.mk) (parameter query "page" 0 (integerFrom 0))
  let found := found.apply (parameter query "size" none fun s => (integerFrom 1 s).map some)
  let found := found.apply (parameter query "sort" none fun s => .ok (some s))
  found.apply (parameter query "dir" true direction)

/-- The page that the parameters ask for; no page is larger than `maximum`. -/
def pageable (p : SearchParameters) (default maximum : Int) : Except StoreError Pageable :=
  let size := p.size.getD default
  if maximum < size then .error (.pageSizeTooLarge maximum)
  else Pageable.of p.page size p.sort p.ascending

end SearchParameters

end ContentDepot.Api
