import ContentDepot.Failure

/-!
# Page requests

A page request has a page number from zero, a page size from one and sort keys.
Making one checks both numbers, the page first.

* `Pageable.make`, `Pageable.of`: checked construction.
* `offset`, `next`.
-/

namespace ContentDepot

/-- A field to sort by. -/
structure SortKey where
  field : String
  ascending : Bool
  deriving Repr, Inhabited, DecidableEq

/-- A request for one page of results. -/
structure Pageable where
  page : Int
  size : Int
  sort : List SortKey
  page_nonneg : 0 ≤ page
  size_pos : 1 ≤ size
  deriving Repr, DecidableEq

namespace Pageable

/-- The size of a page unless it is given. -/
def defaultSize : Int := 20

/-- A page request, unless a number is out of bounds. -/
def make (page size : Int) (sort : List SortKey) : Except StoreError Pageable :=
  if hp : 0 ≤ page then
    if hs : 1 ≤ size then .ok ⟨page, size, sort, hp, hs⟩ else .error .pageSizeTooSmall
  else .error .negativePage

/-- A page request with at most one sort key; an empty field means none. -/
def of (page size : Int) (sortField : Option String) (ascending : Bool) :
    Except StoreError Pageable :=
  let sort := match sortField with
    | none | some "" => []
    | some field => [⟨field, ascending⟩]
  make page size sort

/-- How many results lie before the page. -/
def offset (p : Pageable) : Int := p.page * p.size

/-- The request for the page that follows. -/
def next (p : Pageable) : Pageable :=
  { p with page := p.page + 1, page_nonneg := by have := p.page_nonneg; omega }

end Pageable

end ContentDepot
