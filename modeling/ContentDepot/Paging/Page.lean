import ContentDepot.Paging.Pageable

/-!
# Pages

A page is a slice of the results and the number of all matches. The number of
pages is the quotient of matches and page size, rounded to binary64 and then up
to an integer; a quotient beyond the range of binary64 has none.

* `Page.totalPages`, `Page.map`.
-/

namespace ContentDepot

/-- A slice of results and the number of all matches. -/
structure Page (α : Type) where
  content : List α
  pageable : Pageable
  totalElements : Int

namespace Page

variable {α β : Type}

/-- The page number, from zero. -/
def number (p : Page α) : Int := p.pageable.page

/-- The size that the page was asked for. -/
def size (p : Page α) : Int := p.pageable.size

/-- The quotient of matches and page size, as a binary64 number. -/
def quotient (total size : Int) : Binary64 :=
  .round (total < 0) total.natAbs size.natAbs

/-- The number of pages. -/
def totalPages (p : Page α) : Except Fault Int :=
  if p.totalElements = 0 then .ok 0
  else match (quotient p.totalElements p.size).ceil? with
    | some n => .ok n
    | none => .error .outOfRange

/-- The page with every result replaced. -/
def map (f : α → β) (p : Page α) : Page β := ⟨p.content.map f, p.pageable, p.totalElements⟩

/-- A page as an object, given its results as values. -/
def toJson (p : Page Json) : Except Fault Json := do
  let pages ← p.totalPages
  return .obj [("content", .arr p.content), ("total_elements", .int p.totalElements),
    ("total_pages", .int pages), ("number", .int p.number), ("size", .int p.size)]

end Page

end ContentDepot
