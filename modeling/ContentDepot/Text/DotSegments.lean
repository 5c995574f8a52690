/-!
# Dot segments

A segment of a path that is a single dot stands for nothing, and one of two dots
takes back the segment before it, but never the beginning of the path.

* `remove`: a path without its dot segments.
* `remove_of_plain`: a path that has none stays as it is.
-/

namespace ContentDepot.Text.DotSegments

/-- Whether a segment is a dot segment. -/
def isDots (segment : List Char) : Bool := segment == ['.'] || segment == ['.', '.']

/-- The segments of a path after one more. -/
def keep (kept : List (List Char)) (segment : List Char) : List (List Char) :=
  if segment = ['.'] then kept
  else if segment = ['.', '.'] then if kept = [[]] then kept else kept.dropLast
  else kept ++ [segment]

/-- A path without its dot segments. -/
def remove (path : List Char) : List Char :=
  let segments := path.splitOn '/'
  if segments.any isDots then ['/'].intercalate (segments.foldl keep []) else path

theorem remove_of_plain {path : List Char} (h : ∀ s ∈ path.splitOn '/', isDots s = false) :
    remove path = path := by
  simp only [remove, List.any_eq_true]
  exact if_neg fun ⟨s, hs, hd⟩ => by simp [h s hs] at hd

end ContentDepot.Text.DotSegments
