/-!
# Sets of code points

A Unicode property is a set of code points with few gaps: its maximal runs, in
increasing order.
-/

namespace ContentDepot.Text

/-- A set of code points as runs `(first, last)`, both ends included. -/
abbrev CodeSet := List (Nat × Nat)

/-- Whether a run of the set holds the code point. -/
def CodeSet.has : CodeSet → Nat → Bool
  | [], _ => false
  | (first, last) :: rest, n => (first ≤ n && n ≤ last) || CodeSet.has rest n

theorem CodeSet.has_append (s t : CodeSet) (n : Nat) :
    CodeSet.has (s ++ t) n = (s.has n || t.has n) := by
  induction s with
  | nil => rfl
  | cons r s ih => simp [CodeSet.has, ih, Bool.or_assoc]

end ContentDepot.Text
