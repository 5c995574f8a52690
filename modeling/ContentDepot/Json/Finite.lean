import ContentDepot.Json.Basic

/-!
# The finite part of a value

A value that is shown in an answer has null in the place of every number that is
not finite.

* `finitePart`: the value that is shown.
* `finite_finitePart`: it holds no such number.
-/

namespace ContentDepot.Json

mutual

/-- The value with null for every number that is not finite. -/
def finitePart : Json → Json
  | .float x => if x.isFinite then .float x else .null
  | .arr items => .arr (finiteItems items)
  | .obj members => .obj (finiteMembers members)
  | v => v

/-- The items of a list, each with null for every number that is not finite. -/
def finiteItems : List Json → List Json
  | [] => []
  | x :: xs => finitePart x :: finiteItems xs

/-- The members of an object, each with null for every number that is not finite. -/
def finiteMembers : List (String × Json) → List (String × Json)
  | [] => []
  | m :: ms => finiteMember m :: finiteMembers ms

/-- A member with null for every number that is not finite. -/
def finiteMember : String × Json → String × Json
  | (k, v) => (k, finitePart v)

end

mutual

theorem finite_finitePart (v : Json) : v.finitePart.finite = true := by
  cases v with
  | float x =>
    simp only [finitePart]
    split <;> simp_all [finite, every, isFiniteLeaf]
  | arr items => simpa [finitePart, finite, every] using finite_finiteItems items
  | obj members => simpa [finitePart, finite, every] using finite_finiteMembers members
  | null | bool | int | str => simp [finitePart, finite, every, isFiniteLeaf]

theorem finite_finiteItems (xs : List Json) :
    everyItem isFiniteLeaf (finiteItems xs) = true := by
  cases xs with
  | nil => simp [finiteItems, everyItem]
  | cons x xs =>
    have h := finite_finitePart x
    rw [finite] at h
    simp [finiteItems, everyItem, h, finite_finiteItems xs]

theorem finite_finiteMembers (ms : List (String × Json)) :
    everyMember isFiniteLeaf (finiteMembers ms) = true := by
  cases ms with
  | nil => simp [finiteMembers, everyMember]
  | cons m ms =>
    simp [finiteMembers, everyMember, finite_finiteMember m, finite_finiteMembers ms]

theorem finite_finiteMember (m : String × Json) :
    everyIn isFiniteLeaf (finiteMember m) = true := by
  obtain ⟨k, v⟩ := m
  have h := finite_finitePart v
  rw [finite] at h
  simp [finiteMember, everyIn, h]

end

end ContentDepot.Json
