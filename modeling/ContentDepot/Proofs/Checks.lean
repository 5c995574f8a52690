import ContentDepot.Proofs.Lists
import ContentDepot.Schema

/-!
# What passes a check

A check that is put together of others passes a value exactly if they pass its
parts, and what it gives is made of what they give. The items of a list pass one by
one (`Checked.allFrom_eq_ok`); a field is the member under the first of its names
that the object has (`Schema.field_eq_ok`, `Schema.optionalField_eq_ok`).
-/

namespace ContentDepot

variable {α β : Type}

namespace Checked

theorem inside_eq_ok {step : Step} {x : Checked α} {a : α} :
    x.inside step = .ok a ↔ x = .ok a := by
  cases x with
  | ok b => exact Iff.rfl
  | error issues =>
    constructor
    · intro h
      cases h
    · intro h
      cases h

theorem apply_eq_ok {f : Checked (α → β)} {x : Checked α} {b : β} :
    f.apply x = .ok b ↔ ∃ g a, f = .ok g ∧ x = .ok a ∧ g a = b := by
  constructor
  · intro h
    rcases f with issues | g <;> rcases x with issues' | a <;> cases h
    exact ⟨g, a, rfl, rfl, rfl⟩
  · rintro ⟨g, a, rfl, rfl, rfl⟩
    rfl

theorem map_eq_ok {f : α → β} {x : Checked α} {b : β} :
    x.map f = .ok b ↔ ∃ a, x = .ok a ∧ f a = b := by
  constructor
  · intro h
    cases x with
    | error issues => cases h
    | ok a =>
      cases h
      exact ⟨a, rfl, rfl⟩
  · rintro ⟨a, rfl, rfl⟩
    rfl

/-- A list passes if each of its items does, and gives what they give, in their order. -/
theorem allFrom_eq_ok {check : Json → Checked α} {position : Nat} {items : List Json}
    {as : List α} :
    allFrom check position items = .ok as ↔
      List.Forall₂ (fun v a => check v = .ok a) items as := by
  induction items generalizing position as with
  | nil =>
    rw [allFrom, List.forall₂_nil_left_iff, Except.ok.injEq, eq_comm]
  | cons v items ih =>
    rw [allFrom, List.forall₂_cons_left_iff, apply_eq_ok]
    constructor
    · rintro ⟨g, as', hg, has, rfl⟩
      obtain ⟨_, a, hcons, ha, rfl⟩ := apply_eq_ok.1 hg
      cases hcons
      exact ⟨a, as', inside_eq_ok.1 ha, ih.1 has, rfl⟩
    · rintro ⟨a, as', ha, has, rfl⟩
      exact ⟨List.cons a, as', apply_eq_ok.2 ⟨List.cons, a, rfl, inside_eq_ok.2 ha, rfl⟩,
        ih.2 has, rfl⟩

end Checked

namespace Schema

variable {members : Entries Json} {names : List String} {check : Json → Checked α}

theorem string_eq_ok {v : Json} {s : String} : string v = .ok s ↔ v = .str s := by
  constructor
  · intro h
    cases v <;> cases h
    rfl
  · rintro rfl
    rfl

theorem listOf_eq_ok {v : Json} {as : List α} :
    listOf check v = .ok as ↔
      ∃ items, v = .arr items ∧ List.Forall₂ (fun v a => check v = .ok a) items as := by
  constructor
  · intro h
    cases v with
    | arr items => exact ⟨items, rfl, Checked.allFrom_eq_ok.1 h⟩
    | _ => cases h
  · rintro ⟨items, rfl, h⟩
    exact Checked.allFrom_eq_ok.2 h

theorem nonEmptyListOf_eq_ok {v : Json} {as : List α} :
    nonEmptyListOf check v = .ok as ↔ listOf check v = .ok as ∧ as ≠ [] := by
  rw [nonEmptyListOf]
  rcases hlist : listOf check v with issues | as'
  · constructor
    · intro h
      cases h
    · rintro ⟨h, -⟩
      cases h
  cases as' with
  | nil =>
    constructor
    · intro h
      cases h
    · rintro ⟨h, hne⟩
      cases h
      exact absurd rfl hne
  | cons a as' =>
    constructor
    · intro h
      cases h
      exact ⟨rfl, List.cons_ne_nil a as'⟩
    · rintro ⟨h, -⟩
      cases h
      rfl

/-- The member that is picked is the first that stands under one of the names. -/
theorem snd_pick? (members : Entries Json) (names : List String) :
    (pick? members names).map Prod.snd = names.findSome? (Entries.get? members) := by
  induction names with
  | nil => rfl
  | cons name names ih =>
    rw [pick?, List.findSome?_cons]
    rcases Entries.get? members name with _ | v
    · exact ih
    · rfl

theorem field_eq_ok {a : α} :
    field members names check = .ok a ↔
      ∃ v, names.findSome? (Entries.get? members) = some v ∧ check v = .ok a := by
  rw [field, ← snd_pick?]
  rcases pick? members names with _ | ⟨name, v⟩
  · constructor
    · intro h
      cases h
    · rintro ⟨v, h, -⟩
      cases h
  · rw [Checked.inside_eq_ok]
    constructor
    · exact fun h => ⟨v, rfl, h⟩
    · rintro ⟨w, hw, h⟩
      cases hw
      exact h

theorem optionalField_eq_ok {default a : α} :
    optionalField members names default check = .ok a ↔
      (names.findSome? (Entries.get? members) = none ∧ a = default) ∨
      ∃ v, names.findSome? (Entries.get? members) = some v ∧ check v = .ok a := by
  rw [optionalField, ← snd_pick?]
  rcases pick? members names with _ | ⟨name, v⟩
  · constructor
    · intro h
      cases h
      exact .inl ⟨rfl, rfl⟩
    · rintro (⟨-, rfl⟩ | ⟨v, h, -⟩)
      · rfl
      · cases h
  · rw [Checked.inside_eq_ok]
    constructor
    · exact fun h => .inr ⟨v, rfl, h⟩
    · rintro (⟨hw, -⟩ | ⟨w, hw, h⟩)
      · cases hw
      · cases hw
        exact h

end Schema

end ContentDepot
