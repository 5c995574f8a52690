import Mathlib.Data.List.Forall2
import Mathlib.Data.List.Induction

/-!
# Lists in step

Two lists are in step if their items belong together one by one (`List.Forall₂`).
Then every item of the second has its item in the first (`exists_of_forall₂`). A
list that is read item by item is in step with what is read (`forall₂_of_mapM`,
`exists_mapM_of_forall₂`), and so are the items of a list with what a function finds
for each (`forall₂_filterMap`).
-/

namespace ContentDepot

variable {ε α β γ : Type}

/-- An item of the second list belongs to one of the first. -/
theorem exists_of_forall₂ {R : α → β → Prop} {xs : List α} {ys : List β}
    (h : List.Forall₂ R xs ys) {y : β} (hy : y ∈ ys) : ∃ x ∈ xs, R x y := by
  induction h with
  | nil => cases hy
  | cons hxy _ ih =>
    rcases List.mem_cons.1 hy with rfl | hy
    · exact ⟨_, List.mem_cons_self .., hxy⟩
    · obtain ⟨x, hx, hxy⟩ := ih hy
      exact ⟨x, List.mem_cons_of_mem _ hx, hxy⟩

/-- What a reading of every item gives are the results of the items, in their order. -/
theorem forall₂_of_mapM {f : α → Except ε β} {xs : List α} {ys : List β}
    (h : xs.mapM f = .ok ys) : List.Forall₂ (fun x y => f x = .ok y) xs ys := by
  induction xs generalizing ys with
  | nil =>
    cases h
    exact .nil
  | cons x xs ih =>
    rw [List.mapM_cons] at h
    rcases hx : f x with e | y
    · rw [hx] at h
      cases h
    rcases hxs : xs.mapM f with e | ys'
    · rw [hx, hxs] at h
      cases h
    rw [hx, hxs] at h
    cases h
    exact .cons hx (ih hxs)

/-- Items that are in step with others can be read if each can, and in step with the same. -/
theorem exists_mapM_of_forall₂ {R : α → β → Prop} {S : β → γ → Prop} {g : α → Except ε γ}
    {xs : List α} {ys : List β} (h : List.Forall₂ R xs ys)
    (hg : ∀ x ∈ xs, ∀ y, R x y → ∃ z, g x = .ok z ∧ S y z) :
    ∃ zs, xs.mapM g = .ok zs ∧ List.Forall₂ S ys zs := by
  induction h with
  | nil => exact ⟨[], rfl, .nil⟩
  | cons hxy _ ih =>
    obtain ⟨z, hz, hyz⟩ := hg _ (List.mem_cons_self ..) _ hxy
    obtain ⟨zs, hzs, hall⟩ := ih fun x hx => hg x (List.mem_cons_of_mem _ hx)
    refine ⟨z :: zs, ?_, .cons hyz hall⟩
    rw [List.mapM_cons, hz, hzs]
    rfl

/-- Of two lists in step the last items belong together. -/
theorem getLast?_of_forall₂ {R : α → β → Prop} {xs : List α} {ys : List β}
    (h : List.Forall₂ R xs ys) : Option.Rel R xs.getLast? ys.getLast? := by
  induction h with
  | nil => exact .none
  | @cons x y xs ys hxy _ ih =>
    rw [List.getLast?_cons, List.getLast?_cons]
    generalize xs.getLast? = last at ih ⊢
    generalize ys.getLast? = last' at ih ⊢
    cases ih with
    | none => exact .some hxy
    | some hlast => exact .some hlast

/-- Items for each of which something is found are in step with what is found. -/
theorem forall₂_filterMap {R : α → β → Prop} {f : α → Option β} {xs : List α}
    (h : ∀ x ∈ xs, ∃ y, f x = some y ∧ R x y) : List.Forall₂ R xs (xs.filterMap f) := by
  induction xs with
  | nil => exact .nil
  | cons x xs ih =>
    obtain ⟨y, hy, hxy⟩ := h x (List.mem_cons_self ..)
    rw [List.filterMap_cons_some hy]
    exact .cons hxy (ih fun x' hx' => h x' (List.mem_cons_of_mem _ hx'))

/-! ## Items once each -/

/-- A fold that empties nothing leaves something of what is not empty. -/
theorem foldl_ne_nil {f : List α → β → List α} (hf : ∀ kept x, kept ≠ [] → f kept x ≠ [])
    (xs : List β) {kept : List α} (h : kept ≠ []) : xs.foldl f kept ≠ [] := by
  induction xs generalizing kept with
  | nil => exact h
  | cons x xs ih => exact ih (hf kept x h)

theorem eraseDups_concat [DecidableEq α] (xs : List α) (x : α) :
    (xs ++ [x]).eraseDups = if x ∈ xs then xs.eraseDups else xs.eraseDups ++ [x] := by
  have hone : [x].eraseDups = [x] := rfl
  rw [List.eraseDups_append]
  split <;> rename_i h <;> simp [List.removeAll, h, hone]

theorem nodup_eraseDups [DecidableEq α] (xs : List α) : xs.eraseDups.Nodup := by
  induction xs using List.reverseRecOn with
  | nil => exact List.nodup_nil
  | append_singleton xs x ih =>
    rw [eraseDups_concat]
    split
    · exact ih
    · rename_i h
      refine List.nodup_append.2 ⟨ih, by simp, fun y hy z hz hyz => ?_⟩
      rw [List.mem_singleton.1 hz] at hyz
      exact h (List.mem_eraseDups.1 (hyz ▸ hy))

/-- What is kept once each stands in the order in which it came first. -/
theorem pairwise_idxOf_eraseDups [DecidableEq α] (xs : List α) :
    xs.eraseDups.Pairwise fun a b => xs.idxOf a < xs.idxOf b := by
  induction xs using List.reverseRecOn with
  | nil => exact List.Pairwise.nil
  | append_singleton xs x ih =>
    have hold : ∀ {a}, a ∈ xs.eraseDups → (xs ++ [x]).idxOf a = xs.idxOf a := fun ha =>
      List.idxOf_append_of_mem (List.mem_eraseDups.1 ha)
    have hkept : xs.eraseDups.Pairwise fun a b => (xs ++ [x]).idxOf a < (xs ++ [x]).idxOf b :=
      ih.imp_of_mem fun ha hb hlt => by rwa [hold ha, hold hb]
    rw [eraseDups_concat]
    split
    · exact hkept
    · rename_i hx
      refine List.pairwise_append.2 ⟨hkept, List.pairwise_singleton .., fun a ha b hb => ?_⟩
      rw [List.mem_singleton.1 hb, hold ha, List.idxOf_append_of_notMem hx]
      exact Nat.lt_of_lt_of_le (List.idxOf_lt_length_of_mem (List.mem_eraseDups.1 ha))
        (Nat.le_add_right ..)

end ContentDepot
