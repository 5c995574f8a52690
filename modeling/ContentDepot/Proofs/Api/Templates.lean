import Mathlib.Data.List.TakeWhile
import ContentDepot.Api.Template

/-!
# Paths that fit a template

Characters of a template that stand for themselves are compared with the front of
a path (`values?_literals`). A parameter for a segment gets the characters up to
the next slash, or to the end of the path:

* `values?_segment`: where the template goes on with a slash;
* `values?_lastSegment`: where it ends.

A text in front of a template in which no brace is opened adds characters to the
template and no parameters (`read_append`, `bracedNames_append`).
-/

namespace ContentDepot.Api

namespace ParameterKind

variable {β : Type} {f : Nat → Option β}

theorem lengthsDown_succ (n : Nat) : lengthsDown (n + 1) 1 = (n + 1) :: lengthsDown n 1 := by
  rw [lengthsDown, lengthsDown, show n + 1 + 1 - 1 = n + 1 from rfl, show n + 1 - 1 = n from rfl,
    List.range'_1_concat, List.reverse_append, Nat.add_comm 1 n]
  rfl

/-- The greatest length counts where it leads to something, or where the others do not. -/
theorem findSome?_lengthsDown {n : Nat} (hn : 0 < n)
    (h : (f n).isSome ∨ ∀ k, k < n → f k = none) : (lengthsDown n 1).findSome? f = f n := by
  obtain ⟨m, rfl⟩ : ∃ m, n = m + 1 := ⟨n - 1, by omega⟩
  rw [lengthsDown_succ, List.findSome?_cons]
  rcases hm : f (m + 1) with _ | b
  · have hnone : ∀ k, k < m + 1 → f k = none :=
      h.resolve_left (by rw [hm]; exact Bool.false_ne_true)
    refine List.findSome?_eq_none_iff.2 fun k hk => hnone k ?_
    rw [lengthsDown, List.mem_reverse, List.mem_range'_1] at hk
    omega
  · rfl

theorem findSome?_lengthsDown_eq_none {n : Nat} (h : ∀ k, k ≤ n → f k = none) :
    (lengthsDown n 1).findSome? f = none := by
  refine List.findSome?_eq_none_iff.2 fun k hk => h k ?_
  rw [lengthsDown, List.mem_reverse, List.mem_range'_1] at hk
  omega

theorem takeWhile_slash {xs : List Char} (hno : '/' ∉ xs) (rest : List Char) :
    (xs ++ '/' :: rest).takeWhile (· != '/') = xs := by
  rw [List.takeWhile_append_of_pos fun c hc => by simpa using ne_of_mem_of_not_mem hc hno]
  simp

theorem takeWhile_of_noSlash {cs : List Char} (hno : '/' ∉ cs) :
    cs.takeWhile (· != '/') = cs :=
  List.takeWhile_eq_self_iff.2 fun c hc => by simpa using ne_of_mem_of_not_mem hc hno

end ParameterKind

namespace Template

open ParameterKind

/-- Characters that stand for themselves. -/
def literals (cs : List Char) : Template := cs.map .literal

theorem literals_cons (c : Char) (cs : List Char) :
    literals (c :: cs) = .literal c :: literals cs := rfl

theorem values?_literals (xs : List Char) (t : Template) (cs : List Char) :
    values? (literals xs ++ t) cs =
      if xs.isPrefixOf cs then values? t (cs.drop xs.length) else none := by
  induction xs generalizing cs with
  | nil => rfl
  | cons x xs ih =>
    rw [literals_cons, List.cons_append]
    cases cs with
    | nil => rfl
    | cons c cs =>
      rw [values?, List.isPrefixOf, List.length_cons, List.drop_succ_cons, ih]
      cases x == c <;> rfl

theorem values?_literals_append (xs : List Char) (t : Template) (cs : List Char) :
    values? (literals xs ++ t) (xs ++ cs) = values? t cs := by
  rw [values?_literals, if_pos (by simp), List.drop_left]

/-- A segment before a slash gets the characters before it. -/
theorem values?_segment {xs : List Char} (hne : xs ≠ []) (hno : '/' ∉ xs) (name : String)
    (t : Template) (rest : List Char) :
    values? (.parameter name .segment :: .literal '/' :: t) (xs ++ '/' :: rest) =
      (values? t rest).map (String.ofList xs :: ·) := by
  have hlengths : segment.lengths (xs ++ '/' :: rest) = lengthsDown xs.length 1 := by
    rw [lengths, runLength, takeWhile_slash hno]
  rw [values?, hlengths, findSome?_lengthsDown (List.length_pos_iff.2 hne)]
  · rw [List.drop_left, List.take_left]
    rfl
  · -- with less than all of these characters, one of them stands where the slash has to be
    refine .inr fun k hk => ?_
    have hdrop : (xs ++ '/' :: rest).drop k = xs[k] :: (xs.drop (k + 1) ++ '/' :: rest) := by
      rw [List.drop_append_of_le_length (by omega), List.drop_eq_getElem_cons hk, List.cons_append]
    have hslash : ('/' == xs[k]) = false := by
      simpa using (ne_of_mem_of_not_mem (List.getElem_mem hk) hno).symm
    rw [hdrop, values?, hslash]
    rfl

/-- A segment at the end gets what is left, where that is one. -/
theorem values?_lastSegment (name : String) (cs : List Char) :
    values? [.parameter name .segment] cs =
      if cs ≠ [] ∧ '/' ∉ cs then some [String.ofList cs] else none := by
  rw [values?]
  by_cases hslash : '/' ∈ cs
  · rw [if_neg fun h => h.2 hslash]
    obtain ⟨xs, rest, rfl, hno⟩ := List.eq_append_cons_of_mem hslash
    rw [lengths, runLength, takeWhile_slash hno]
    refine findSome?_lengthsDown_eq_none fun k hk => ?_
    rw [List.drop_append_of_le_length hk, values?, if_neg]
    · rfl
    · intro h
      have hmem : '/' ∈ xs.drop k ++ '/' :: rest := List.mem_append_right _ (List.mem_cons_self ..)
      rcases Bool.or_eq_true_iff.1 h with h | h
      · rw [List.isEmpty_iff.1 h] at hmem
        cases hmem
      · rw [eq_of_beq h] at hmem
        exact absurd hmem (by decide)
  · rw [lengths, runLength, takeWhile_of_noSlash hslash]
    cases cs with
    | nil => rfl
    | cons c cs =>
      have hall : values? [] ((c :: cs).drop (c :: cs).length) = some [] := by
        rw [List.drop_length]
        rfl
      rw [findSome?_lengthsDown (List.length_pos_iff.2 (List.cons_ne_nil c cs)), hall,
        List.take_length, if_pos ⟨List.cons_ne_nil _ _, hslash⟩]
      · rfl
      · exact .inl (by rw [hall]; rfl)

/-! ## A text in front of a template -/

theorem pieces_append {xs : List Char} (hno : '\x7b' ∉ xs) (ys : List Char) :
    pieces false (xs ++ ys) = (pieces false ys).map (literals xs ++ ·) := by
  induction xs with
  | nil =>
    rw [List.nil_append]
    rcases pieces false ys with _ | _ <;> rfl
  | cons x xs ih =>
    rw [List.mem_cons, not_or] at hno
    have hx : (x == '\x7b') = false := by simpa using Ne.symm hno.1
    rw [List.cons_append, pieces, hx, ih hno.2]
    rcases pieces false ys with _ | _ <;> rfl

theorem names_append (xs : List Char) (t : Template) : names (literals xs ++ t) = names t := by
  rw [names, List.filterMap_append, literals, List.filterMap_map]
  exact congrArg (· ++ _) (List.filterMap_eq_nil_iff.2 fun _ _ => rfl)

theorem plainForm_append (xs : List Char) (t : Template) :
    plainForm (literals xs ++ t) = xs ++ plainForm t := by
  rw [plainForm, List.flatMap_append, literals, List.flatMap_map]
  exact congrArg (· ++ _) (List.flatMap_singleton' xs)

theorem read_append {root : String} (hno : '\x7b' ∉ root.toList) (path : String) :
    read (root ++ path) = (read path).map (literals root.toList ++ ·) := by
  unfold read
  rw [String.toList_append, pieces_append hno]
  rcases pieces false path.toList with f | t
  · rfl
  · simp only [Except.map, Bind.bind, Except.bind, names_append]
    split <;> rfl

end Template

theorem bracedNames_append {xs : List Char} (hno : '\x7b' ∉ xs) (ys : List Char) :
    bracedNames false (xs ++ ys) = bracedNames false ys := by
  induction xs with
  | nil => rfl
  | cons x xs ih =>
    rw [List.mem_cons, not_or] at hno
    have hx : (x == '\x7b') = false := by simpa using Ne.symm hno.1
    rw [List.cons_append, bracedNames, if_neg Bool.false_ne_true, hx, ih hno.2]
    rfl

end ContentDepot.Api
