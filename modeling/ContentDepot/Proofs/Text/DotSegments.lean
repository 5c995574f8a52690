import ContentDepot.Proofs.Text.Percent
import ContentDepot.Text.DotSegments

/-!
# Segments that stay

Resolving the dots of a path step by step (`push`) gives the segments that are
seen behind it (`visible`). Segments without a slash that take back no more than
they add (`Anchored`) come after those of whatever path they are appended to:

* `visible_remove`: removing the dots changes nothing of what is seen;
* `visible_append_render`: what is appended is seen after what was there.
-/

namespace ContentDepot.Text.DotSegments

/-- The segments below the root after one more. -/
def push (kept : List (List Char)) (segment : List Char) : List (List Char) :=
  if segment = ['.'] then kept
  else if segment = ['.', '.'] then kept.dropLast
  else kept ++ [segment]

/-- The root stays, whatever comes after it. -/
theorem foldl_keep (kept segments : List (List Char)) :
    segments.foldl keep ([] :: kept) = [] :: segments.foldl push kept := by
  induction segments generalizing kept with
  | nil => rfl
  | cons s ss ih =>
    have h : keep ([] :: kept) s = [] :: push kept s := by
      unfold keep push
      split
      · rfl
      · split
        · cases kept <;> simp
        · rfl
    rw [List.foldl_cons, List.foldl_cons, h, ih]

theorem push_of_plain {kept : List (List Char)} {s : List Char} (h : isDots s = false) :
    push kept s = kept ++ [s] := by
  simp only [isDots, Bool.or_eq_false_iff, beq_eq_false_iff_ne] at h
  rw [push, if_neg h.1, if_neg h.2]

theorem foldl_push_of_plain {segments : List (List Char)} (h : ∀ s ∈ segments, isDots s = false)
    (kept : List (List Char)) : segments.foldl push kept = kept ++ segments := by
  induction segments generalizing kept with
  | nil => simp
  | cons s ss ih =>
    rw [List.foldl_cons, push_of_plain (h s (List.mem_cons_self ..)),
      ih fun s hs => h s (List.mem_cons_of_mem _ hs), List.append_assoc, List.singleton_append]

/-- What is kept are segments of the path, and none of them dots. -/
theorem mem_foldl_push {segments kept : List (List Char)} {s : List Char}
    (h : s ∈ segments.foldl push kept) : s ∈ kept ∨ (s ∈ segments ∧ isDots s = false) := by
  induction segments generalizing kept with
  | nil => exact .inl h
  | cons t ts ih =>
    rcases ih h with h | ⟨h, hd⟩
    · unfold push at h
      split at h
      · exact .inl h
      · split at h
        · exact .inl (List.dropLast_subset _ h)
        · rename_i h1 h2
          rcases List.mem_append.1 h with h | h
          · exact .inl h
          · rw [List.mem_singleton] at h
            exact .inr ⟨h ▸ List.mem_cons_self .., by simp [isDots, h, h1, h2]⟩
    · exact .inr ⟨List.mem_cons_of_mem _ h, hd⟩

theorem not_mem_of_mem_splitOn {cs s : List Char} (h : s ∈ cs.splitOn '/') : '/' ∉ s := by
  induction cs generalizing s with
  | nil => simp_all
  | cons c cs ih =>
    rw [List.splitOn_cons_eq_if_modifyHead] at h
    split at h
    · rcases List.mem_cons.1 h with rfl | h
      · simp
      · exact ih h
    · rename_i hc
      obtain ⟨t, ts, ht⟩ := List.exists_cons_of_ne_nil (List.splitOn_ne_nil '/' cs)
      rw [ht, List.modifyHead_cons, List.mem_cons] at h
      rcases h with rfl | h
      · rw [List.mem_cons, not_or]
        exact ⟨fun e => hc (by simp [← e]), ih (ht ▸ List.mem_cons_self ..)⟩
      · exact ih (ht ▸ List.mem_cons_of_mem _ h)

/-- The segments of a path without its dot segments. -/
theorem splitOn_remove (cs : List Char) :
    (remove ('/' :: cs)).splitOn '/' = [] :: (cs.splitOn '/').foldl push [] := by
  have hs : ('/' :: cs).splitOn '/' = [] :: cs.splitOn '/' := by
    rw [List.splitOn_cons_eq_if_modifyHead, if_pos (by rfl)]
  have hk : ([] :: cs.splitOn '/').foldl keep [] = [] :: (cs.splitOn '/').foldl push [] := by
    rw [List.foldl_cons]
    exact foldl_keep [] _
  unfold remove
  simp only [hs]
  split
  · rw [hk, List.splitOn_intercalate _ _ (List.cons_ne_nil _ _)]
    intro s h
    rcases List.mem_cons.1 h with rfl | h
    · simp
    · rcases mem_foldl_push h with h | ⟨h, -⟩
      · simp at h
      · exact not_mem_of_mem_splitOn h
  · rename_i h
    rw [hs, foldl_push_of_plain, List.nil_append]
    intro s hs
    simpa using fun hd => h (List.any_eq_true.2 ⟨s, List.mem_cons_of_mem _ hs, hd⟩)

theorem foldl_push_map {f : List Char → List Char}
    (hf : ∀ s, (f s = ['.'] ↔ s = ['.']) ∧ (f s = ['.', '.'] ↔ s = ['.', '.']))
    (kept segments : List (List Char)) :
    (segments.map f).foldl push (kept.map f) = (segments.foldl push kept).map f := by
  induction segments generalizing kept with
  | nil => rfl
  | cons s ss ih =>
    have h : push (kept.map f) (f s) = (push kept s).map f := by
      simp only [push, hf]
      split
      · rfl
      · split
        · exact List.map_dropLast.symm
        · simp
    rw [List.map_cons, List.foldl_cons, List.foldl_cons, h, ih]

/-- Segments whose dots take back nothing before them, and none of which is empty. -/
structure Anchored (segments : List (List Char)) : Prop where
  ne_nil : ∀ s ∈ segments, s ≠ []
  no_mark : ∀ s ∈ segments, ∀ c ∈ s, c ∉ ['/', '?', '#']
  foldl_push : ∀ kept, segments.foldl push kept = kept ++ segments.foldl push []

theorem Anchored.rest {segments : List (List Char)} (h : Anchored segments) :
    Anchored (segments.foldl push []) := by
  have hm : ∀ s ∈ segments.foldl push [], s ∈ segments ∧ isDots s = false := fun s hs =>
    (mem_foldl_push hs).resolve_left (List.not_mem_nil)
  refine ⟨fun s hs => h.ne_nil s (hm s hs).1, fun s hs => h.no_mark s (hm s hs).1, fun kept => ?_⟩
  rw [foldl_push_of_plain fun s hs => (hm s hs).2, foldl_push_of_plain fun s hs => (hm s hs).2,
    List.nil_append]

theorem foldl_push_idem (segments : List (List Char)) :
    (segments.foldl push []).foldl push [] = segments.foldl push [] :=
  foldl_push_of_plain (fun _ hs => ((mem_foldl_push hs).resolve_left (List.not_mem_nil)).2) []

/-- The segments below the root once leading slashes and dot segments are gone. -/
def visible (segments : List (List Char)) : List (List Char) :=
  ((segments.dropWhile (·.isEmpty)).foldl push []).filter (!·.isEmpty)

theorem visible_append {segments : List (List Char)} (h : Anchored segments)
    (before : List (List Char)) :
    visible (before ++ segments) = visible before ++ segments.foldl push [] := by
  have hd : (before ++ segments).dropWhile (·.isEmpty) =
      before.dropWhile (·.isEmpty) ++ segments := by
    induction before with
    | nil =>
      cases segments with
      | nil => rfl
      | cons s ss =>
        exact List.dropWhile_cons_of_neg
          (by simpa using h.ne_nil s (List.mem_cons_self ..))
    | cons b bs ih =>
      cases b with
      | nil => exact ih
      | cons c cs => rfl
  have hf : (segments.foldl push []).filter (!·.isEmpty) = segments.foldl push [] :=
    List.filter_eq_self.2 fun s hs => by simpa using h.rest.ne_nil s hs
  rw [visible, hd, List.foldl_append, h.foldl_push, List.filter_append, hf, visible]

/-- Leading slashes are gone whether they are taken off the path or off its segments. -/
theorem visible_dropSlashes (cs : List Char) :
    (((cs.dropWhile (· == '/')).splitOn '/').foldl push []).filter (!·.isEmpty) =
      visible (cs.splitOn '/') := by
  induction cs with
  | nil => rfl
  | cons c cs ih =>
    rw [List.splitOn_cons_eq_if_modifyHead]
    by_cases hc : c = '/'
    · subst hc
      rw [List.dropWhile_cons_of_pos (by rfl), if_pos (by rfl), ih]
      rfl
    · obtain ⟨s, ss, h⟩ := List.exists_cons_of_ne_nil (List.splitOn_ne_nil '/' cs)
      rw [List.dropWhile_cons_of_neg (by simpa using hc), List.splitOn_cons_eq_if_modifyHead,
        if_neg (by simpa using hc), h, List.modifyHead_cons]
      rfl

/-- A path without its dot segments shows the same segments. -/
theorem visible_remove (cs : List Char) :
    visible ((remove ('/' :: cs)).splitOn '/') = visible ((cs.splitOn '/').foldl push []) := by
  rw [splitOn_remove]
  rfl

theorem visible_map {f : List Char → List Char}
    (hf : ∀ s, (f s = ['.'] ↔ s = ['.']) ∧ (f s = ['.', '.'] ↔ s = ['.', '.']))
    (he : ∀ s, (f s).isEmpty = s.isEmpty) (segments : List (List Char)) :
    visible (segments.map f) = (visible segments).map f := by
  have hd : (segments.map f).dropWhile (·.isEmpty) = (segments.dropWhile (·.isEmpty)).map f := by
    rw [List.dropWhile_map]
    exact congrArg (fun p => (List.dropWhile p segments).map f) (funext he)
  rw [visible, hd, ← List.map_nil (f := f), foldl_push_map hf, List.filter_map, visible]
  exact congrArg (fun p => (List.filter p _).map f) (funext fun s => congrArg (!·) (he s))

/-- Segments with a slash before each. -/
def render (segments : List (List Char)) : List Char := segments.flatMap ('/' :: ·)

theorem splitOn_append_slash (xs ys : List Char) :
    (xs ++ '/' :: ys).splitOn '/' = xs.splitOn '/' ++ ys.splitOn '/' := by
  induction xs with
  | nil => rw [List.nil_append, List.splitOn_cons_eq_if_modifyHead, if_pos (by rfl)]; rfl
  | cons x xs ih =>
    rw [List.cons_append, List.splitOn_cons_eq_if_modifyHead, List.splitOn_cons_eq_if_modifyHead,
      ih]
    obtain ⟨s, ss, h⟩ := List.exists_cons_of_ne_nil (List.splitOn_ne_nil '/' xs)
    split
    · rfl
    · rw [h, List.cons_append, List.modifyHead_cons, List.modifyHead_cons, List.cons_append]

theorem splitOn_append_render {segments : List (List Char)} (h : ∀ s ∈ segments, '/' ∉ s)
    (cs : List Char) : (cs ++ render segments).splitOn '/' = cs.splitOn '/' ++ segments := by
  induction segments generalizing cs with
  | nil => simp [render]
  | cons s ss ih =>
    have hs : s.splitOn '/' = [s] := Percent.splitOn_of_not_mem (h s (List.mem_cons_self ..))
    have hr : render (s :: ss) = '/' :: (s ++ render ss) := rfl
    rw [hr, splitOn_append_slash, ih (fun t ht => h t (List.mem_cons_of_mem _ ht)), hs]
    rfl

theorem Anchored.no_slash {segments : List (List Char)} (h : Anchored segments) :
    ∀ s ∈ segments, '/' ∉ s := fun s hs hc => h.no_mark s hs '/' hc (by decide)

theorem head?_render (segments : List (List Char)) :
    (render segments).head? = none ∨ (render segments).head? = some '/' := by
  cases segments with
  | nil => exact .inl rfl
  | cons s ss => exact .inr rfl

theorem Anchored.not_mem_render {segments : List (List Char)} (h : Anchored segments) {c : Char}
    (hc : c ∈ render segments) : c ∉ ['?', '#'] := by
  obtain ⟨s, hs, hc⟩ := List.mem_flatMap.1 hc
  rcases List.mem_cons.1 hc with rfl | hc
  · decide
  · exact fun hm => h.no_mark s hs c hc (List.mem_cons_of_mem _ hm)

/-- Anchored segments at the end of a path stay there, whatever else is taken off. -/
theorem visible_append_render {segments : List (List Char)} (h : Anchored segments)
    (path : List Char) (hp : path.head? = none ∨ path.head? = some '/') (removing : Bool) :
    visible ((if removing then remove (path ++ render segments)
        else path ++ render segments).splitOn '/') =
      visible ((if removing then remove path else path).splitOn '/') ++
        segments.foldl push [] := by
  have hslash : ∀ cs : List Char, ('/' :: cs).splitOn '/' = [] :: cs.splitOn '/' := fun cs =>
    splitOn_append_slash [] cs
  have hkept : ∀ before : List (List Char), visible ((before ++ segments).foldl push []) =
      visible (before.foldl push []) ++ segments.foldl push [] := by
    intro before
    rw [List.foldl_append, h.foldl_push, visible_append h.rest, foldl_push_idem]
  rcases path with _ | ⟨c, cs⟩
  · rcases segments with _ | ⟨s, ss⟩
    · simp [render]
    · have hr : render (s :: ss) = '/' :: (s ++ render ss) := rfl
      have hz : (s ++ render ss).splitOn '/' = s :: ss := by
        have := splitOn_append_slash [] (s ++ render ss)
        have h' := splitOn_append_render h.no_slash []
        rw [List.nil_append, hr, hslash] at h'
        simpa using h'
      rw [List.nil_append, hr]
      cases removing with
      | true =>
        rw [if_pos rfl, if_pos rfl, visible_remove, hz]
        exact hkept []
      | false =>
        rw [if_neg (by simp), if_neg (by simp), hslash, hz]
        exact visible_append h [[]]
  · obtain rfl : c = '/' := by simpa using hp
    cases removing with
    | true =>
      rw [if_pos rfl, if_pos rfl, List.cons_append, visible_remove, visible_remove,
        splitOn_append_render h.no_slash, hkept]
    | false =>
      rw [if_neg (by simp), if_neg (by simp), splitOn_append_render h.no_slash, visible_append h]

end ContentDepot.Text.DotSegments
