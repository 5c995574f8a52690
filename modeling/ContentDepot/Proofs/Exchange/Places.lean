import ContentDepot.Proofs.Index.Paths

/-!
# Names without a slash

A name is put into a path as it is. One that holds no slash is one segment of the
path at most: it may be cut short by a mark, or be a dot and vanish, but what is
asked for below it lies below one index or none (`Opens`).

* `exists_opens`: every name without a slash opens a place;
* `Opens.word`, `Opens.segment`: where a word below the name leads, and an
  identifier below the word.
-/

namespace ContentDepot

open Text Text.DotSegments InMemory

namespace Url

/-- A name without a slash is one segment at most. -/
theorem length_below {cs : List Char} (hn : cs ≠ []) (hs : '/' ∉ cs) : (below cs).length ≤ 1 := by
  obtain ⟨c, ds, rfl⟩ := List.exists_cons_of_ne_nil hn
  have hc : c ≠ '/' := fun h => hs (h ▸ List.mem_cons_self ..)
  have hauth : splitAuthority ('/' :: c :: ds) = ([], '/' :: c :: ds) := splitAuthority_of_ne hc ds
  have hnames : textNames [] = false := by decide
  obtain ⟨short, hshort, hpath⟩ : ∃ short, '/' ∉ short ∧ pathText (c :: ds) = '/' :: short := by
    refine ⟨(c :: ds).takeWhile (! ['?', '#'].contains ·), fun h => hs ?_, ?_⟩
    · exact (List.takeWhile_prefix _).subset h
    · have hslash : (! ['?', '#'].contains '/') = true := by decide
      rw [pathText, hauth]
      exact List.takeWhile_cons_of_pos (p := (! ['?', '#'].contains ·)) hslash
  have hsplit : ('/' :: short).splitOn '/' = [[], short] := by
    rw [← List.nil_append ('/' :: short), splitOn_append_slash, Percent.splitOn_of_not_mem hshort]
    rfl
  have hpush : (push [] short).length ≤ 1 := by
    unfold push
    split
    · exact Nat.zero_le _
    · split
      · exact Nat.zero_le _
      · exact Nat.le_refl _
  rw [below, hauth, hnames, if_neg Bool.false_ne_true, hpath, hsplit]
  refine Nat.le_trans (List.length_filter_le _ _) ?_
  cases short with
  | nil => exact Nat.zero_le _
  | cons d short => exact hpush

end Url

namespace Address

variable {a : Address} {name : String} {place : Option String}

/-- Requests below the name lead to a place, or to what they name below the place. -/
def Opens (a : Address) (name : String) (place : Option String) : Prop :=
  ∀ segments url, Anchored segments → a.target (reference name segments) = .ok url →
    Engine.segments (String.ofList url.path) = place.toList ∨
      Engine.segments (String.ofList url.path) = place.toList ++ meanings (segments.foldl push [])

theorem exists_opens (ha : a.base.IsRoot) (hn : name ≠ "") (hs : '/' ∉ name.toList) :
    ∃ place, a.Opens name place := by
  have hn' : name.toList ≠ [] := fun h => hn (String.toList_eq_nil_iff.1 h)
  -- What the name leaves of a path is the same, whatever follows it.
  obtain ⟨base, ends, hb⟩ := Url.below_append hn'
  have hbase : base = Url.below name.toList := by
    have h := hb [] anchored_nil
    rw [show render [] = [] from rfl, List.append_nil] at h
    rw [h]
    cases ends
    · exact (List.append_nil base).symm
    · rfl
  obtain ⟨place, hplace⟩ : ∃ place : Option String, place.toList = meanings base := by
    have hlength := Url.length_below hn' hs
    rw [← hbase] at hlength
    match base, hlength with
    | [], _ => exact ⟨none, rfl⟩
    | [b], _ => exact ⟨some (Percent.decode (String.ofList b)), rfl⟩
  refine ⟨place, fun segments url hsegments h => ?_⟩
  have hpath := segments_of_target ha h
  rw [hb segments hsegments] at hpath
  rw [hplace]
  cases ends with
  | true => exact .inl hpath
  | false => exact .inr (hpath.trans List.map_append)

/-- The lower case of a name holds a slash only if the name does. -/
theorem no_slash_lower (h : '/' ∉ name.toList) : '/' ∉ (Text.lower name).toList := fun hl =>
  h (mem_lower hl (by decide) (by decide))

namespace Opens

/-- The name itself leads to the place. -/
theorem nil (h : a.Opens name place) {url : Url} (ht : a.target (reference name []) = .ok url) :
    Engine.segments (String.ofList url.path) = place.toList := by
  rcases h [] url anchored_nil ht with h | h
  · exact h
  · exact h.trans (List.append_nil _)

/-- A word of the engine below the name. -/
theorem word (h : a.Opens name place) {word : String} (hw : IsWord word) {url : Url}
    (ht : a.target (reference name [word.toList]) = .ok url) :
    Engine.segments (String.ofList url.path) = place.toList ∨
      Engine.segments (String.ofList url.path) = place.toList ++ [word] := by
  have hpath := h _ url (anchored_word hw) ht
  rwa [foldl_word hw, meanings_word hw] at hpath

/-- An identifier below a word may be a dot and vanish, or take the word away. -/
theorem segment (h : a.Opens name place) {word t : String} (hw : IsWord word) (hn : t ≠ "")
    {url : Url}
    (ht : a.target (reference name [word.toList, (Percent.segment t).toList]) = .ok url) :
    Engine.segments (String.ofList url.path) = place.toList ∨
      ∃ rest, Engine.segments (String.ofList url.path) = place.toList ++ word :: rest := by
  refine (h _ url (anchored_segment hw hn) ht).elim .inl fun hpath => ?_
  by_cases h1 : t = "."
  · subst h1
    have hone : Percent.segment "." = "." := by decide
    rw [List.foldl_cons, hw.push, List.nil_append, hone] at hpath
    exact .inr ⟨[], hpath.trans (congrArg (place.toList ++ ·) (meanings_word hw))⟩
  · by_cases h2 : t = ".."
    · subst h2
      have htwo : Percent.segment ".." = ".." := by decide
      rw [List.foldl_cons, hw.push, List.nil_append, htwo] at hpath
      exact .inl (hpath.trans (List.append_nil _))
    · rw [foldl_segment hw h1 h2, meanings_segment hw] at hpath
      exact .inr ⟨[t], hpath⟩

end Opens

end Address

end ContentDepot
