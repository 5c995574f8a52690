import ContentDepot.Proofs.Session.Live
import ContentDepot.Proofs.Text.Lowering

/-!
# The paths of a metadata index

Every path that a metadata index asks for is a name, perhaps a word of the
engine (`IsWord`) and perhaps an escaped identifier.

* `anchored_word`, `anchored_segment`: what comes after the name is anchored.
* `Address.Leads`: all such paths lead to one index, whatever the name is made of.
* `leads_of_plain`: a plain name leads to the index of that name.
* `target_document`: a document can be asked for exactly if its path fits.
-/

namespace ContentDepot

open Text Text.DotSegments InMemory

namespace Text.DotSegments

theorem segment_eq_dots (t : String) :
    ((Percent.segment t).toList = ['.'] ↔ t = ".") ∧
      ((Percent.segment t).toList = ['.', '.'] ↔ t = "..") := by
  have hd : '.' ≠ '%' := by decide
  simp only [Percent.segment, String.toList_ofList]
  refine ⟨⟨fun h => ?_, by rintro rfl; decide⟩, ⟨fun h => ?_, by rintro rfl; decide⟩⟩
  · obtain ⟨t', h1, ht⟩ := Percent.escapeUnless_eq_cons hd h
    rw [Percent.escapeUnless_eq_nil.1 ht] at h1
    exact String.toList_inj.1 h1
  · obtain ⟨t', h1, ht⟩ := Percent.escapeUnless_eq_cons hd h
    obtain ⟨t'', rfl, ht'⟩ := Percent.escapeUnless_eq_cons hd ht
    rw [Percent.escapeUnless_eq_nil.1 ht'] at h1
    exact String.toList_inj.1 h1

theorem segment_ne_nil {t : String} (ht : t ≠ "") : (Percent.segment t).toList ≠ [] := by
  rw [Percent.segment, String.toList_ofList]
  exact fun h => ht (String.toList_eq_nil_iff.1 (Percent.escapeUnless_eq_nil.1 h))

/-- The characters of a segment: unreserved ones and those of escapes. -/
theorem segment_plain {t : String} {c : Char} (h : c ∈ (Percent.segment t).toList) :
    Url.isPathChar c = true ∧ c ≠ '/' := by
  rw [Percent.segment, String.toList_ofList] at h
  have hu : ∀ d ∈ ['_', '.', '-', '~', '%'], Url.isPathChar d = true ∧ d ≠ '/' :=
    forall_mem_of_all (by decide)
  have ha : c.isAlphanum = true → Url.isPathChar c = true ∧ c ≠ '/' := fun ha =>
    ⟨Url.isPathChar_of_isAlphanum ha, fun hc => by rw [hc] at ha; exact absurd ha (by decide)⟩
  rcases Percent.mem_escapeUnless h with ⟨-, h⟩ | rfl | h
  · simp only [Percent.isUnreserved, Bool.or_eq_true, beq_iff_eq, or_assoc] at h
    rcases h with h | rfl | rfl | rfl | rfl
    · exact ha h
    all_goals exact hu _ (by decide)
  · exact hu _ (by decide)
  · exact ha h

/-- The word that begins what lies below an index, and after it an identifier. -/
structure IsWord (word : String) : Prop where
  ne_empty : word ≠ ""
  plain : ∀ c ∈ word.toList, Url.isPathChar c = true ∧ c ∉ ['/', '.', '%']

theorem IsWord.not_dots {word : String} (h : IsWord word) : isDots word.toList = false := by
  simp only [isDots, Bool.or_eq_false_iff, beq_eq_false_iff_ne]
  constructor <;> intro hw <;> exact (h.plain '.' (by simp [hw])).2 (by decide)

theorem IsWord.push {word : String} (h : IsWord word) (kept : List (List Char)) :
    push kept word.toList = kept ++ [word.toList] := push_of_plain h.not_dots

theorem IsWord.ne_nil {word : String} (h : IsWord word) : word.toList ≠ [] := fun hw =>
  h.ne_empty (String.toList_eq_nil_iff.1 hw)

theorem isWord_doc : IsWord "_doc" := ⟨by decide, forall_mem_of_all (by decide)⟩

theorem isWord_update : IsWord "_update" := ⟨by decide, forall_mem_of_all (by decide)⟩

theorem isWord_refresh : IsWord "_refresh" := ⟨by decide, forall_mem_of_all (by decide)⟩

theorem isWord_search : IsWord "_search" := ⟨by decide, forall_mem_of_all (by decide)⟩

theorem not_mark {c : Char} (h : Url.isPathChar c = true) (hs : c ≠ '/') :
    c ∉ ['/', '?', '#'] := by
  intro hm
  simp only [List.mem_cons, List.not_mem_nil, or_false] at hm
  rcases hm with rfl | rfl | rfl
  · exact hs rfl
  · exact absurd h (by decide)
  · exact absurd h (by decide)

theorem anchored_nil : Anchored [] := ⟨by simp, by simp, by simp⟩

theorem anchored_word {word : String} (h : IsWord word) : Anchored [word.toList] := by
  refine ⟨fun s hs => ?_, fun s hs c hc => ?_, fun kept => ?_⟩
  · rw [List.mem_singleton.1 hs]
    exact h.ne_nil
  · rw [List.mem_singleton.1 hs] at hc
    exact not_mark (h.plain c hc).1 fun he => (h.plain c hc).2 (by simp [he])
  · simp only [List.foldl_cons, List.foldl_nil, h.push, List.nil_append]

theorem anchored_segment {word t : String} (h : IsWord word) (ht : t ≠ "") :
    Anchored [word.toList, (Percent.segment t).toList] := by
  refine ⟨fun s hs => ?_, fun s hs c hc => ?_, fun kept => ?_⟩
  · rcases List.mem_cons.1 hs with rfl | hs
    · exact h.ne_nil
    · rw [List.mem_singleton.1 hs]
      exact segment_ne_nil ht
  · rcases List.mem_cons.1 hs with rfl | hs
    · exact not_mark (h.plain c hc).1 fun he => (h.plain c hc).2 (by simp [he])
    · rw [List.mem_singleton.1 hs] at hc
      exact not_mark (segment_plain hc).1 (segment_plain hc).2
  · simp only [List.foldl_cons, List.foldl_nil, h.push, List.nil_append]
    unfold push
    split
    · rfl
    · split <;> simp

theorem foldl_word {word : String} (h : IsWord word) :
    [word.toList].foldl push [] = [word.toList] := h.push []

theorem foldl_segment {word t : String} (h : IsWord word) (h1 : t ≠ ".") (h2 : t ≠ "..") :
    [word.toList, (Percent.segment t).toList].foldl push [] =
      [word.toList, (Percent.segment t).toList] := by
  have hd : isDots (Percent.segment t).toList = false := by
    simp only [isDots, Bool.or_eq_false_iff, beq_eq_false_iff_ne]
    exact ⟨fun h => h1 ((segment_eq_dots t).1.1 h), fun h => h2 ((segment_eq_dots t).2.1 h)⟩
  rw [List.foldl_cons, h.push, List.foldl_cons, push_of_plain hd]
  rfl

end Text.DotSegments

namespace Address

/-- The name leads to the index, wherever below it the request goes. -/
def Leads (a : Address) (name index : String) : Prop :=
  ∀ segments url, Anchored segments → a.target (reference name segments) = .ok url →
    Engine.segments (String.ofList url.path) = index :: meanings (segments.foldl push [])

/-- A plain name leads to the index of that name. -/
theorem leads_of_plain {a : Address} (ha : a.base.IsRoot) {name : String} (hn : IsPlainName name) :
    a.Leads name name := fun _ _ hs h => segments_of_plain ha hn hs h

theorem not_isAlpha_of_isControl {c : Char} (h : Url.isControl c = true) :
    c.toNat < 0x80 ∧ c.isAlpha = false := by
  simp only [Url.isControl, Bool.or_eq_true, decide_eq_true_eq, beq_iff_eq, Char.toNat] at h
  refine ⟨by simp only [Char.toNat]; omega, ?_⟩
  delta Char.isAlpha Char.isUpper Char.isLower
  simp only [Bool.or_eq_false_iff, Bool.and_eq_false_iff, decide_eq_false_iff_not,
    UInt32.le_iff_toNat_le, ge_iff_le, Char.reduceVal, UInt32.reduceToNat]
  omega

/-- A name that is no step in a path and holds no mark of one. -/
structure IsUnmarked (name : String) : Prop where
  ne_dot : name ≠ "."
  ne_dots : name ≠ ".."
  no_mark : ∀ c ∈ name.toList, c ∉ ['/', '?', '#', '%']

instance (name : String) : Decidable (IsUnmarked name) :=
  decidable_of_iff (name ≠ "." ∧ name ≠ ".." ∧
      (name.toList.all fun c => decide (c ∉ ['/', '?', '#', '%'])) = true)
    ⟨fun ⟨h1, h2, hm⟩ => ⟨h1, h2, forall_mem_of_all hm⟩,
      fun h => ⟨h.ne_dot, h.ne_dots, List.all_eq_true.2 fun c hc => decide_eq_true (h.no_mark c hc)⟩⟩

theorem IsPlainName.unmarked {name : String} (h : IsPlainName name) : IsUnmarked name :=
  ⟨h.ne_dot, h.ne_dots, h.no_mark⟩

theorem IsUnmarked.lower {name : String} (h : IsUnmarked name) : IsUnmarked (Text.lower name) where
  ne_dot hl := by
    have hname := eq_of_lower_plain (by rw [hl]; exact forall_mem_of_all (by decide))
    exact h.ne_dot (hname.symm.trans hl)
  ne_dots hl := by
    have hname := eq_of_lower_plain (by rw [hl]; exact forall_mem_of_all (by decide))
    exact h.ne_dots (hname.symm.trans hl)
  no_mark c hc hm := by
    have hp : ∀ d ∈ ['/', '?', '#', '%'], d.toNat < 0x80 ∧ d.isAlpha = false :=
      forall_mem_of_all (by decide)
    exact h.no_mark c (mem_lower hc (hp c hm).1 (hp c hm).2) hm

/-- The lower case of a plain name is plain. -/
theorem IsPlainName.lower {name : String} (h : IsPlainName name) :
    IsPlainName (Text.lower name) where
  ne_empty := Text.lower_ne_empty h.ne_empty
  ne_dot := h.unmarked.lower.ne_dot
  ne_dots := h.unmarked.lower.ne_dots
  no_mark := h.unmarked.lower.no_mark
  no_control c hc := by
    by_contra hn
    rw [Bool.not_eq_false] at hn
    obtain ⟨ha, hl⟩ := not_isAlpha_of_isControl hn
    rw [h.no_control c (mem_lower hc ha hl)] at hn
    cases hn

/-- An unmarked name is plain in lower case, or there is a control character in it. -/
theorem IsUnmarked.plain_or_control {name : String} (h : IsUnmarked name) (hn : name ≠ "") :
    IsPlainName (Text.lower name) ∨
      ∃ c ∈ (Text.lower name).toList, Url.isControl c = true := by
  by_cases hc : ∀ c ∈ (Text.lower name).toList, Url.isControl c = false
  · exact .inl ⟨Text.lower_ne_empty hn, h.lower.ne_dot, h.lower.ne_dots, h.lower.no_mark, hc⟩
  · rw [not_forall] at hc
    obtain ⟨c, hc⟩ := hc
    rw [Classical.not_imp, Bool.not_eq_false] at hc
    exact .inr ⟨c, hc⟩

theorem decode_word {word : String} (h : IsWord word) :
    Percent.decode (String.ofList word.toList) = word := by
  rw [String.ofList_toList]
  exact Percent.decode_plain fun hc => (h.plain _ hc).2 (by decide)

theorem decode_ofList_segment (t : String) :
    Percent.decode (String.ofList (Percent.segment t).toList) = t := by
  rw [String.ofList_toList, Percent.decode_segment]

theorem meanings_word {word : String} (h : IsWord word) : meanings [word.toList] = [word] := by
  simp only [meanings, List.map_cons, List.map_nil, decode_word h]

theorem meanings_segment {word : String} (h : IsWord word) (t : String) :
    meanings [word.toList, (Percent.segment t).toList] = [word, t] := by
  simp only [meanings, List.map_cons, List.map_nil, decode_word h, decode_ofList_segment]

/-- What lies under an identifier below a plain name can be asked for exactly if its path fits. -/
theorem target_segment {a : Address} (ha : a.base.IsRoot) {name word t : String}
    (hn : IsPlainName name) (hw : IsWord word) (ht : t ≠ "") :
    if fits (reference name [word.toList, (Percent.segment t).toList]) then
      ∃ url, a.target (reference name [word.toList, (Percent.segment t).toList]) = .ok url
    else a.target (reference name [word.toList, (Percent.segment t).toList]) =
      .error .invalidAddress := by
  refine target_of_plain ha hn (anchored_segment hw ht) fun seg hseg c hc => ?_
  rcases List.mem_cons.1 hseg with rfl | hseg
  · exact Url.isControl_of_isPathChar (hw.plain c hc).1
  · rw [List.mem_singleton.1 hseg] at hc
    exact Url.isControl_of_isPathChar (segment_plain hc).1

end Address

namespace MetadataIndex

open Address

theorem indexPath_eq (name : String) : indexPath name = reference name [] := by
  rw [← String.toList_inj]
  simp [indexPath, reference, render]

theorem path_word_eq (name word : String) :
    "/" ++ name ++ ("/" ++ word) = reference name [word.toList] := by
  rw [← String.toList_inj]
  simp [reference, render]

theorem path_segment_eq (name word t : String) :
    "/" ++ name ++ ("/" ++ word ++ "/") ++ Percent.segment t =
      reference name [word.toList, (Percent.segment t).toList] := by
  rw [← String.toList_inj]
  simp [reference, render]

theorem documentPath_eq (name t : String) :
    documentPath name (.str t) =
      reference name ["_doc".toList, (Percent.segment t).toList] :=
  path_segment_eq name "_doc" t

theorem updatePath_eq (name t : String) :
    updatePath name (.str t) =
      reference name ["_update".toList, (Percent.segment t).toList] :=
  path_segment_eq name "_update" t

/-- A document below a plain name can be asked for exactly if its path fits. -/
theorem target_document {a : Address} (ha : a.base.IsRoot) {name t : String}
    (hn : IsPlainName name) (ht : t ≠ "") :
    if fits (documentPath name (.str t)) then
      ∃ url, a.target (documentPath name (.str t)) = .ok url
    else a.target (documentPath name (.str t)) = .error .invalidAddress := by
  rw [documentPath_eq]
  exact target_segment ha hn isWord_doc ht

end MetadataIndex

end ContentDepot
