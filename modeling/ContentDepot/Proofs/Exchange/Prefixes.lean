import ContentDepot.Proofs.Index.Paths

/-!
# What lies below a name, at any address

The URL of a backend may have a path of its own, which comes before the path of a
request, or a query, which takes the path of a request to itself. What lies below a
name is seen at the end of the path all the same, behind the segments of the URL and of
the name, unless one of these ends the path before:

* `shown_remove_render`: clear segments at the end of a path stay there, whatever else
  its dots take back;
* `Address.segments_below`: what a backend sees of a request, whatever its address is made of;
* `Address.PointsTo`: all that is clear below a name lies below one index.
-/

namespace ContentDepot

open Text InMemory

namespace Text.DotSegments

/-- A segment that a path shows as it is. -/
structure IsClear (s : List Char) : Prop where
  ne_nil : s ≠ []
  not_dots : isDots s = false
  plain : ∀ c ∈ s, Url.isPathChar c = true ∧ c ≠ '/'

/-- The segments of a path that are not empty. -/
def shown (cs : List Char) : List (List Char) := (cs.splitOn '/').filter (!·.isEmpty)

theorem shown_append_slash (xs ys : List Char) :
    shown (xs ++ '/' :: ys) = shown xs ++ shown ys := by
  rw [shown, splitOn_append_slash, List.filter_append, shown, shown]

theorem intercalate_cons (s : List Char) (ss : List (List Char)) :
    ['/'].intercalate (s :: ss) = s ++ render ss := by
  induction ss generalizing s with
  | nil => simp [render]
  | cons t ts ih =>
    have hr : render (t :: ts) = '/' :: (t ++ render ts) := rfl
    rw [hr, ← ih t]
    rfl

theorem foldl_keep_of_plain {segments : List (List Char)} (h : ∀ s ∈ segments, isDots s = false)
    (kept : List (List Char)) : segments.foldl keep kept = kept ++ segments := by
  induction segments generalizing kept with
  | nil => rw [List.foldl_nil, List.append_nil]
  | cons s ss ih =>
    have hs := h s (.head _)
    simp only [isDots, Bool.or_eq_false_iff, beq_eq_false_iff_ne] at hs
    rw [List.foldl_cons, keep, if_neg hs.1, if_neg hs.2, ih fun t ht => h t (.tail _ ht),
      List.append_assoc, List.singleton_append]

theorem mem_foldl_keep {segments kept : List (List Char)} {s : List Char}
    (h : s ∈ segments.foldl keep kept) : s ∈ kept ∨ s ∈ segments := by
  induction segments generalizing kept with
  | nil => exact .inl h
  | cons t ts ih =>
    refine (ih h).elim (fun h => ?_) fun h => .inr (.tail _ h)
    unfold keep at h
    split at h
    · exact .inl h
    · split at h
      · split at h
        · exact .inl h
        · exact .inl (List.dropLast_subset _ h)
      · rcases List.mem_append.1 h with h | h
        · exact .inl h
        · exact .inr (List.mem_singleton.1 h ▸ .head _)

/-- A path without its dot segments shows what is kept of its segments. -/
theorem shown_remove (cs : List Char) :
    shown (remove cs) = ((cs.splitOn '/').foldl keep []).filter (!·.isEmpty) := by
  simp only [remove]
  split
  · rcases hkept : (cs.splitOn '/').foldl keep [] with _ | ⟨s, ss⟩
    · rfl
    · rw [← hkept, shown, List.splitOn_intercalate _ _ (hkept ▸ List.cons_ne_nil s ss)]
      exact fun t ht => not_mem_of_mem_splitOn ((mem_foldl_keep ht).resolve_left List.not_mem_nil)
  · rename_i h
    rw [foldl_keep_of_plain, List.nil_append, shown]
    exact fun s hs => by simpa using fun hd => h (List.any_eq_true.2 ⟨s, hs, hd⟩)

/-- A slash at the end shows nothing, and it takes nothing back. -/
theorem shown_remove_slash (cs : List Char) : shown (remove (cs ++ ['/'])) = shown (remove cs) := by
  rw [shown_remove, shown_remove, splitOn_append_slash, List.foldl_append]
  show (((cs.splitOn '/').foldl keep []) ++ [[]]).filter _ = _
  rw [List.filter_append]
  exact List.append_nil _

/-- A slash at the end stays there, unless the dots before it take back everything. -/
theorem remove_append_slash (cs : List Char) :
    remove (cs ++ ['/']) = [] ∨ ∃ before, remove (cs ++ ['/']) = before ++ ['/'] := by
  have hsplit : (cs ++ ['/']).splitOn '/' = cs.splitOn '/' ++ [[]] := splitOn_append_slash cs []
  simp only [remove, hsplit]
  split
  · have hkeep : (cs.splitOn '/' ++ [[]]).foldl keep [] = (cs.splitOn '/').foldl keep [] ++ [[]] :=
      List.foldl_append
    rw [hkeep]
    rcases (cs.splitOn '/').foldl keep [] with _ | ⟨s, ss⟩
    · exact .inl rfl
    · refine .inr ⟨s ++ render ss, ?_⟩
      rw [List.cons_append, intercalate_cons, List.append_assoc]
      exact congrArg _ List.flatMap_append
  · exact .inr ⟨cs, rfl⟩

section Clear

variable {segments : List (List Char)} (h : ∀ s ∈ segments, IsClear s)

include h

theorem splitOn_append_clear (cs : List Char) :
    (cs ++ render segments).splitOn '/' = cs.splitOn '/' ++ segments :=
  splitOn_append_render (fun s hs hc => ((h s hs).plain '/' hc).2 rfl) cs

theorem filter_clear : segments.filter (!·.isEmpty) = segments :=
  List.filter_eq_self.2 fun s hs => by simpa using (h s hs).ne_nil

theorem shown_render (cs : List Char) : shown (cs ++ render segments) = shown cs ++ segments := by
  rw [shown, splitOn_append_clear h, List.filter_append, filter_clear h, shown]

/-- Clear segments at the end stay there, whatever the dots before them take back. -/
theorem shown_remove_render (cs : List Char) :
    shown (remove (cs ++ render segments)) = shown (remove cs) ++ segments := by
  rw [shown_remove, shown_remove, splitOn_append_clear h, List.foldl_append,
    foldl_keep_of_plain fun s hs => (h s hs).not_dots, List.filter_append, filter_clear h]

/-- Nothing but the dots before them is taken off the text of a path. -/
theorem remove_append_render {cs : List Char} (hcs : cs.head? = none ∨ cs.head? = some '/') :
    remove (cs ++ render segments) = remove cs ++ render segments := by
  have hany : (cs.splitOn '/' ++ segments).any isDots = (cs.splitOn '/').any isDots := by
    rw [List.any_append, Bool.or_eq_left_iff_imp, List.any_eq_true]
    rintro ⟨s, hs, hd⟩
    rw [(h s hs).not_dots] at hd
    cases hd
  simp only [remove, splitOn_append_clear h, hany]
  split
  · rcases cs with _ | ⟨c, cs⟩
    · rename_i hd
      cases hd
    obtain rfl : c = '/' := by simpa using hcs
    have hsplit : ('/' :: cs).splitOn '/' = [] :: cs.splitOn '/' := splitOn_append_slash [] cs
    have hkeep : ∀ ss : List (List Char), ([] :: ss).foldl keep [] = [] :: ss.foldl push [] :=
      fun ss => foldl_keep [] ss
    rw [hsplit, List.foldl_append, hkeep, foldl_keep_of_plain fun s hs => (h s hs).not_dots,
      List.cons_append, intercalate_cons, intercalate_cons, List.append_assoc]
    exact congrArg _ List.flatMap_append
  · rfl

theorem isPathChar_render : ∀ c ∈ render segments, Url.isPathChar c = true := by
  intro c hc
  obtain ⟨s, hs, hc⟩ := List.mem_flatMap.1 hc
  rcases List.mem_cons.1 hc with rfl | hc
  · decide
  · exact ((h s hs).plain c hc).1

end Clear

theorem IsWord.isClear {word : String} (h : IsWord word) : IsClear word.toList where
  ne_nil := h.ne_nil
  not_dots := h.not_dots
  plain c hc := ⟨(h.plain c hc).1, fun heq => (h.plain c hc).2 (by simp [heq])⟩

/-- A text that can be a segment of a path. -/
structure IsSegment (t : String) : Prop where
  ne_empty : t ≠ ""
  ne_dot : t ≠ "."
  ne_dots : t ≠ ".."

theorem IsSegment.isClear {t : String} (h : IsSegment t) : IsClear (Percent.segment t).toList where
  ne_nil := segment_ne_nil h.ne_empty
  not_dots := by
    simp only [isDots, Bool.or_eq_false_iff, beq_eq_false_iff_ne]
    exact ⟨fun hd => h.ne_dot ((segment_eq_dots t).1.1 hd),
      fun hd => h.ne_dots ((segment_eq_dots t).2.1 hd)⟩
  plain _ hc := segment_plain hc

/-- The segments that a path shows, with or without its dots. -/
def seen (removing : Bool) (path : List Char) : List (List Char) :=
  shown (if removing then remove path else path)

theorem seen_append_render {segments : List (List Char)} (h : ∀ s ∈ segments, IsClear s)
    (removing : Bool) (path : List Char) :
    seen removing (path ++ render segments) = seen removing path ++ segments := by
  cases removing with
  | true => exact shown_remove_render h path
  | false => exact shown_render h path

theorem seen_slash (removing : Bool) (path : List Char) :
    seen removing (path ++ ['/']) = seen removing path := by
  cases removing with
  | true => exact shown_remove_slash path
  | false => exact (shown_append_slash path []).trans (List.append_nil _)

theorem seen_append_slashes {segments : List (List Char)} (h : ∀ s ∈ segments, IsClear s)
    (removing : Bool) (path : List Char) :
    seen removing (path ++ '/' :: (render segments).dropWhile (· == '/')) =
      seen removing path ++ segments := by
  rcases segments with _ | ⟨s, ss⟩
  · exact (seen_slash removing path).trans (List.append_nil _).symm
  · have hdrop : (render (s :: ss)).dropWhile (· == '/') = s ++ render ss := by
      obtain ⟨c, cs, rfl⟩ := List.exists_cons_of_ne_nil (h s (.head _)).ne_nil
      have hc : ¬ (c == '/') = true := by
        simpa using ((h _ (.head _)).plain c (.head _)).2
      exact (List.dropWhile_cons_of_pos (by rfl)).trans (List.dropWhile_cons_of_neg hc)
    rw [hdrop]
    exact seen_append_render h removing path

theorem isClear_word_segment {word t : String} (hw : IsWord word) (ht : IsSegment t) :
    ∀ s ∈ [word.toList, (Percent.segment t).toList], IsClear s := by
  intro s hs
  rcases List.mem_cons.1 hs with rfl | hs
  · exact hw.isClear
  · rw [List.mem_singleton.1 hs]
    exact ht.isClear

end Text.DotSegments

namespace Url

open Text.DotSegments

theorem encodePath_append_render {segments : List (List Char)} (h : ∀ s ∈ segments, IsClear s)
    (path : List Char) :
    encodePath (path ++ render segments) = encodePath path ++ render segments := by
  rw [encodePath_append]
  exact congrArg _ (Percent.escapeUnless_of_kept (isPathChar_render h))

/-- What a name leaves of the path of a reference, unless it ends the path, is before what is
below the name. -/
theorem path_append_clear {name : List Char} (hn : name ≠ []) :
    ∃ (before : List Char) (ends : Bool), ∀ segments r, (∀ s ∈ segments, IsClear s) →
      parse? ('/' :: (name ++ render segments)) = some r →
      r.path = if ends then before else before ++ render segments := by
  have hb : ∀ segments, splitAuthority ('/' :: (name ++ render segments)) =
      ((splitAuthority ('/' :: name)).1, (splitAuthority ('/' :: name)).2 ++ render segments) :=
    fun segments => splitAuthority_append hn (head?_render segments)
  have hh := head?_splitAuthority name
  generalize (splitAuthority ('/' :: name)).1 = authority at hb
  generalize (splitAuthority ('/' :: name)).2 = path at hb hh
  by_cases hm : ∃ c ∈ path, c ∈ ['?', '#']
  · refine ⟨normalPath false (textNames authority) (splitAtAny ['?', '#'] path).1, true,
      fun segments r hs hr => ?_⟩
    have ht : (splitAtAny ['?', '#'] (path ++ render segments)).1 =
        (splitAtAny ['?', '#'] path).1 := by
      obtain ⟨c, hc, hm⟩ := hm
      refine takeWhile_append_of_mem hc ?_ _
      simpa only [Bool.not_eq_false', List.contains_iff_mem] using hm
    rw [(parse?_slash hr).2.2, pathText, hb, if_pos rfl]
    exact congrArg (normalPath false _) ht
  · refine ⟨normalPath false (textNames authority) path, false, fun segments r hs hr => ?_⟩
    have hall : (splitAtAny ['?', '#'] (path ++ render segments)).1 = path ++ render segments := by
      refine List.takeWhile_eq_self_iff.2 fun c hc => ?_
      have hno : c ∉ ['?', '#'] := by
        rcases List.mem_append.1 hc with hc | hc
        · exact fun hmark => hm ⟨c, hc, hmark⟩
        · intro hmark
          have hplain := isPathChar_render hs c hc
          simp only [List.mem_cons, List.not_mem_nil, or_false] at hmark
          rcases hmark with rfl | rfl <;> exact absurd hplain (by decide)
      simpa using hno
    have hp : path.head? = none ∨ path.head? = some '/' := by
      rcases path with _ | ⟨c, cs⟩
      · exact .inl rfl
      · rcases List.mem_cons.1 (hh c rfl) with rfl | hc
        · exact .inr rfl
        · exact absurd ⟨c, List.mem_cons_self .., hc⟩ hm
    rw [(parse?_slash hr).2.2, pathText, hb, if_neg Bool.false_ne_true]
    dsimp only
    rw [hall, normalPath, normalPath, ← encodePath_append_render hs]
    cases false || textNames authority
    · rfl
    · exact congrArg encodePath (remove_append_render hs hp)

/-- A URL with another path and query is made of these. -/
theorem eq_of_withResource? {u v : Url} {cs : List Char} (h : u.withResource? cs = some v) :
    v = { u with
      path := normalPath (!u.scheme.isEmpty) u.hasAuthority (splitAtAny ['?'] cs).1
      query := (afterMark? '?' (splitAtAny ['?'] cs).2).map encodeQuery } := by
  rcases hparts : splitAtAny ['?'] cs with ⟨path, rest⟩
  simp only [withResource?, hparts] at h
  by_cases hrefused : (isRefused path || isRefused ((afterMark? '?' rest).getD [])) = true
  · rw [if_pos hrefused] at h
    cases h
  · rw [if_neg hrefused] at h
    by_cases hadmits : (!admitsPath (!u.scheme.isEmpty) u.hasAuthority path) = true
    · rw [if_pos hadmits] at h
      cases h
    · rw [if_neg hadmits] at h
      cases h
      rfl

theorem normalPath_append_slash (hasScheme hasAuthority : Bool) (cs : List Char) :
    normalPath hasScheme hasAuthority (cs ++ ['/']) = [] ∨
      ∃ before, normalPath hasScheme hasAuthority (cs ++ ['/']) = before ++ ['/'] := by
  have hpath : ∀ {path : List Char}, (path = [] ∨ ∃ before, path = before ++ ['/']) →
      encodePath path = [] ∨ ∃ before, encodePath path = before ++ ['/'] := by
    rintro _ (rfl | ⟨before, rfl⟩)
    · exact .inl rfl
    · exact .inr ⟨encodePath before, encodePath_append before ['/']⟩
  refine hpath ?_
  split
  · exact remove_append_slash cs
  · exact .inr ⟨cs, rfl⟩

/-- A path or a query to which a slash is added ends with it. -/
theorem resource_of_slash {u v : Url} {cs : List Char}
    (h : u.withResource? (cs ++ ['/']) = some v) : ∃ before, v.resource = before ++ ['/'] := by
  rw [eq_of_withResource? h, splitAtAny]
  rcases hrest : cs.dropWhile (! ['?'].contains ·) with _ | ⟨c, rest⟩
  · have hall : ∀ c ∈ cs ++ ['/'], (! ['?'].contains c) = true := by
      intro c hc
      rcases List.mem_append.1 hc with hc | hc
      · exact List.dropWhile_eq_nil_iff.1 hrest c hc
      · cases List.mem_singleton.1 hc
        decide
    rw [List.takeWhile_eq_self_iff.2 hall, List.dropWhile_eq_nil_iff.2 hall]
    simp only [afterMark?, Option.map_none, resource]
    rcases normalPath_append_slash (!u.scheme.isEmpty) u.hasAuthority cs with
      hpath | ⟨before, hpath⟩
    · exact ⟨[], by rw [hpath]; rfl⟩
    · exact ⟨before, by rw [hpath, if_neg (by simp)]⟩
  · have hmark := List.head?_dropWhile_not (! ['?'].contains ·) cs
    rw [hrest] at hmark
    obtain rfl : c = '?' := by simpa using hmark
    have hquery : encodeQuery (rest ++ ['/']) = encodeQuery rest ++ ['/'] := List.flatMap_append
    have hafter : afterMark? '?' ('?' :: rest ++ ['/']) = some (rest ++ ['/']) := rfl
    rw [List.dropWhile_append, hrest, if_neg (by simp)]
    simp only [hafter, Option.map_some, hquery, resource]
    exact ⟨_, (List.append_assoc _ ('?' :: encodeQuery rest) ['/']).symm⟩

end Url

namespace Address

open Url Text.DotSegments InMemory

theorem resource_of_ofUrl? {url : String} {a : Address} (h : ofUrl? url = some a) :
    ∃ before, a.base.resource = before ++ ['/'] := by
  unfold ofUrl? at h
  obtain ⟨base, -, h⟩ := Option.bind_eq_some_iff.1 h
  dsimp only at h
  split at h
  · rename_i hlast
    cases h
    exact (List.getLast?_eq_some_iff).1 (beq_iff_eq.1 hlast)
  · obtain ⟨v, hv, h⟩ := Option.bind_eq_some_iff.1 h
    cases h
    exact resource_of_slash hv

/-- What is seen of a path that is escaped. -/
theorem segments_encodePath (path : List Char) :
    Engine.segments (String.ofList (encodePath path)) = meanings (shown path) := by
  have hfilter : ((path.splitOn '/').map encodePath).filter (!·.isEmpty) =
      (shown path).map encodePath := by
    rw [List.filter_map]
    exact congrArg (fun p => (List.filter p _).map encodePath)
      (funext fun s => congrArg (!·) (isEmpty_encodePath s))
  rw [Engine.segments, String.toList_ofList, splitOn_encodePath, hfilter, meanings, List.map_map]
  exact List.map_congr_left fun s _ => decode_encodePath s

theorem segments_normalPath (hasScheme hasAuthority : Bool) (path : List Char) :
    Engine.segments (String.ofList (normalPath hasScheme hasAuthority path)) =
      meanings (seen (hasScheme || hasAuthority) path) := segments_encodePath _

/-- What is cut off a path that goes on with the path of a reference. -/
theorem takeWhile_append_resource {before : List Char} (hbefore : '?' ∉ before) {r : Url}
    (hr : '?' ∉ r.path) :
    (before ++ r.resource.dropWhile (· == '/')).takeWhile (! ['?'].contains ·) =
      before ++ r.path.dropWhile (· == '/') := by
  rw [← takeWhile_resource r hr]
  refine List.takeWhile_append_of_pos fun c hc => ?_
  simpa using fun h : c = '?' => hbefore (h ▸ hc)

/-- Whatever the address and the name, what lies below the name has its segments at the end, unless
one of them ends the path before. -/
theorem segments_below {a : Address} {before : List Char} (ha : a.base.resource = before ++ ['/'])
    {name : String} (hn : name ≠ "") :
    ∃ (base : List String) (ends : Bool), ∀ segments url, (∀ s ∈ segments, IsClear s) →
      a.target (reference name segments) = .ok url →
      Engine.segments (String.ofList url.path) =
        if ends then base else base ++ meanings segments := by
  have hn' : name.toList ≠ [] := fun h => hn (String.toList_eq_nil_iff.1 h)
  obtain ⟨path, pathEnds, hpath⟩ := path_append_clear hn'
  let resolved (cs : List Char) :=
    meanings (seen (!a.base.scheme.isEmpty || a.base.hasAuthority) cs)
  have htarget : ∀ segments url, (∀ s ∈ segments, IsClear s) →
      a.target (reference name segments) = .ok url → ∃ r : Url, '?' ∉ r.path ∧
        r.path = (if pathEnds then path else path ++ render segments) ∧
        Engine.segments (String.ofList url.path) = resolved
          ((a.base.resource ++ r.resource.dropWhile (· == '/')).takeWhile
            (! ['?'].contains ·)) := by
    intro segments url hs h
    rw [target, reference, String.toList_ofList] at h
    rcases hr : parse? ('/' :: (name.toList ++ render segments)) with _ | r <;> rw [hr] at h
    · cases h
    obtain ⟨hscheme, -, hnormal⟩ := parse?_slash hr
    have hrelative : r.isAbsolute = false := by simp [isAbsolute, hscheme]
    dsimp only at h
    rw [hrelative, if_neg Bool.false_ne_true] at h
    split at h
    · rename_i v hv
      cases h
      refine ⟨r, hnormal ▸ not_mem_encodePath (by decide), hpath segments r hs hr, ?_⟩
      rw [eq_of_withResource? hv]
      exact segments_normalPath _ _ _
    · cases h
  by_cases hmark : '?' ∈ a.base.resource
  · -- the query of the address takes the rest to itself
    refine ⟨resolved (a.base.resource.takeWhile (! ['?'].contains ·)), true,
      fun segments url hs h => ?_⟩
    obtain ⟨r, -, -, hsegments⟩ := htarget segments url hs h
    rw [hsegments, if_pos rfl, takeWhile_append_of_mem hmark (by simp)]
  have hresolved : ∀ segments url, (∀ s ∈ segments, IsClear s) →
      a.target (reference name segments) = .ok url →
      Engine.segments (String.ofList url.path) = resolved (a.base.resource ++
        (if pathEnds then path else path ++ render segments).dropWhile (· == '/')) := by
    intro segments url hs h
    obtain ⟨r, hr, hrpath, hsegments⟩ := htarget segments url hs h
    rw [hsegments, takeWhile_append_resource hmark hr, hrpath]
  cases pathEnds with
  | true => exact ⟨resolved (a.base.resource ++ path.dropWhile (· == '/')), true, hresolved⟩
  | false =>
    simp only [Bool.false_eq_true, if_false, List.dropWhile_append] at hresolved
    by_cases hdrop : (path.dropWhile (· == '/')).isEmpty = true
    · -- the name leaves nothing but slashes
      refine ⟨resolved before, false, fun segments url hs h => ?_⟩
      rw [hresolved segments url hs h, if_pos hdrop, ha, List.append_assoc,
        if_neg Bool.false_ne_true]
      exact (congrArg meanings (seen_append_slashes hs _ before)).trans List.map_append
    · refine ⟨resolved (a.base.resource ++ path.dropWhile (· == '/')), false,
        fun segments url hs h => ?_⟩
      rw [hresolved segments url hs h, if_neg hdrop, ← List.append_assoc,
        if_neg Bool.false_ne_true]
      exact (congrArg meanings (seen_append_render hs _ _)).trans List.map_append

/-- Below the name clear segments lead below the index, whatever address they are put behind. -/
def PointsTo (a : Address) (name index : String) : Prop :=
  ∀ segments url, (∀ s ∈ segments, IsClear s) → a.target (reference name segments) = .ok url →
    Engine.segments (String.ofList url.path) = index :: meanings segments

namespace PointsTo

variable {a : Address} {name index : String} {url : Url}

theorem nil (h : a.PointsTo name index) (ht : a.target (reference name []) = .ok url) :
    Engine.segments (String.ofList url.path) = [index] := h [] url (fun _ h => nomatch h) ht

theorem word (h : a.PointsTo name index) {word : String} (hw : IsWord word)
    (ht : a.target (reference name [word.toList]) = .ok url) :
    Engine.segments (String.ofList url.path) = [index, word] := by
  rw [h _ url (fun s hs => List.mem_singleton.1 hs ▸ hw.isClear) ht, meanings_word hw]

theorem segment (h : a.PointsTo name index) {word t : String} (hw : IsWord word)
    (hid : IsSegment t)
    (ht : a.target (reference name [word.toList, (Percent.segment t).toList]) = .ok url) :
    Engine.segments (String.ofList url.path) = [index, word, t] := by
  rw [h _ url (isClear_word_segment hw hid) ht, meanings_segment hw]

end PointsTo

end Address

/-- The URL of a backend has a slash at its end. -/
theorem Settings.resource_of_endpoint? {s : Settings} {b : Backend} {e : Endpoint}
    (h : s.endpoint? b = some e) : ∃ before, e.address.base.resource = before ++ ['/'] := by
  obtain ⟨a, ha, rfl⟩ := Option.map_eq_some_iff.1 h
  exact Address.resource_of_ofUrl? ha

end ContentDepot
