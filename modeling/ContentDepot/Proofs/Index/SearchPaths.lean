import ContentDepot.Proofs.Exchange.Prefixes
import ContentDepot.Proofs.Index.Writing

/-!
# The words below a name

Whatever a name is made of, a word of the engine comes at the end of the path
below it (`Url.parse?_word`), so which words can be asked for is a matter of their
length (`Address.target_word_iff`). A name under which documents are written and
that is refreshed can therefore be searched (`MetadataIndex.target_search_of_refresh`),
and it can be asked for without a word (`MetadataIndex.target_name_of_refresh`).
-/

namespace ContentDepot

open Text Text.DotSegments

namespace Text.DotSegments

theorem intercalate_concat (sep : List Char) (segments : List (List Char)) (s : List Char) :
    sep.intercalate (segments ++ [s]) = sep.intercalate (segments ++ [[]]) ++ s := by
  induction segments with
  | nil => simp
  | cons t ts ih =>
    obtain ⟨u, us, hu⟩ := List.exists_cons_of_ne_nil (l := ts ++ [s]) (by simp)
    obtain ⟨u', us', hu'⟩ := List.exists_cons_of_ne_nil (l := ts ++ [[]]) (by simp)
    rw [List.cons_append, List.cons_append, hu, hu', List.intercalate_cons_cons,
      List.intercalate_cons_cons, ← hu, ← hu', ih]
    simp

theorem splitOn_append_segment (path : List Char) {s : List Char} (hs : '/' ∉ s) :
    (path ++ '/' :: s).splitOn '/' = path.splitOn '/' ++ [s] := by
  have h : (path ++ render [s]).splitOn '/' = path.splitOn '/' ++ [s] :=
    splitOn_append_render (by simpa using hs) path
  rwa [show render [s] = '/' :: s by simp [render]] at h

theorem any_isDots_concat (segments : List (List Char)) {s : List Char} (hd : isDots s = false) :
    (segments ++ [s]).any isDots = segments.any isDots := by
  rw [List.any_append, List.any_cons, hd, List.any_nil, Bool.or_false, Bool.or_false]

theorem keep_of_plain (kept : List (List Char)) {s : List Char} (hd : isDots s = false) :
    keep kept s = kept ++ [s] := by
  have hplain : ∀ t ∈ [s], isDots t = false := by simpa using hd
  exact foldl_keep_of_plain hplain kept

/-- What is left of a path does not depend on a segment at its end that is no dots. -/
theorem exists_remove_concat (path : List Char) :
    ∃ before, ∀ s, '/' ∉ s → isDots s = false → remove (path ++ '/' :: s) = before ++ s := by
  cases hdots : (path.splitOn '/').any isDots with
  | true =>
    refine ⟨['/'].intercalate ((path.splitOn '/').foldl keep [] ++ [[]]), fun s hs hd => ?_⟩
    rw [remove, splitOn_append_segment path hs, any_isDots_concat _ hd, hdots, if_pos rfl,
      List.foldl_append, List.foldl_cons, List.foldl_nil, keep_of_plain _ hd, intercalate_concat]
  | false =>
    refine ⟨path ++ ['/'], fun s hs hd => ?_⟩
    rw [remove, splitOn_append_segment path hs, any_isDots_concat _ hd, hdots,
      if_neg Bool.false_ne_true, List.append_assoc]
    rfl

/-- A path goes on as it was with one more segment at its end that is no dots. -/
theorem exists_remove_append (path : List Char) {s : List Char} (hs : '/' ∉ s)
    (hd : isDots s = false) : ∃ more, remove (path ++ '/' :: s) = remove path ++ more := by
  simp only [remove, splitOn_append_segment path hs, any_isDots_concat _ hd]
  split
  · rw [List.foldl_append, List.foldl_cons, List.foldl_nil, keep_of_plain _ hd]
    rcases (path.splitOn '/').foldl keep [] with _ | ⟨t, ts⟩
    · exact ⟨s, by simp⟩
    · refine ⟨render [s], ?_⟩
      rw [List.cons_append, intercalate_cons, intercalate_cons, List.append_assoc]
      exact congrArg (t ++ ·) List.flatMap_append
  · exact ⟨'/' :: s, rfl⟩

end Text.DotSegments

namespace Url

variable {name : List Char}

theorem encodePath_word {w : String} (hw : IsWord w) : encodePath w.toList = w.toList :=
  Percent.escapeUnless_of_kept fun c hc => (hw.plain c hc).1

theorem admitsPath_word (hasAuthority : Bool) (path : List Char) {w : String} (hw : IsWord w) :
    admitsPath false hasAuthority (path ++ '/' :: w.toList) =
      admitsPath false hasAuthority (path ++ ['/', '_']) := by
  obtain ⟨c, cs, hc⟩ := List.exists_cons_of_ne_nil hw.ne_nil
  have hslash : ('/' == c) = false := by
    rw [beq_eq_false_iff_ne]
    rintro rfl
    exact (hw.plain '/' (hc ▸ List.mem_cons_self ..)).2 (by decide)
  rw [hc]
  match path with
  | [] => simp [admitsPath, List.isPrefixOf, hslash]
  | [d] => simp [admitsPath, List.isPrefixOf]
  | d :: d' :: ds => simp [admitsPath, List.isPrefixOf]

theorem splitAtAny_of_not_mem {marks cs : List Char} (h : ∀ c ∈ cs, c ∉ marks) :
    splitAtAny marks cs = (cs, []) := by
  have hall : ∀ c ∈ cs, (! marks.contains c) = true := fun c hc => by simpa using h c hc
  rw [splitAtAny, List.takeWhile_eq_self_iff.2 hall, List.dropWhile_eq_nil_iff.2 hall]

theorem not_mark_of_word {path : List Char} (hm : ∀ c ∈ path, c ∉ ['?', '#']) {w : String}
    (hw : IsWord w) : ∀ c ∈ path ++ '/' :: w.toList, c ∉ ['?', '#'] := by
  intro c hc
  rcases List.mem_append.1 hc with hc | hc
  · exact hm c hc
  · rcases List.mem_cons.1 hc with rfl | hc
    · decide
    · exact fun hmark => not_mark (hw.plain c hc).1 (fun h => (hw.plain c hc).2 (by simp [h]))
        (List.mem_cons_of_mem _ hmark)

/-- Below a name of which nothing is cut off a word comes at the end of the path. -/
theorem parse?_word (hn : name ≠ [])
    (hm : ∀ c ∈ (splitAuthority ('/' :: name)).2, c ∉ ['?', '#']) :
    ∃ (found : Option Url) (before : List Char),
      (∀ u, found = some u → u.query = none) ∧
      ∀ w, IsWord w → parse? ('/' :: (name ++ '/' :: w.toList)) =
        if isRefused ('/' :: (name ++ '/' :: w.toList)) then none
        else found.map fun u => { u with path := encodePath (before ++ w.toList) } := by
  have hauth : ∀ w : String, splitAuthority ('/' :: (name ++ '/' :: w.toList)) =
      ((splitAuthority ('/' :: name)).1, (splitAuthority ('/' :: name)).2 ++ '/' :: w.toList) :=
    fun w => splitAuthority_append hn (.inr rfl)
  generalize (splitAuthority ('/' :: name)).1 = authority at hauth
  generalize (splitAuthority ('/' :: name)).2 = path at hauth hm
  have hpath : ∀ w, IsWord w →
      splitAtAny ['?', '#'] (path ++ '/' :: w.toList) = (path ++ '/' :: w.toList, []) :=
    fun w hw => splitAtAny_of_not_mem (not_mark_of_word hm hw)
  obtain ⟨before, hbefore⟩ : ∃ before, ∀ w, IsWord w →
      (if textNames authority then remove (path ++ '/' :: w.toList) else path ++ '/' :: w.toList) =
        before ++ w.toList := by
    cases textNames authority with
    | true =>
      obtain ⟨before, h⟩ := exists_remove_concat path
      exact ⟨before, fun w hw => h _ (fun hs => (hw.plain _ hs).2 (by decide)) hw.not_dots⟩
    | false => exact ⟨path ++ ['/'], fun w hw => by simp⟩
  rcases hport : port? [] (splitHost (splitUserInfo authority).2).2 with _ | port
  · refine ⟨none, before, nofun, fun w hw => ?_⟩
    simp only [parse?, splitScheme_slash, hauth, hpath w hw, hport]
    simp
  · refine ⟨if !Host.isValid (splitHost (splitUserInfo authority).2).1 ||
        !admitsPath false (textNames authority) (path ++ ['/', '_']) then none
      else some ⟨[], (splitUserInfo authority).1,
        (splitHost (splitUserInfo authority).2).1.map Char.toLower, port, [], none, none⟩,
      before, fun u hu => ?_, fun w hw => ?_⟩
    · split at hu <;> cases hu
      rfl
    · have hnames : namesAuthority (splitUserInfo authority).1
          (splitHost (splitUserInfo authority).2).1 port = textNames authority := by
        rw [textNames, hport]
        rfl
      simp only [parse?, splitScheme_slash, hauth, hpath w hw, hport, Option.bind_eq_bind,
        Option.bind_some, List.isEmpty_nil, Bool.not_true, hnames, admitsPath_word _ _ hw,
        normalPath, Bool.false_or, hbefore w hw]
      split
      · rfl
      · split <;> rfl

/-- A path that is admitted with a word at its end is admitted without it. -/
theorem admitsPath_of_word {hasAuthority : Bool} {path : List Char} {w : String} (hw : IsWord w)
    (h : admitsPath false hasAuthority (path ++ '/' :: w.toList) = true) :
    admitsPath false hasAuthority path = true := by
  rw [admitsPath_word hasAuthority path hw] at h
  cases hasAuthority <;>
  · rcases path with _ | ⟨d, _ | ⟨d', ds⟩⟩
    · simp [admitsPath]
    · simp_all [admitsPath, List.isPrefixOf]
    · simpa [admitsPath, List.isPrefixOf] using h

theorem isControl_of_word {w : String} (hw : IsWord w) : w.toList.any isControl = false := by
  rw [List.any_eq_false]
  exact fun c hc => by simp [isControl_of_isPathChar (hw.plain c hc).1]

theorem isRefused_word (name : List Char) {w : String} (hw : IsWord w) :
    isRefused ('/' :: (name ++ '/' :: w.toList)) =
      (decide (maxLength < name.length + 2 + w.toList.length) || name.any isControl) := by
  have hslash : isControl '/' = false := by decide
  have hlength : ('/' :: (name ++ '/' :: w.toList)).length = name.length + 2 + w.toList.length := by
    simp only [List.length_cons, List.length_append]
    omega
  simp only [isRefused, hlength, List.any_cons, List.any_append, hslash, isControl_of_word hw,
    Bool.or_false, Bool.false_or]

/-- Where a word can be read below a name of which nothing is cut off, the name alone can be read,
and the path of both begins with the path of the name. -/
theorem exists_parse?_name (hn : name ≠ [])
    (hm : ∀ c ∈ (splitAuthority ('/' :: name)).2, c ∉ ['?', '#']) {w : String} (hw : IsWord w)
    {u : Url} (h : parse? ('/' :: (name ++ '/' :: w.toList)) = some u) :
    ∃ (v : Url) (more : List Char), parse? ('/' :: name) = some v ∧ v.query = none ∧
      u.query = none ∧ u.path = v.path ++ more := by
  have hauth : splitAuthority ('/' :: (name ++ '/' :: w.toList)) =
      ((splitAuthority ('/' :: name)).1, (splitAuthority ('/' :: name)).2 ++ '/' :: w.toList) :=
    splitAuthority_append hn (.inr rfl)
  rcases hname : splitAuthority ('/' :: name) with ⟨authority, path⟩
  rw [hname] at hauth hm
  simp only [parse?, isRefused_word name hw, splitScheme_slash, hauth,
    splitAtAny_of_not_mem (not_mark_of_word hm hw), List.isEmpty_nil, Bool.not_true] at h
  split at h
  · cases h
  rename_i hrefused
  simp only [Option.pure_def, Option.bind_eq_bind, Option.bind_eq_some_iff] at h
  obtain ⟨port, hport, h⟩ := h
  split at h
  · cases h
  rename_i hparts
  cases h
  generalize hnames : namesAuthority _ _ port = names at hparts ⊢
  rw [Bool.or_eq_true, not_or, Bool.not_eq_true, Bool.not_eq_false', Bool.not_eq_true,
    Bool.not_eq_false'] at hparts
  have hread : isRefused ('/' :: name) = false := by
    rw [Bool.not_eq_true, Bool.or_eq_false_iff, decide_eq_false_iff_not] at hrefused
    have hslash : isControl '/' = false := by decide
    rw [isRefused, List.any_cons, hslash, hrefused.2, Bool.or_self, Bool.or_false,
      decide_eq_false_iff_not, List.length_cons]
    omega
  obtain ⟨more, hmore⟩ : ∃ more, normalPath false names (path ++ '/' :: w.toList) =
      normalPath false names path ++ more := by
    cases names with
    | true =>
      obtain ⟨more, h⟩ := exists_remove_append path
        (fun hs => (hw.plain _ hs).2 (by decide)) hw.not_dots
      exact ⟨encodePath more, (congrArg encodePath h).trans (encodePath_append ..)⟩
    | false => exact ⟨encodePath ('/' :: w.toList), encodePath_append ..⟩
  refine ⟨⟨[], (splitUserInfo authority).1, (splitHost (splitUserInfo authority).2).1.map
    Char.toLower, port, normalPath false names path, none, none⟩, more, ?_, rfl, rfl, hmore⟩
  simp only [parse?, hread, splitScheme_slash, hname, splitAtAny_of_not_mem hm, hport, hnames,
    hparts.1, admitsPath_of_word hw hparts.2, List.isEmpty_nil, Bool.not_true, Option.bind_eq_bind,
    Option.bind_some, Bool.or_self, Bool.false_eq_true, if_false]
  rfl

/-- The slashes before a word are its own or come from what is before it. -/
theorem dropSlashes_word (before : List Char) {w : String} (hw : IsWord w) :
    (encodePath (before ++ w.toList)).dropWhile (· == '/') =
      (encodePath before).dropWhile (· == '/') ++ w.toList := by
  obtain ⟨c, cs, hc⟩ := List.exists_cons_of_ne_nil hw.ne_nil
  have hslash : ¬ (c == '/') = true := by
    rw [beq_iff_eq]
    rintro rfl
    exact (hw.plain '/' (hc ▸ List.mem_cons_self ..)).2 (by decide)
  rw [encodePath_append, encodePath_word hw, List.dropWhile_append]
  split
  · rename_i hempty
    rw [List.isEmpty_iff.1 hempty, hc,
      List.dropWhile_cons_of_neg (p := (· == '/')) hslash]
    rfl
  · rfl

/-- A path that is escaped can be put in the place of the root unless it is too long. -/
theorem withResource?_escaped {u : Url} (hu : u.scheme ≠ []) {path : List Char}
    (hp : ∀ c ∈ path, isPathChar c = true) :
    (u.withResource? ('/' :: path)).isSome = decide (path.length + 1 ≤ maxLength) := by
  have hquestion : '?' ∉ path := fun h => absurd (hp _ h) (by decide)
  have hcontrol : ('/' :: path).any isControl = false := by
    rw [List.any_eq_false]
    intro c hc
    rcases List.mem_cons.1 hc with rfl | hc
    · decide
    · simp [isControl_of_isPathChar (hp c hc)]
  have hrefused : isRefused ('/' :: path) = decide (maxLength < path.length + 1) := by
    rw [isRefused, hcontrol, Bool.or_false, List.length_cons]
  by_cases hlong : maxLength < path.length + 1
  · rw [withResource?_refused hquestion (hrefused.trans (decide_eq_true hlong)),
      decide_eq_false (by omega)]
    rfl
  · rw [withResource?_plain hu hquestion (hrefused.trans (decide_eq_false hlong)),
      decide_eq_true (by omega)]
    rfl

end Url

namespace Address

open Url InMemory

variable {a : Address} {name : String}

theorem reference_word (name w : String) :
    reference name [w.toList] = String.ofList ('/' :: (name.toList ++ '/' :: w.toList)) := by
  simp [reference, render]

/-- A reference that is read without a query can be asked for unless its path is too long. -/
theorem target_iff_of_parse? (ha : a.base.IsRoot) {cs : List Char} {u : Url}
    (hu : parse? ('/' :: cs) = some u) (hq : u.query = none) :
    (∃ url, a.target (String.ofList ('/' :: cs)) = .ok url) ↔
      (u.path.dropWhile (· == '/')).length + 1 ≤ maxLength := by
  have hpath : ∀ c ∈ u.path.dropWhile (· == '/'), isPathChar c = true := by
    intro c hc
    rw [(parse?_slash hu).2.2, normalPath] at hc
    exact isPathChar_of_mem (List.dropWhile_subset _ hc)
  have hresource : u.resource.dropWhile (· == '/') = u.path.dropWhile (· == '/') := by
    simp only [resource, hq]
    cases u.path <;> rfl
  have hsome := withResource?_escaped ha.scheme hpath
  rw [target_slash ha hu, hresource, ← decide_eq_true_iff (p := _ ≤ _), ← hsome]
  cases a.base.withResource? ('/' :: u.path.dropWhile (· == '/')) <;> simp

/-- Of a name of which nothing is cut off, the words that can be asked for below it are those that
are not too long, if any can. -/
theorem target_word_iff (ha : a.base.IsRoot) (hn : name ≠ "")
    (hm : ∀ c ∈ (splitAuthority ('/' :: name.toList)).2, c ∉ ['?', '#']) :
    ∃ (admitted : Prop) (used : Nat), ∀ w, IsWord w →
      ((∃ url, a.target (reference name [w.toList]) = .ok url) ↔
        admitted ∧ used + w.toList.length ≤ maxLength) := by
  have hn' : name.toList ≠ [] := fun h => hn (String.toList_eq_nil_iff.1 h)
  obtain ⟨found, before, hquery, hparse⟩ := parse?_word hn' hm
  refine ⟨found.isSome = true ∧ name.toList.any isControl = false,
    max (name.toList.length + 2) (((encodePath before).dropWhile (· == '/')).length + 1),
    fun w hw => ?_⟩
  specialize hparse w hw
  rw [isRefused_word _ hw] at hparse
  rw [reference_word]
  cases hrefused : (decide (maxLength < name.toList.length + 2 + w.toList.length) ||
      name.toList.any isControl) with
  | true =>
    rw [hrefused, if_pos rfl] at hparse
    have herror : ¬∃ url, a.target (String.ofList ('/' :: (name.toList ++ '/' :: w.toList))) =
        .ok url := by
      simp [target, hparse]
    refine iff_of_false herror fun h => ?_
    rw [h.1.2, Bool.or_false, decide_eq_true_eq] at hrefused
    omega
  | false =>
    rw [hrefused, if_neg Bool.false_ne_true] at hparse
    rw [Bool.or_eq_false_iff, decide_eq_false_iff_not] at hrefused
    cases found with
    | none => simp [target, hparse]
    | some u =>
      rw [target_iff_of_parse? ha hparse (hquery u rfl), dropSlashes_word before hw,
        List.length_append]
      simp only [Option.isSome_some, hrefused.2, and_self, true_and]
      omega

/-- A name of which nothing is cut off can be asked for if a word below it can. -/
theorem target_name_of_word (ha : a.base.IsRoot) (hn : name ≠ "")
    (hm : ∀ c ∈ (splitAuthority ('/' :: name.toList)).2, c ∉ ['?', '#']) {w : String}
    (hw : IsWord w) (ht : ∃ url, a.target (reference name [w.toList]) = .ok url) :
    ∃ url, a.target (reference name []) = .ok url := by
  have hn' : name.toList ≠ [] := fun h => hn (String.toList_eq_nil_iff.1 h)
  have hname : reference name [] = String.ofList ('/' :: name.toList) := by
    simp [reference, render]
  rw [reference_word] at ht
  obtain ⟨u, hu, -, -⟩ := path_of_target ha ht.choose_spec
  obtain ⟨v, more, hv, hvq, huq, hpath⟩ := exists_parse?_name hn' hm hw hu
  have hlength := (target_iff_of_parse? ha hu huq).1 ht
  rw [hname, target_iff_of_parse? ha hv hvq]
  rw [hpath, List.dropWhile_append] at hlength
  split at hlength
  · rename_i hempty
    rw [List.isEmpty_iff.1 hempty]
    decide
  · rw [List.length_append] at hlength
    omega

/-- A name that leads to an index is not cut off, once two things below it can be asked for. -/
theorem unmarked_of_leads {index : String} {segments segments' : List (List Char)} {url url' : Url}
    (ha : a.base.IsRoot) (hn : name ≠ "") (hl : a.Leads name index) (hs : Anchored segments)
    (hs' : Anchored segments') (ht : a.target (reference name segments) = .ok url)
    (ht' : a.target (reference name segments') = .ok url')
    (hne : meanings (segments.foldl push []) ≠ meanings (segments'.foldl push [])) :
    ∀ c ∈ (splitAuthority ('/' :: name.toList)).2, c ∉ ['?', '#'] := by
  by_contra hmark
  simp only [not_forall, not_not] at hmark
  obtain ⟨c, hc, hcm⟩ := hmark
  have hn' : name.toList ≠ [] := fun h => hn (String.toList_eq_nil_iff.1 h)
  obtain ⟨base, hbase⟩ := below_of_mark hn' ⟨c, hc, hcm⟩
  have hsame : Engine.segments (String.ofList url.path) =
      Engine.segments (String.ofList url'.path) := by
    rw [segments_of_target ha ht, segments_of_target ha ht', hbase, hbase]
  rw [hl _ _ hs ht, hl _ _ hs' ht'] at hsame
  exact hne (List.cons.inj hsame).2

end Address

namespace MetadataIndex

open Address

variable {e : Endpoint} {name index id : String}

/-- Nothing is cut off from a name under which a document can be asked for, and that can be
refreshed. -/
theorem unmarked_of_refresh (he : e.IsEngine) (hn : name ≠ "") (hl : e.address.Leads name index)
    (h0 : id ≠ "") (hid : Reaches e name id)
    (hr : ∃ url, e.address.target (reference name ["_refresh".toList]) = .ok url) :
    ∀ c ∈ (Url.splitAuthority ('/' :: name.toList)).2, c ∉ ['?', '#'] := by
  obtain ⟨h1, h2, url, hdocument⟩ := hid
  rw [documentPath_eq] at hdocument
  obtain ⟨url', hrefresh⟩ := hr
  refine unmarked_of_leads he.root hn hl (anchored_segment isWord_doc h0)
    (anchored_word isWord_refresh) hdocument hrefresh ?_
  rw [foldl_segment isWord_doc h1 h2, meanings_segment isWord_doc, foldl_word isWord_refresh,
    meanings_word isWord_refresh]
  simp

/-- A name under which a document can be asked for, and that can be refreshed, can be searched. -/
theorem target_search_of_refresh (he : e.IsEngine) (hn : name ≠ "")
    (hl : e.address.Leads name index) (h0 : id ≠ "") (hid : Reaches e name id)
    (hr : ∃ url, e.address.target (reference name ["_refresh".toList]) = .ok url) :
    ∃ url, e.address.target ("/" ++ name ++ "/_search") = .ok url := by
  obtain ⟨admitted, used, hiff⟩ :=
    target_word_iff he.root hn (unmarked_of_refresh he hn hl h0 hid hr)
  obtain ⟨hadmitted, hfits⟩ := (hiff _ isWord_refresh).1 hr
  rw [show "/" ++ name ++ "/_search" = reference name ["_search".toList] from
    path_word_eq name "_search"]
  refine (hiff _ isWord_search).2 ⟨hadmitted, Nat.le_trans (Nat.add_le_add_left ?_ used) hfits⟩
  decide

/-- A name under which a document can be asked for, and that can be refreshed, can be asked for
itself. -/
theorem target_name_of_refresh (he : e.IsEngine) (hn : name ≠ "")
    (hl : e.address.Leads name index) (h0 : id ≠ "") (hid : Reaches e name id)
    (hr : ∃ url, e.address.target (reference name ["_refresh".toList]) = .ok url) :
    ∃ url, e.address.target (reference name []) = .ok url :=
  target_name_of_word he.root hn (unmarked_of_refresh he hn hl h0 hid hr) isWord_refresh hr

end MetadataIndex

end ContentDepot
