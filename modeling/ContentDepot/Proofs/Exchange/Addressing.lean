import ContentDepot.InMemory.Engine
import ContentDepot.Index.Metadata
import ContentDepot.Proofs.Text.DotSegments
import Mathlib.Data.List.TakeWhile

/-!
# Where a request leads

A reference that begins with a slash is resolved against the root of a host.
What the host sees of its path are the segments that are left when the dots are
resolved and the escapes decoded:

* `target_slash`: the URL keeps the path of the reference, encoded;
* `segments_of_reference`: appended segments are seen after those of the name;
* `segments_of_plain`: a plain name is one segment (`IsPlainName`);
* `target_of_plain`: what lies below it has a URL exactly if the path fits.
-/

namespace ContentDepot

open Text

namespace Url

open Text.DotSegments

theorem isPathChar_of_isAlphanum {c : Char} (h : c.isAlphanum = true) : isPathChar c = true := by
  have hr : 0x20 < c.toNat ∧ c.toNat < 0x7f := by
    delta Char.isAlphanum Char.isAlpha Char.isUpper Char.isLower Char.isDigit at h
    simp only [Bool.or_eq_true, Bool.and_eq_true, decide_eq_true_eq, UInt32.le_iff_toNat_le,
      ge_iff_le] at h
    simp only [Char.toNat]
    simp only [Char.reduceVal, UInt32.reduceToNat] at h
    omega
  have hm : ['"', '#', '<', '>', '?', '`', '\x7b', '\x7d'].contains c = false := by
    rw [List.contains_eq_mem, decide_eq_false_iff_not]
    intro hc
    have ha : ∀ d ∈ ['"', '#', '<', '>', '?', '`', '\x7b', '\x7d'], d.isAlphanum = false :=
      forall_mem_of_all (by decide)
    rw [ha c hc] at h
    cases h
  simp only [isPathChar, isVisibleBut, hr, hm, decide_true, Bool.and_self, Bool.not_false]

theorem splitScheme_slash (cs : List Char) : splitScheme ('/' :: cs) = ([], '/' :: cs) := by
  simp [splitScheme]

/-- Whether the text of an authority names anything, where there is no scheme. -/
def textNames (authority : List Char) : Bool :=
  namesAuthority (splitUserInfo authority).1 (splitHost (splitUserInfo authority).2).1
    ((port? [] (splitHost (splitUserInfo authority).2).2).getD none)

/-- The text of the path of a reference that begins with a slash. -/
def pathText (cs : List Char) : List Char :=
  (splitAtAny ['?', '#'] (splitAuthority ('/' :: cs)).2).1

theorem parse?_slash {cs : List Char} {r : Url} (h : parse? ('/' :: cs) = some r) :
    r.scheme = [] ∧
      admitsPath false (textNames (splitAuthority ('/' :: cs)).1) (pathText cs) = true ∧
      r.path = normalPath false (textNames (splitAuthority ('/' :: cs)).1) (pathText cs) := by
  simp only [parse?, splitScheme_slash] at h
  split at h
  · cases h
  · simp only [List.isEmpty_nil, Bool.not_true, Option.pure_def, Option.bind_eq_bind,
      Bool.or_eq_true, Bool.not_eq_eq_eq_not, Option.bind_eq_some_iff] at h
    obtain ⟨port, hp, h⟩ := h
    split at h
    · cases h
    · rename_i hv
      cases h
      simp only [not_or, Bool.not_eq_false] at hv
      simp only [textNames, pathText, hp, Option.getD_some, List.map_nil, hv.2, and_self]

theorem not_mem_encodePath {cs : List Char} {c : Char} (h : isPathChar c = false) :
    c ∉ encodePath cs := by
  intro hc
  rcases Percent.mem_escapeUnless hc with ⟨-, hk⟩ | rfl | hk
  · simp [h] at hk
  · exact absurd h (by decide)
  · simp [isPathChar_of_isAlphanum hk] at h

/-- A URL that is the root of its host. -/
structure IsRoot (u : Url) : Prop where
  scheme : u.scheme ≠ []
  resource : u.resource = ['/']

theorem takeWhile_dropSlashes {path : List Char} (query : List Char) (hp : '?' ∉ path)
    (hq : query.head? = none ∨ query.head? = some '?') :
    ((path ++ query).dropWhile (· == '/')).takeWhile (! ['?'].contains ·) =
      path.dropWhile (· == '/') := by
  induction path with
  | nil =>
    cases query with
    | nil => rfl
    | cons c cs =>
      obtain rfl : c = '?' := by simpa using hq
      rfl
  | cons c cs ih =>
    rw [List.mem_cons, not_or] at hp
    by_cases hc : c = '/'
    · subst hc
      exact ih hp.2
    · have hall : ∀ d ∈ c :: cs, (! ['?'].contains d) = true := by
        intro d hd
        rcases List.mem_cons.1 hd with rfl | hd
        · simpa using Ne.symm hp.1
        · simpa using fun e : d = '?' => hp.2 (e ▸ hd)
      rw [List.cons_append, List.dropWhile_cons_of_neg (by simpa using hc),
        List.dropWhile_cons_of_neg (by simpa using hc), ← List.cons_append,
        List.takeWhile_append_of_pos hall]
      rcases query with _ | ⟨d, ds⟩
      · simp
      · obtain rfl : d = '?' := by simpa using hq
        simp

theorem takeWhile_resource (u : Url) (h : '?' ∉ u.path) :
    (u.resource.dropWhile (· == '/')).takeWhile (! ['?'].contains ·) =
      u.path.dropWhile (· == '/') := by
  have hp : '?' ∉ (if u.path.isEmpty then ['/'] else u.path) := by
    split
    · simp
    · exact h
  have hd : (if u.path.isEmpty then ['/'] else u.path).dropWhile (· == '/') =
      u.path.dropWhile (· == '/') := by
    cases u.path <;> rfl
  unfold resource
  rcases u.query with _ | q
  · have ht := takeWhile_dropSlashes [] hp (.inl rfl)
    rw [List.append_nil] at ht
    exact ht.trans hd
  · exact (takeWhile_dropSlashes ('?' :: q) hp (.inr rfl)).trans hd

/-- With another resource a URL leads elsewhere on the same host. -/
theorem withResource?_slash {u v : Url} (hu : u.scheme ≠ []) {cs : List Char}
    (h : u.withResource? ('/' :: cs) = some v) :
    v.scheme = u.scheme ∧
      v.path = encodePath (Text.DotSegments.remove ('/' :: cs.takeWhile (! ['?'].contains ·))) := by
  have hs : u.scheme.isEmpty = false := by simpa using hu
  have ht : ('/' :: cs).takeWhile (! ['?'].contains ·) =
      '/' :: cs.takeWhile (! ['?'].contains ·) := List.takeWhile_cons_of_pos (by decide)
  simp only [withResource?, splitAtAny, ht, hs, Bool.not_false] at h
  split at h
  · cases h
  · split at h
    · cases h
    · cases h
      simp only [normalPath, Bool.true_or, if_true, and_self]

theorem encodePath_eq_dot (s : List Char) :
    (encodePath s = ['.'] ↔ s = ['.']) ∧ (encodePath s = ['.', '.'] ↔ s = ['.', '.']) := by
  have hd : '.' ≠ '%' := by decide
  refine ⟨⟨fun h => ?_, by rintro rfl; rfl⟩, ⟨fun h => ?_, by rintro rfl; rfl⟩⟩
  · obtain ⟨t, rfl, ht⟩ := Percent.escapeUnless_eq_cons hd h
    rw [Percent.escapeUnless_eq_nil.1 ht]
  · obtain ⟨t, rfl, ht⟩ := Percent.escapeUnless_eq_cons hd h
    obtain ⟨t', rfl, ht'⟩ := Percent.escapeUnless_eq_cons hd ht
    rw [Percent.escapeUnless_eq_nil.1 ht']

theorem encodePath_append (cs ds : List Char) :
    encodePath (cs ++ ds) = encodePath cs ++ encodePath ds := List.flatMap_append

theorem isEmpty_encodePath (s : List Char) : (encodePath s).isEmpty = s.isEmpty := by
  rw [Bool.eq_iff_iff, List.isEmpty_iff, List.isEmpty_iff]
  exact Percent.escapeUnless_eq_nil

theorem splitOn_encodePath (cs : List Char) :
    (encodePath cs).splitOn '/' = (cs.splitOn '/').map encodePath :=
  Percent.splitOn_escapeUnless (by decide) cs

theorem isAlphanum_of_value? {c : Char} (h : (Hex.value? c).isSome) : c.isAlphanum = true := by
  simp only [Hex.value?, Bool.and_eq_true, decide_eq_true_eq, Char.le_def,
    UInt32.le_iff_toNat_le, Char.reduceVal, UInt32.reduceToNat] at h
  delta Char.isAlphanum Char.isAlpha Char.isUpper Char.isLower Char.isDigit
  simp only [Bool.or_eq_true, Bool.and_eq_true, decide_eq_true_eq, UInt32.le_iff_toNat_le,
    ge_iff_le, Char.reduceVal, UInt32.reduceToNat]
  repeat' split at h
  · omega
  · omega
  · omega
  · cases h

theorem decode_encodePath (cs : List Char) :
    Percent.decode (String.ofList (encodePath cs)) = Percent.decode (String.ofList cs) := by
  have hh : ∀ c, (Hex.value? c).isSome → isPathChar c = true := fun c h =>
    isPathChar_of_isAlphanum (isAlphanum_of_value? h)
  rw [Percent.decode, Percent.decode, String.toList_ofList, String.toList_ofList, encodePath,
    Percent.unescape_escapeUnless (by decide) hh]

/-- The segments below the root of the path of a reference that begins with a slash. -/
def below (cs : List Char) : List (List Char) :=
  visible ((if textNames (splitAuthority ('/' :: cs)).1 then remove (pathText cs)
    else pathText cs).splitOn '/')

theorem splitAtAny_append {marks : List Char} (cs : List Char) {tail : List Char}
    (ht : ∀ c ∈ tail.head?, c ∈ marks) :
    splitAtAny marks (cs ++ tail) = ((splitAtAny marks cs).1, (splitAtAny marks cs).2 ++ tail) := by
  induction cs with
  | nil =>
    rcases tail with _ | ⟨c, tail⟩
    · rfl
    · have hc : ¬ (!marks.contains c) = true := by simpa using ht c (by simp)
      simp only [List.nil_append, splitAtAny,
        List.takeWhile_cons_of_neg (p := (!marks.contains ·)) hc,
        List.dropWhile_cons_of_neg (p := (!marks.contains ·)) hc, List.takeWhile_nil,
        List.dropWhile_nil]
  | cons c cs ih =>
    simp only [splitAtAny, Prod.mk.injEq] at ih ⊢
    rw [List.cons_append, List.takeWhile_cons, List.takeWhile_cons, List.dropWhile_cons,
      List.dropWhile_cons]
    split
    · rw [ih.1, ih.2]; exact ⟨rfl, rfl⟩
    · exact ⟨rfl, rfl⟩

theorem splitAuthority_of_ne {c : Char} (hc : c ≠ '/') (cs : List Char) :
    splitAuthority ('/' :: c :: cs) = ([], '/' :: c :: cs) := by
  unfold splitAuthority
  split
  · rename_i h
    cases h
    exact absurd rfl hc
  · rfl

theorem splitAuthority_append {name tail : List Char} (hn : name ≠ [])
    (ht : tail.head? = none ∨ tail.head? = some '/') :
    splitAuthority ('/' :: (name ++ tail)) =
      ((splitAuthority ('/' :: name)).1, (splitAuthority ('/' :: name)).2 ++ tail) := by
  have hm : ∀ c ∈ tail.head?, c ∈ ['/', '?', '#'] := by
    intro c hc
    rcases ht with ht | ht <;> rw [ht] at hc
    · cases hc
    · cases hc; decide
  rcases name with _ | ⟨c, cs⟩
  · exact absurd rfl hn
  · by_cases hc : c = '/'
    · subst hc
      exact splitAtAny_append cs hm
    · rw [List.cons_append, splitAuthority_of_ne hc, splitAuthority_of_ne hc]
      rfl

/-- What is left of a reference after its authority begins with a mark. -/
theorem head?_splitAuthority (cs : List Char) :
    ∀ c ∈ (splitAuthority ('/' :: cs)).2.head?, c ∈ ['/', '?', '#'] := by
  intro c hc
  rcases cs with _ | ⟨d, ds⟩
  · cases hc; decide
  · by_cases hd : d = '/'
    · subst hd
      have hd := List.head?_dropWhile_not (! ['/', '?', '#'].contains ·) ds
      rw [show (ds.dropWhile (! ['/', '?', '#'].contains ·)).head? = some c from hc] at hd
      simpa only [Bool.not_eq_false', List.contains_iff_mem] using hd
    · rw [splitAuthority_of_ne hd] at hc
      cases hc; decide

/-- What comes behind an element that ends the taking is not taken. -/
theorem takeWhile_append_of_mem {α : Type} {p : α → Bool} {xs : List α} {x : α} (hx : x ∈ xs)
    (hp : p x = false) (ys : List α) : (xs ++ ys).takeWhile p = xs.takeWhile p := by
  refine (List.takeWhile_append ..).trans (if_neg fun hlength => ?_)
  have hall := List.takeWhile_eq_self_iff.1 ((List.takeWhile_prefix _).eq_of_length hlength) x hx
  rw [hp] at hall
  cases hall

/-- Where a name ends the path, it does so wherever the reference goes on. -/
theorem below_of_mark {name : List Char} (hn : name ≠ [])
    (hm : ∃ c ∈ (splitAuthority ('/' :: name)).2, c ∈ ['?', '#']) :
    ∃ base, ∀ segments, below (name ++ render segments) = base := by
  have hb : ∀ segments, splitAuthority ('/' :: (name ++ render segments)) =
      ((splitAuthority ('/' :: name)).1, (splitAuthority ('/' :: name)).2 ++ render segments) :=
    fun segments => splitAuthority_append hn (head?_render segments)
  generalize (splitAuthority ('/' :: name)).1 = authority at hb
  generalize (splitAuthority ('/' :: name)).2 = path at hb hm
  refine ⟨visible ((if textNames authority then remove (splitAtAny ['?', '#'] path).1
    else (splitAtAny ['?', '#'] path).1).splitOn '/'), fun segments => ?_⟩
  have ht : (splitAtAny ['?', '#'] (path ++ render segments)).1 =
      (splitAtAny ['?', '#'] path).1 := by
    obtain ⟨c, hc, hm⟩ := hm
    refine takeWhile_append_of_mem hc ?_ _
    simpa only [Bool.not_eq_false', List.contains_iff_mem] using hm
  simp only [below, pathText, hb, ht]

/-- A name leads to an index wherever the reference goes on, unless it ends the path before. -/
theorem below_append {name : List Char} (hn : name ≠ []) :
    ∃ (base : List (List Char)) (ends : Bool), ∀ segments, Anchored segments →
      below (name ++ render segments) =
        if ends then base else base ++ segments.foldl push [] := by
  by_cases hm : ∃ c ∈ (splitAuthority ('/' :: name)).2, c ∈ ['?', '#']
  · obtain ⟨base, hbase⟩ := below_of_mark hn hm
    exact ⟨base, true, fun segments _ => hbase segments⟩
  have hb : ∀ segments, splitAuthority ('/' :: (name ++ render segments)) =
      ((splitAuthority ('/' :: name)).1, (splitAuthority ('/' :: name)).2 ++ render segments) :=
    fun segments => splitAuthority_append hn (head?_render segments)
  have hh := head?_splitAuthority name
  generalize (splitAuthority ('/' :: name)).1 = authority at hb
  generalize (splitAuthority ('/' :: name)).2 = path at hb hh hm
  have hs : ∀ segments, Anchored segments →
      (splitAtAny ['?', '#'] (path ++ render segments)).1 = path ++ render segments := by
    intro segments h
    refine List.takeWhile_eq_self_iff.2 fun c hc => ?_
    have hno : c ∉ ['?', '#'] := by
      rcases List.mem_append.1 hc with hc | hc
      · exact fun hmark => hm ⟨c, hc, hmark⟩
      · exact fun hmark => h.not_mem_render hc hmark
    simpa using hno
  have hp : path.head? = none ∨ path.head? = some '/' := by
    rcases path with _ | ⟨c, cs⟩
    · exact .inl rfl
    · have hc := hh c rfl
      rcases List.mem_cons.1 hc with rfl | hc
      · exact .inr rfl
      · exact absurd ⟨c, List.mem_cons_self .., hc⟩ hm
  refine ⟨visible ((if textNames authority then remove path else path).splitOn '/'), false,
    fun segments h => ?_⟩
  simp only [below, pathText, hb, hs segments h]
  exact visible_append_render h _ hp (textNames authority)

theorem isControl_of_isPathChar {c : Char} (h : isPathChar c = true) : isControl c = false := by
  simp only [isPathChar, isVisibleBut, Bool.and_eq_true, decide_eq_true_eq] at h
  simp only [isControl, Bool.or_eq_false_iff, decide_eq_false_iff_not, beq_eq_false_iff_ne]
  omega

theorem isPathChar_of_mem {cs : List Char} {c : Char} (h : c ∈ encodePath cs) :
    isPathChar c = true := by
  by_contra hc
  exact not_mem_encodePath (by simpa using hc) h

/-- A reference of which nothing is cut off is a path. -/
theorem parse?_plain {c : Char} {cs : List Char} (hc : c ≠ '/')
    (hm : ∀ d ∈ c :: cs, d ∉ ['?', '#']) (hr : isRefused ('/' :: c :: cs) = false) :
    parse? ('/' :: c :: cs) =
      some ⟨[], [], [], none, encodePath ('/' :: c :: cs), none, none⟩ := by
  have hs : splitAtAny ['?', '#'] ('/' :: c :: cs) = ('/' :: c :: cs, []) := by
    have hall : ∀ d ∈ '/' :: c :: cs, (! ['?', '#'].contains d) = true := by
      intro d hd
      rcases List.mem_cons.1 hd with rfl | hd
      · decide
      · simpa using hm d hd
    rw [splitAtAny, List.takeWhile_eq_self_iff.2 hall, List.dropWhile_eq_nil_iff.2 hall]
  have hu : splitUserInfo [] = ([], []) := by decide
  have hh : splitHost [] = ([], []) := by decide
  have hp : port? [] [] = some none := rfl
  have hv : Host.isValid [] = true := by decide
  have ha : admitsPath false (namesAuthority [] [] none) ('/' :: c :: cs) = true := by
    simp [admitsPath, namesAuthority, List.isPrefixOf, Ne.symm hc]
  simp only [parse?, hr, splitScheme_slash, splitAuthority_of_ne hc, hs, hu, hh, hp, hv,
    List.isEmpty_nil, Bool.not_true, Option.bind_eq_bind, Option.bind_some, ha, Bool.or_self,
    Bool.false_eq_true, if_false]
  rfl

theorem splitAtAny_question {cs : List Char} (hq : '?' ∉ cs) :
    splitAtAny ['?'] ('/' :: cs) = ('/' :: cs, []) := by
  have hall : ∀ d ∈ '/' :: cs, (! ['?'].contains d) = true := by
    intro d hd
    rcases List.mem_cons.1 hd with rfl | hd
    · decide
    · simpa using fun e : d = '?' => hq (e ▸ hd)
  rw [splitAtAny, List.takeWhile_eq_self_iff.2 hall, List.dropWhile_eq_nil_iff.2 hall]

/-- A path that is refused gives no URL. -/
theorem withResource?_refused {u : Url} {cs : List Char} (hq : '?' ∉ cs)
    (hr : isRefused ('/' :: cs) = true) : u.withResource? ('/' :: cs) = none := by
  simp only [withResource?, splitAtAny_question hq, hr, Bool.true_or, if_true]
  rfl

/-- A path that is not refused can be put in the place of another after a scheme. -/
theorem withResource?_plain {u : Url} (hu : u.scheme ≠ []) {cs : List Char} (hq : '?' ∉ cs)
    (hr : isRefused ('/' :: cs) = false) :
    u.withResource? ('/' :: cs) = some { u with
      path := encodePath (Text.DotSegments.remove ('/' :: cs))
      query := none } := by
  have hs : u.scheme.isEmpty = false := by simpa using hu
  have ha : admitsPath true u.hasAuthority ('/' :: cs) = true := by
    unfold admitsPath
    split <;> rfl
  have hn : isRefused [] = false := by decide
  simp only [withResource?, splitAtAny_question hq, hs, afterMark?, Option.getD_none, hr, hn,
    Bool.or_self, ha, Bool.not_true, Bool.not_false, Bool.false_eq_true, if_false]
  rfl

end Url

namespace Address

open Url Text.DotSegments InMemory

/-- A reference that begins with a slash leads to the host of the address. -/
theorem target_slash {a : Address} (ha : a.base.IsRoot) {cs : List Char} {r : Url}
    (hr : Url.parse? ('/' :: cs) = some r) :
    a.target (String.ofList ('/' :: cs)) =
      match a.base.withResource? ('/' :: r.resource.dropWhile (· == '/')) with
      | some url => .ok url
      | none => .error .invalidAddress := by
  have hs : r.isAbsolute = false := by
    simp [Url.isAbsolute, (parse?_slash hr).1]
  simp only [target, String.toList_ofList, hr, hs, ha.resource, Bool.false_eq_true, if_false]
  rfl

theorem path_of_target {a : Address} (ha : a.base.IsRoot) {cs : List Char} {url : Url}
    (h : a.target (String.ofList ('/' :: cs)) = .ok url) :
    ∃ r, Url.parse? ('/' :: cs) = some r ∧ url.scheme = a.base.scheme ∧
      url.path = encodePath (remove ('/' :: r.path.dropWhile (· == '/'))) := by
  rcases hr : Url.parse? ('/' :: cs) with _ | r
  · simp [target, hr] at h
  rw [target_slash ha hr] at h
  have hq : '?' ∉ r.path := (parse?_slash hr).2.2 ▸ not_mem_encodePath (by decide)
  split at h
  · rename_i u hu
    cases h
    obtain ⟨hs, hp⟩ := withResource?_slash ha.scheme hu
    rw [takeWhile_resource r hq] at hp
    exact ⟨r, rfl, hs, hp⟩
  · cases h

/-- The path of a reference of which nothing is cut off. -/
theorem path_of_plain {a : Address} (ha : a.base.IsRoot) {c : Char} {cs : List Char} {url : Url}
    (hc : c ≠ '/') (hm : ∀ d ∈ c :: cs, d ∉ ['?', '#']) (hr : isRefused ('/' :: c :: cs) = false)
    (h : a.target (String.ofList ('/' :: c :: cs)) = .ok url) :
    url.path =
      encodePath (remove ('/' :: (encodePath ('/' :: c :: cs)).dropWhile (· == '/'))) := by
  obtain ⟨r, hparse, -, hp⟩ := path_of_target ha h
  rw [parse?_plain hc hm hr] at hparse
  cases hparse
  exact hp

/-- The segments of the request to which a reference leads. -/
theorem segments_of_target {a : Address} (ha : a.base.IsRoot) {cs : List Char} {url : Url}
    (h : a.target (String.ofList ('/' :: cs)) = .ok url) :
    Engine.segments (String.ofList url.path) =
      (below cs).map fun s => Percent.decode (String.ofList s) := by
  obtain ⟨r, hr, -, hp⟩ := path_of_target ha h
  have hsegments : ∀ path : List Char,
      ((remove ('/' :: path.dropWhile (· == '/'))).splitOn '/').filter (!·.isEmpty) =
        visible (path.splitOn '/') := by
    intro path
    rw [splitOn_remove, ← visible_dropSlashes]
    rfl
  have hpath : r.path = encodePath (if textNames (splitAuthority ('/' :: cs)).1
      then remove (pathText cs) else pathText cs) := by
    rw [(parse?_slash hr).2.2, normalPath, Bool.false_or]
  have hfilter : ∀ l : List (List Char), (l.map encodePath).filter (!·.isEmpty) =
      (l.filter (!·.isEmpty)).map encodePath := by
    intro l
    rw [List.filter_map]
    exact congrArg (fun p => (List.filter p l).map encodePath)
      (funext fun s => congrArg (!·) (isEmpty_encodePath s))
  rw [Engine.segments, String.toList_ofList, hp, splitOn_encodePath, hfilter, hsegments, hpath,
    splitOn_encodePath, visible_map encodePath_eq_dot isEmpty_encodePath, List.map_map,
    List.map_map, below]
  exact List.map_congr_left fun s _ => by
    simp only [Function.comp_apply, decode_encodePath]

/-- Whether a reference is not too long for a URL when it is escaped. -/
@[irreducible] def fits (relative : String) : Bool :=
  decide ((encodePath relative.toList).length ≤ maxLength)

theorem encodePath_slash (cs : List Char) : encodePath ('/' :: cs) = '/' :: encodePath cs :=
  Percent.escapeUnless_cons '/' cs

theorem dropWhile_encodePath {c : Char} (hc : c ≠ '/') (cs : List Char) :
    (encodePath (c :: cs)).dropWhile (· == '/') = encodePath (c :: cs) := by
  obtain ⟨d, ds, hd⟩ := List.exists_cons_of_ne_nil (l := encodePath (c :: cs))
    (fun h => List.cons_ne_nil _ _ (Percent.escapeUnless_eq_nil.1 h))
  rw [hd, List.dropWhile_cons_of_neg]
  intro h
  obtain rfl : d = '/' := by simpa using h
  obtain ⟨_, h', -⟩ := Percent.escapeUnless_eq_cons (by decide) hd
  cases h'
  exact hc rfl

/-- A reference without marks and controls leads somewhere exactly if it fits. -/
theorem target_plain {a : Address} (ha : a.base.IsRoot) {c : Char} {cs : List Char} (hc : c ≠ '/')
    (hm : ∀ d ∈ c :: cs, d ∉ ['?', '#']) (hn : ∀ d ∈ c :: cs, isControl d = false) :
    if fits (String.ofList ('/' :: c :: cs)) then
      ∃ url, a.target (String.ofList ('/' :: c :: cs)) = .ok url
    else a.target (String.ofList ('/' :: c :: cs)) = .error .invalidAddress := by
  have hlength : ('/' :: c :: cs).length ≤ (encodePath ('/' :: c :: cs)).length :=
    Percent.length_escapeUnless ('/' :: c :: cs)
  have hctl : ('/' :: c :: cs).any isControl = false := by
    rw [List.any_eq_false]
    intro d hd
    rcases List.mem_cons.1 hd with rfl | hd
    · decide
    · simp [hn d hd]
  have hctl' : (encodePath ('/' :: c :: cs)).any isControl = false := by
    rw [List.any_eq_false]
    exact fun d hd => by simp [isControl_of_isPathChar (isPathChar_of_mem hd)]
  simp only [fits, String.toList_ofList, decide_eq_true_eq]
  rcases hr : isRefused ('/' :: c :: cs) with _ | _
  · have hres : (⟨[], [], [], none, encodePath ('/' :: c :: cs), none, none⟩ : Url).resource =
        '/' :: encodePath (c :: cs) := by
      rw [encodePath_slash]; rfl
    rw [target_slash ha (parse?_plain hc hm hr), hres, List.dropWhile_cons_of_pos (by rfl),
      dropWhile_encodePath hc, ← encodePath_slash]
    split
    · rename_i hl
      have hr' : isRefused (encodePath ('/' :: c :: cs)) = false := by
        rw [isRefused, hctl', Bool.or_false, decide_eq_false_iff_not]
        omega
      rw [encodePath_slash] at hr' ⊢
      rw [withResource?_plain ha.scheme (not_mem_encodePath (by decide)) hr']
      exact ⟨_, rfl⟩
    · rename_i hl
      have hr' : isRefused (encodePath ('/' :: c :: cs)) = true := by
        rw [isRefused, hctl', Bool.or_false, decide_eq_true_eq]
        omega
      rw [encodePath_slash] at hr' ⊢
      rw [withResource?_refused (not_mem_encodePath (by decide)) hr']
  · rw [if_neg]
    · simp [target, Url.parse?, hr]
    · rw [isRefused, hctl, Bool.or_false, decide_eq_true_eq] at hr
      omega

/-- The reference to what lies below a name. -/
def reference (name : String) (segments : List (List Char)) : String :=
  String.ofList ('/' :: (name.toList ++ render segments))

/-- The texts that the segments of a path stand for. -/
def meanings (segments : List (List Char)) : List String :=
  segments.map fun s => Percent.decode (String.ofList s)

/-- Whatever the name, what lies below it has its segments at the end, unless the name ends the
path before. -/
theorem segments_of_reference {a : Address} (ha : a.base.IsRoot) {name : String} (hn : name ≠ "") :
    ∃ (base : List String) (ends : Bool), ∀ segments url, Anchored segments →
      a.target (reference name segments) = .ok url →
      Engine.segments (String.ofList url.path) =
        if ends then base else base ++ meanings (segments.foldl push []) := by
  have hn' : name.toList ≠ [] := fun h => hn (String.toList_eq_nil_iff.1 h)
  obtain ⟨base, ends, hb⟩ := below_append hn'
  refine ⟨meanings base, ends, fun segments url hs h => ?_⟩
  rw [segments_of_target ha h, hb segments hs]
  cases ends
  · exact List.map_append
  · rfl

/-- A name that is a path segment as it stands. -/
structure IsPlainName (name : String) : Prop where
  ne_empty : name ≠ ""
  ne_dot : name ≠ "."
  ne_dots : name ≠ ".."
  no_mark : ∀ c ∈ name.toList, c ∉ ['/', '?', '#', '%']
  no_control : ∀ c ∈ name.toList, isControl c = false

instance (name : String) : Decidable (IsPlainName name) :=
  decidable_of_iff (name ≠ "" ∧ name ≠ "." ∧ name ≠ ".." ∧
      (name.toList.all fun c => decide (c ∉ ['/', '?', '#', '%'])) = true ∧
      (name.toList.all fun c => decide (isControl c = false)) = true)
    ⟨fun ⟨h0, h1, h2, hm, hc⟩ => ⟨h0, h1, h2, forall_mem_of_all hm, forall_mem_of_all hc⟩,
      fun h => ⟨h.ne_empty, h.ne_dot, h.ne_dots,
        List.all_eq_true.2 fun c hc => decide_eq_true (h.no_mark c hc),
        List.all_eq_true.2 fun c hc => decide_eq_true (h.no_control c hc)⟩⟩

theorem IsPlainName.exists_cons {name : String} (hn : IsPlainName name) :
    ∃ c cs, name.toList = c :: cs ∧ c ≠ '/' := by
  have hne : name.toList ≠ [] := fun h => hn.ne_empty (String.toList_eq_nil_iff.1 h)
  obtain ⟨c, cs, h⟩ := List.exists_cons_of_ne_nil hne
  exact ⟨c, cs, h, fun hc => hn.no_mark c (h ▸ List.mem_cons_self ..) (hc ▸ List.mem_cons_self ..)⟩

theorem IsPlainName.no_end {name : String} (hn : IsPlainName name) {segments : List (List Char)}
    (hs : Anchored segments) : ∀ c ∈ name.toList ++ render segments, c ∉ ['?', '#'] := by
  intro c hc hm
  rcases List.mem_append.1 hc with hc | hc
  · refine hn.no_mark c hc ?_
    simp only [List.mem_cons, List.not_mem_nil, or_false] at hm ⊢
    exact .inr (hm.imp_right .inl)
  · exact hs.not_mem_render hc hm

theorem IsPlainName.visible {name : String} (hn : IsPlainName name) :
    DotSegments.visible (('/' :: name.toList).splitOn '/') = [name.toList] := by
  have hslash : '/' ∉ name.toList := fun h => hn.no_mark _ h (by decide)
  have hempty : name.toList ≠ [] := fun h => hn.ne_empty (String.toList_eq_nil_iff.1 h)
  have hdots : isDots name.toList = false := by
    simp only [isDots, Bool.or_eq_false_iff, beq_eq_false_iff_ne]
    exact ⟨fun h => hn.ne_dot (String.toList_inj.1 h), fun h => hn.ne_dots (String.toList_inj.1 h)⟩
  have hsplit := splitOn_append_slash [] name.toList
  have hname := Percent.splitOn_of_not_mem hslash
  rw [List.nil_append] at hsplit
  rw [hsplit, hname]
  simp [DotSegments.visible, push_of_plain hdots, hempty]

/-- A plain name leads to the index of that name. -/
theorem segments_of_plain {a : Address} (ha : a.base.IsRoot) {name : String}
    (hn : IsPlainName name) {segments : List (List Char)} (hs : Anchored segments) {url : Url}
    (h : a.target (reference name segments) = .ok url) :
    Engine.segments (String.ofList url.path) = name :: meanings (segments.foldl push []) := by
  obtain ⟨c, cs, hcons, hc⟩ := hn.exists_cons
  have hauth : splitAuthority ('/' :: (name.toList ++ render segments)) =
      ([], '/' :: (name.toList ++ render segments)) := by
    rw [hcons, List.cons_append, splitAuthority_of_ne hc]
  have hpath : pathText (name.toList ++ render segments) =
      '/' :: (name.toList ++ render segments) := by
    rw [pathText, hauth]
    refine List.takeWhile_eq_self_iff.2 fun d hd => ?_
    rcases List.mem_cons.1 hd with rfl | hd
    · decide
    · simpa using hn.no_end hs d hd
  have hbelow : below (name.toList ++ render segments) =
      name.toList :: segments.foldl push [] := by
    rw [below, hauth, hpath]
    have := visible_append_render hs ('/' :: name.toList) (.inr rfl) false
    simp only [Bool.false_eq_true, if_false, hn.visible] at this
    exact this
  have hmean : Percent.decode (String.ofList name.toList) = name := by
    rw [String.ofList_toList]
    exact Percent.decode_plain fun h => hn.no_mark _ h (by decide)
  rw [segments_of_target ha h, hbelow, List.map_cons, hmean]
  rfl

/-- What lies below a plain name can be asked for exactly if the reference fits. -/
theorem target_of_plain {a : Address} (ha : a.base.IsRoot) {name : String}
    (hn : IsPlainName name) {segments : List (List Char)} (hs : Anchored segments)
    (hc : ∀ s ∈ segments, ∀ c ∈ s, isControl c = false) :
    if fits (reference name segments) then ∃ url, a.target (reference name segments) = .ok url
    else a.target (reference name segments) = .error .invalidAddress := by
  obtain ⟨c, cs, hcons, hslash⟩ := hn.exists_cons
  have hctl : ∀ d ∈ name.toList ++ render segments, isControl d = false := by
    intro d hd
    rcases List.mem_append.1 hd with hd | hd
    · exact hn.no_control d hd
    · obtain ⟨s, hs, hd⟩ := List.mem_flatMap.1 hd
      rcases List.mem_cons.1 hd with rfl | hd
      · decide
      · exact hc s hs d hd
  have hend := hn.no_end hs
  rw [reference]
  rw [hcons, List.cons_append] at hctl hend ⊢
  exact target_plain ha hslash hend hctl

end Address

end ContentDepot
