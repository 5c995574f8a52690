import ContentDepot.Api.Route
import ContentDepot.Proofs.Api.Templates
import ContentDepot.Proofs.Lists
import ContentDepot.Proofs.Text.Percent

/-!
# Where a request leads

Below a root that holds no parameters of its own (`ofSettings_of_plain`) a path is
compared with the paths of the targets alone (`aimsAt_below`). Of the two targets
that a path below `/metadata/` may have, the one with an identifier gets it if no
slash is in it; a slash is read from its escape before the path is compared:

* `Request.path_of_below`: what the target of a request below a root stands for;
* `resolve_index`, `resolve_search`: a request to index a content, and one to search an index;
* `resolve_metadata`: a request for metadata under an identifier without a slash;
* `resolve_metadata_of_slash`: one under an identifier with a slash does not lead there.
-/

namespace ContentDepot.Api

open Text

/-! ## Targets of requests -/

namespace Request

/-- Whether a character of a root is written as it is. -/
def isRootChar (c : Char) : Bool := Percent.isUnreserved c || c == '/'

/-- The target below a root whose parts are each a segment of their own. -/
def below (root : String) (parts : List String) : String :=
  String.ofList (Percent.escapeUnless isRootChar root.toList ++
    parts.flatMap fun part => '/' :: Percent.escapeUnless Percent.isUnreserved part.toList)

theorem unescape_parts (parts : List String) :
    Percent.unescape (parts.flatMap fun part =>
        '/' :: Percent.escapeUnless Percent.isUnreserved part.toList) =
      (parts.flatMap fun part => '/' :: part.toList).flatMap Utf8.encodeChar := by
  induction parts with
  | nil => rfl
  | cons part parts ih =>
    rw [List.flatMap_cons, List.flatMap_cons, List.cons_append, List.cons_append,
      Percent.unescape_cons (by decide), Percent.unescape_escapeUnless_append (by decide), ih,
      List.flatMap_cons, List.flatMap_append]

/-- No character of such a target ends the path. -/
theorem ne_of_mem_below {root : String} {parts : List String} {c d : Char}
    (hd : d = '#' ∨ d = '?') (hc : c ∈ (below root parts).toList) : c ≠ d := by
  have hkept : ∀ {keep : Char → Bool} {cs : List Char}, keep d = false →
      c ∈ Percent.escapeUnless keep cs → c ≠ d := by
    rintro keep cs hkeep hmem rfl
    rcases Percent.mem_escapeUnless hmem with h | h | h
    · rw [hkeep] at h
      exact Bool.false_ne_true h.2
    all_goals rcases hd with rfl | rfl <;> exact absurd h (by decide)
  rw [below, String.toList_ofList, List.mem_append, List.mem_flatMap] at hc
  rcases hc with hc | ⟨part, -, hc⟩
  · exact hkept (by rcases hd with rfl | rfl <;> decide) hc
  · rcases List.mem_cons.1 hc with rfl | hc
    · rcases hd with rfl | rfl <;> decide
    · exact hkept (by rcases hd with rfl | rfl <;> decide) hc

/-- The path of such a target is the root with the parts, each after a slash. -/
theorem path_of_below {r : Request} {root : String} {parts : List String}
    (h : r.target = below root parts) :
    r.path = String.ofList (root.toList ++ parts.flatMap fun part => '/' :: part.toList) := by
  have hpath : r.resource.takeWhile (· != '?') = (below root parts).toList := by
    rw [resource, h,
      List.takeWhile_eq_self_iff.2 fun c hc => bne_iff_ne.2 (ne_of_mem_below (.inl rfl) hc),
      List.takeWhile_eq_self_iff.2 fun c hc => bne_iff_ne.2 (ne_of_mem_below (.inr rfl) hc)]
  rw [path, hpath, String.ofList_toList, Percent.decode, below, String.toList_ofList,
    Percent.unescape_escapeUnless_append (by decide), unescape_parts, ← List.flatMap_append,
    ← Utf8.decodeLossy_encode (String.ofList _), Utf8.encode, String.toList_ofList]

end Request

/-! ## Paths below a root -/

namespace FilePath

/-- The template of a path without a root. -/
def own (p : FilePath) : Template := (Template.read p.path).toOption.getD []

/-- The route below a root that holds no parameters. -/
def plainRoute (p : FilePath) (root : String) : Route :=
  ⟨Template.literals root.toList ++ p.own, [], p.target⟩

/-- What characters that come after the root ask for. -/
def aim? (p : FilePath) (cs : List Char) : Option Aim :=
  (p.own.values? cs).map fun texts =>
    ⟨p.target fun name => (Entries.get? (p.own.names.zip texts) name).getD "", []⟩

/-- Each path is read, and names its parameters; nothing that a request carries elsewhere is
among them. -/
theorem read_own : ∀ p ∈ filePaths, (Template.read p.path = .ok p.own ∧
    (bracedNames false p.own.plainForm).any p.elsewhere.contains = false) ∧
    p.own.names.filter (!(bracedNames false p.own.plainForm).contains ·) = [] := by
  decide

theorem below_of_plain {p : FilePath} (hp : p ∈ filePaths) {root : String}
    (hno : '\x7b' ∉ root.toList) : p.below root = .ok (p.plainRoute root) := by
  obtain ⟨⟨hread, hnone⟩, hasked⟩ := read_own p hp
  unfold below
  simp only [Template.read_append hno, hread, Except.map, Bind.bind, Except.bind,
    Template.plainForm_append, bracedNames_append hno, hnone, hasked, Bool.false_eq_true, if_false]
  rfl

theorem aim?_plainRoute (p : FilePath) (root : String) (cs : List Char)
    (query : List (String × String)) :
    (p.plainRoute root).aim? (String.ofList (root.toList ++ cs)) query = p.aim? cs := by
  unfold Route.aim? Template.bindings? plainRoute aim? Route.value
  rw [String.toList_ofList, Template.values?_literals_append, Template.names_append, Option.map_map]
  rfl

end FilePath

namespace Routes

/-- The routes below a root that holds no parameters. -/
theorem ofSettings_of_plain {s : Settings} {routes : Routes} (hno : '\x7b' ∉ s.apiRoot.toList)
    (h : ofSettings s = .ok routes) :
    routes = ⟨healthRoute :: filePaths.map (·.plainRoute s.apiRoot), s.metricsEnabled⟩ := by
  have hmap : ∀ {ps : List FilePath} {found : List Route}, (∀ p ∈ ps, p ∈ filePaths) →
      List.Forall₂ (fun p route => p.below s.apiRoot = .ok route) ps found →
      found = ps.map (·.plainRoute s.apiRoot) := by
    intro ps found hps hfound
    induction hfound with
    | nil => rfl
    | @cons p route ps found hp _ ih =>
      rw [FilePath.below_of_plain (hps p (List.mem_cons_self ..)) hno, Except.ok.injEq] at hp
      rw [List.map_cons, hp, ih fun p hp => hps p (List.mem_cons_of_mem _ hp)]
  unfold ofSettings at h
  split at h
  · cases h
  · rcases hfound : filePaths.mapM (·.below s.apiRoot) with f | found
    · rw [hfound] at h
      cases h
    · rw [hfound] at h
      cases h
      rw [hmap (fun _ hp => hp) (forall₂_of_mapM hfound)]

/-- What is asked for below a root: by the route of the health check, or by what comes after the
root. -/
theorem aimsAt_below {s : Settings} {routes : Routes} (hno : '\x7b' ∉ s.apiRoot.toList)
    (h : ofSettings s = .ok routes) (cs : List Char) (query : List (String × String)) :
    routes.aimsAt (String.ofList (s.apiRoot.toList ++ cs)) query =
      (healthRoute.aim? (String.ofList (s.apiRoot.toList ++ cs)) query).toList ++
        filePaths.filterMap (·.aim? cs) := by
  have hbelow : (filePaths.map (·.plainRoute s.apiRoot)).filterMap
      (·.aim? (String.ofList (s.apiRoot.toList ++ cs)) query) =
      filePaths.filterMap (·.aim? cs) := by
    rw [List.filterMap_map]
    exact List.filterMap_congr fun p _ => p.aim?_plainRoute s.apiRoot cs query
  rw [ofSettings_of_plain hno h, aimsAt, List.filterMap_cons, hbelow]
  cases healthRoute.aim? (String.ofList (s.apiRoot.toList ++ cs)) query <;> rfl

/-- The health check is asked for with its own method. -/
theorem target_of_health {path : String} {query : List (String × String)} {a : Aim}
    (h : healthRoute.aim? path query = some a) : a.target = .health := by
  obtain ⟨bindings, -, rfl⟩ := Option.map_eq_some_iff.1 h
  rfl

end Routes

/-! ## Paths of metadata -/

/-- The characters after the root in the path of metadata. -/
def metadataChars (index key : String) : List Char :=
  "/metadata/".toList ++ (index.toList ++ '/' :: key.toList)

theorem metadataChars_eq (index key : String) :
    metadataChars index key = '/' :: 'm' :: 'e' :: 't' :: 'a' ::
      ("data/".toList ++ (index.toList ++ '/' :: key.toList)) := by
  have hchars : "/metadata/".toList = '/' :: 'm' :: 'e' :: 't' :: 'a' :: "data/".toList := by
    decide
  unfold metadataChars
  rw [hchars]
  rfl

theorem flatMap_metadata (index key : String) :
    (["metadata", index, key].flatMap fun part => '/' :: part.toList) =
      metadataChars index key := by
  have hchars : "/metadata/".toList = '/' :: ("metadata".toList ++ ['/']) := by decide
  unfold metadataChars
  rw [List.flatMap_cons, List.flatMap_cons, List.flatMap_singleton, hchars,
    List.cons_append, List.cons_append, List.cons_append, List.append_assoc, List.singleton_append]

namespace FilePath

/-- The path of metadata with a hash. -/
def ofHash : FilePath :=
  ⟨"/metadata/" ++ braced "index" ++ "/hash/" ++ braced "hash", [],
    fun value => .metadataByHash (value "index") (value "hash")⟩

/-- The path of metadata under an identifier. -/
def ofId : FilePath :=
  ⟨"/metadata/" ++ braced "index" ++ "/" ++ braced "id", [],
    fun value => .metadataById (value "index") (value "id")⟩

theorem own_ofHash : ofHash.own = Template.literals "/metadata/".toList ++
    .parameter "index" .segment :: .literal '/' ::
      (Template.literals "hash/".toList ++ [.parameter "hash" .segment]) := by
  decide

theorem own_ofId : ofId.own = Template.literals "/metadata/".toList ++
    .parameter "index" .segment :: .literal '/' :: [.parameter "id" .segment] := by
  decide

theorem names_own : ofHash.own.names = ["index", "hash"] ∧ ofId.own.names = ["index", "id"] := by
  decide

theorem aim?_eq_none {p : FilePath} {n : Nat} {xs cs : List Char}
    (hp : p.own.take n = Template.literals xs) (hx : xs.isPrefixOf cs = false) :
    p.aim? cs = none := by
  rw [aim?, ← List.take_append_drop n p.own, hp, Template.values?_literals, hx]
  rfl

/-- All other paths begin in another way. -/
theorem take_own : ∀ p ∈ filePaths.take 4 ++ filePaths.drop 6,
    p.own.take 2 ∈ [['/', 's'], ['/', 'i'], ['/', 'f']].map Template.literals := by
  decide

variable {index key : String}

/-- A path of metadata is one of these two. -/
theorem filterMap_metadata (index key : String) :
    filePaths.filterMap (·.aim? (metadataChars index key)) =
      (ofHash.aim? (metadataChars index key)).toList ++
        (ofId.aim? (metadataChars index key)).toList := by
  have hothers : ∀ p ∈ filePaths.take 4 ++ filePaths.drop 6,
      p.aim? (metadataChars index key) = none := by
    intro p hp
    obtain ⟨xs, hxs, hown⟩ := List.mem_map.1 (take_own p hp)
    refine aim?_eq_none hown.symm ?_
    rw [List.mem_cons, List.mem_cons, List.mem_singleton] at hxs
    rcases hxs with rfl | rfl | rfl <;> rfl
  rw [show filePaths = filePaths.take 4 ++ ([ofHash, ofId] ++ filePaths.drop 6) from rfl,
    List.filterMap_append, List.filterMap_append,
    List.filterMap_eq_nil_iff.2 fun p hp => hothers p (List.mem_append_left _ hp),
    List.filterMap_eq_nil_iff.2 fun p hp => hothers p (List.mem_append_right _ hp),
    List.nil_append, List.append_nil, List.filterMap_cons, List.filterMap_cons,
    List.filterMap_nil]
  cases ofHash.aim? (metadataChars index key) <;> cases ofId.aim? (metadataChars index key) <;> rfl

theorem toList_ne_nil {t : String} (h : t ≠ "") : t.toList ≠ [] :=
  fun h' => h (String.toList_eq_nil_iff.1 h')

/-- Metadata under an identifier are asked for where the identifier is one segment. -/
theorem aim?_ofId (hi : index ≠ "") (hno : '/' ∉ index.toList) :
    ofId.aim? (metadataChars index key) =
      if key.toList ≠ [] ∧ '/' ∉ key.toList then some ⟨.metadataById index key, []⟩ else none := by
  unfold metadataChars
  rw [aim?, own_ofId, Template.values?_literals_append,
    Template.values?_segment (toList_ne_nil hi) hno, Template.values?_lastSegment, ← own_ofId,
    names_own.2]
  split
  · simp [ofId, Entries.get?]
  · rfl

/-- Metadata with a hash are asked for where a segment of its own comes before the hash. -/
theorem aim?_ofHash (hi : index ≠ "") (hno : '/' ∉ index.toList) {a : Aim}
    (h : ofHash.aim? (metadataChars index key) = some a) :
    ∃ hash, key = "hash/" ++ hash ∧ a = ⟨.metadataByHash index hash, []⟩ := by
  unfold metadataChars at h
  rw [aim?, own_ofHash, Template.values?_literals_append,
    Template.values?_segment (toList_ne_nil hi) hno, Template.values?_literals, ← own_ofHash,
    names_own.1] at h
  split at h
  · rename_i hprefix
    obtain ⟨rest, hrest⟩ := List.isPrefixOf_iff_prefix.1 hprefix
    rw [← hrest, List.drop_left, Template.values?_lastSegment, String.ofList_toList] at h
    split at h
    · simp only [Option.map_some, Option.some.injEq] at h
      refine ⟨String.ofList rest, ?_, ?_⟩
      · rw [← String.toList_inj, String.toList_append, ← hrest, @String.toList_ofList rest]
      · rw [← h]
        simp [ofHash, Entries.get?]
    · cases h
  · cases h

end FilePath

namespace Routes

variable {s : Settings} {routes : Routes} {index key : String}

/-- The health check is not below a root. -/
theorem health_ne (root : String) (query : List (String × String)) :
    healthRoute.aim? (String.ofList (root.toList ++ metadataChars index key)) query = none := by
  have hvalues : Template.values? (Template.literals "/health".toList ++ [])
      (root.toList ++ metadataChars index key) = none := by
    rw [Template.values?_literals]
    split
    · rename_i hprefix
      obtain ⟨rest, hrest⟩ := List.isPrefixOf_iff_prefix.1 hprefix
      rw [← hrest, List.drop_left, Template.values?, if_neg]
      intro hend
      -- a path below `/metadata/` holds more slashes than that of the health check
      have hcount := congrArg (List.count '/') hrest
      unfold metadataChars at hcount
      rw [List.count_append, List.count_append, List.count_append,
        List.count_append, List.count_cons_self] at hcount
      rw [show List.count '/' "/health".toList = 1 by decide,
        show List.count '/' "/metadata/".toList = 2 by decide] at hcount
      have hnone : List.count '/' rest = 0 := by
        rcases Bool.or_eq_true_iff.1 hend with h | h
        · rw [List.isEmpty_iff.1 h]
          rfl
        · rw [eq_of_beq h]
          rfl
      omega
    · rfl
  rw [List.append_nil] at hvalues
  rw [Route.aim?, Template.bindings?, String.toList_ofList,
    show healthRoute.template = Template.literals "/health".toList from rfl, hvalues]
  rfl

theorem aimsAt_metadata (hb : '\x7b' ∉ s.apiRoot.toList) (h : ofSettings s = .ok routes)
    (query : List (String × String)) :
    routes.aimsAt (String.ofList (s.apiRoot.toList ++ metadataChars index key)) query =
      (FilePath.ofHash.aim? (metadataChars index key)).toList ++
        (FilePath.ofId.aim? (metadataChars index key)).toList := by
  rw [aimsAt_below hb h, health_ne, FilePath.filterMap_metadata]
  rfl

/-- A request for metadata under an identifier without a slash leads there. -/
theorem resolve_metadata (hb : '\x7b' ∉ s.apiRoot.toList) (h : ofSettings s = .ok routes)
    (hi : index ≠ "") (hno : '/' ∉ index.toList) (hk : key ≠ "") (hslash : '/' ∉ key.toList)
    {path : String} (hpath : path = String.ofList (s.apiRoot.toList ++ metadataChars index key))
    (hmetrics : routes.isMetrics path = false) (query : List (String × String)) :
    routes.resolve "GET" path query = .found ⟨.metadataById index key, []⟩ := by
  have hhash : FilePath.ofHash.aim? (metadataChars index key) = none := by
    by_contra hne
    obtain ⟨a, ha⟩ := Option.ne_none_iff_exists'.1 hne
    obtain ⟨hash, rfl, -⟩ := FilePath.aim?_ofHash hi hno ha
    rw [String.toList_append] at hslash
    exact hslash (List.mem_append_left _ (by decide))
  have haims : routes.aimsAt path query = [⟨.metadataById index key, []⟩] := by
    rw [hpath, aimsAt_metadata hb h, hhash, FilePath.aim?_ofId hi hno,
      if_pos ⟨FilePath.toList_ne_nil hk, hslash⟩]
    rfl
  rw [resolve, hmetrics, haims]
  rfl

/-- One under an identifier with a slash leads to metadata with a hash, or nowhere. -/
theorem resolve_metadata_of_slash (hb : '\x7b' ∉ s.apiRoot.toList)
    (h : ofSettings s = .ok routes) (hi : index ≠ "") (hno : '/' ∉ index.toList)
    (hslash : '/' ∈ key.toList) {path : String}
    (hpath : path = String.ofList (s.apiRoot.toList ++ metadataChars index key))
    (hmetrics : routes.isMetrics path = false) (query : List (String × String)) :
    (∃ hash, key = "hash/" ++ hash ∧
      routes.resolve "GET" path query = .found ⟨.metadataByHash index hash, []⟩) ∨
    routes.resolve "GET" path query = .missing ∨
    ∃ other, routes.resolve "GET" path query = .redirected other := by
  have haims : routes.aimsAt path query =
      (FilePath.ofHash.aim? (metadataChars index key)).toList := by
    rw [hpath, aimsAt_metadata hb h, FilePath.aim?_ofId hi hno, if_neg fun hk => hk.2 hslash]
    exact List.append_nil _
  rw [resolve, hmetrics, haims]
  rcases ha : FilePath.ofHash.aim? (metadataChars index key) with _ | a
  · refine .inr ?_
    show (if path ≠ "/" && routes.isKnown (otherSlash path) then _ else _) = _ ∨ _
    split
    · exact .inr ⟨_, rfl⟩
    · exact .inl rfl
  · obtain ⟨hash, hkey, rfl⟩ := FilePath.aim?_ofHash hi hno ha
    exact .inl ⟨hash, hkey, rfl⟩

/-! ## Paths of requests that bring something -/

/-- Where the characters after the root ask for one target, a request of its method leads there. -/
theorem resolve_post (hb : '\x7b' ∉ s.apiRoot.toList) (h : ofSettings s = .ok routes)
    {cs : List Char} {a : Aim} (hbelow : filePaths.filterMap (·.aim? cs) = [a])
    (ha : a.target.method = "POST") {path : String}
    (hpath : path = String.ofList (s.apiRoot.toList ++ cs))
    (hmetrics : routes.isMetrics path = false) (query : List (String × String)) :
    routes.resolve "POST" path query = .found a := by
  have hpost : (a.target.method == "POST") = true := by rw [ha]; rfl
  rw [resolve, hmetrics, hpath, aimsAt_below hb h, hbelow]
  rcases hhealth : healthRoute.aim? (String.ofList (s.apiRoot.toList ++ cs)) query with _ | a'
  · simp only [Option.toList_none, List.nil_append, List.find?_cons, hpost]
    rfl
  · have htarget : (a'.target.method == "POST") = false := by rw [target_of_health hhealth]; rfl
    simp only [Option.toList_some, List.singleton_append, List.find?_cons, htarget, hpost]
    rfl

/-- A request to index a content leads there. -/
theorem resolve_index (hb : '\x7b' ∉ s.apiRoot.toList) (h : ofSettings s = .ok routes)
    {path : String} (hpath : path = String.ofList (s.apiRoot.toList ++ "/index".toList))
    (hmetrics : routes.isMetrics path = false) (query : List (String × String)) :
    routes.resolve "POST" path query = .found ⟨.indexFile, []⟩ :=
  resolve_post hb h (by decide) rfl hpath hmetrics query

/-- The characters after the root in the path of a search. -/
def searchChars (index : String) : List Char := "/search/".toList ++ index.toList

/-- The path of a search. -/
def searchPath : FilePath :=
  ⟨"/search/" ++ braced "index", ["query", "page", "size", "sort", "dir"],
    fun value => .searchFiles (value "index")⟩

theorem own_searchPath : searchPath.own =
    Template.literals "/search/".toList ++ [.parameter "index" .segment] := by
  decide

theorem names_searchPath : searchPath.own.names = ["index"] := by decide

/-- A search is asked for where the name of the index is one segment. -/
theorem aim?_searchPath (hi : index ≠ "") (hno : '/' ∉ index.toList) :
    searchPath.aim? (searchChars index) = some ⟨.searchFiles index, []⟩ := by
  have hone : Template.values? [.parameter "index" .segment] index.toList = some [index] := by
    rw [Template.values?_lastSegment, if_pos ⟨FilePath.toList_ne_nil hi, hno⟩,
      String.ofList_toList]
  unfold searchChars
  rw [FilePath.aim?, names_searchPath, own_searchPath, Template.values?_literals_append, hone]
  simp [searchPath, Entries.get?]

/-- A path of a search is that of no other target. -/
theorem filterMap_search (hi : index ≠ "") (hno : '/' ∉ index.toList) :
    filePaths.filterMap (·.aim? (searchChars index)) = [⟨.searchFiles index, []⟩] := by
  have hothers : ∀ p ∈ filePaths.take 6 ++ filePaths.drop 7, p.own.take 3 ∈
      [['/', 's', 't'], ['/', 'i', 'n'], ['/', 'f', 'e'], ['/', 'm', 'e']].map
        Template.literals := by
    decide
  have hnone : ∀ p ∈ filePaths.take 6 ++ filePaths.drop 7, p.aim? (searchChars index) = none := by
    intro p hp
    obtain ⟨xs, hxs, hown⟩ := List.mem_map.1 (hothers p hp)
    refine FilePath.aim?_eq_none hown.symm ?_
    simp only [List.mem_cons, List.not_mem_nil, or_false] at hxs
    rcases hxs with rfl | rfl | rfl | rfl <;> rfl
  rw [show filePaths = filePaths.take 6 ++ ([searchPath] ++ filePaths.drop 7) from rfl,
    List.filterMap_append, List.filterMap_append,
    List.filterMap_eq_nil_iff.2 fun p hp => hnone p (List.mem_append_left _ hp),
    List.filterMap_eq_nil_iff.2 fun p hp => hnone p (List.mem_append_right _ hp),
    List.nil_append, List.append_nil, List.filterMap_cons, aim?_searchPath hi hno]
  rfl

/-- A request for a search leads there. -/
theorem resolve_search (hb : '\x7b' ∉ s.apiRoot.toList) (h : ofSettings s = .ok routes)
    (hi : index ≠ "") (hno : '/' ∉ index.toList) {path : String}
    (hpath : path = String.ofList (s.apiRoot.toList ++ searchChars index))
    (hmetrics : routes.isMetrics path = false) (query : List (String × String)) :
    routes.resolve "POST" path query = .found ⟨.searchFiles index, []⟩ :=
  resolve_post hb h (filterMap_search hi hno) rfl hpath hmetrics query

/-! ## Paths of metrics -/

/-- The path below which metrics are shown. -/
def mount : List Char := ['/', 'm', 'e', 't', 'r', 'i', 'c', 's', '/']

theorem isMetrics_eq (cs : List Char) :
    routes.isMetrics (String.ofList cs) = (routes.metrics && mount.isPrefixOf cs &&
      !((cs.drop mount.length).dropLast.contains '\n')) := by
  rw [isMetrics, @String.toList_ofList cs]
  rfl

/-- A root below which metadata are at a path of metrics leads there itself. -/
theorem mount_prefix {root : List Char} (h : mount <+: root ++ metadataChars index key) :
    mount <+: root ++ ['/'] := by
  obtain ⟨rest, hrest⟩ := h
  rw [metadataChars_eq] at hrest
  rcases List.append_eq_append_iff.1 hrest with ⟨more, rfl, -⟩ | ⟨last, hmount, hchars⟩
  · exact ((List.prefix_append _ _).trans (List.prefix_append _ _))
  match last, hmount, hchars with
  | [], hmount, _ => exact ⟨['/'], by rw [hmount, List.append_nil]⟩
  | [c], hmount, hchars =>
    obtain rfl : '/' = c := (List.cons.inj hchars).1
    exact ⟨[], by rw [hmount, List.append_nil]⟩
  | c :: d :: last, hmount, hchars =>
    rw [List.cons_append, List.cons_append, List.cons.injEq, List.cons.injEq] at hchars
    obtain ⟨hc, hd, hchars⟩ := hchars
    subst hc hd
    cases root with
    | nil =>
      obtain rfl : ['e', 't', 'r', 'i', 'c', 's', '/'] = last :=
        (List.cons.inj (List.cons.inj hmount).2).2
      exact absurd (List.cons.inj (List.cons.inj (List.cons.inj hchars).2).2).1 (by decide)
    | cons c root =>
      have hslash : '/' ∈ (mount.drop 1).dropLast := by
        rw [hmount, List.cons_append, List.drop_succ_cons, List.drop_zero,
          List.dropLast_append_of_ne_nil (List.cons_ne_nil _ _)]
        exact List.mem_append_right _ (List.mem_cons_self ..)
      exact absurd hslash (by decide)

/-- Metrics are shown at the paths that go on from where they are mounted without a line feed. -/
theorem isMetrics_append {xs ys : List Char} (hx : mount <+: xs) (hy : ys ≠ []) :
    routes.isMetrics (String.ofList (xs ++ ys)) =
      (routes.metrics && !((xs.drop mount.length ++ ys.dropLast).contains '\n')) := by
  have hprefix : mount.isPrefixOf (xs ++ ys) = true :=
    List.isPrefixOf_iff_prefix.2 (hx.trans (List.prefix_append _ _))
  rw [isMetrics_eq, hprefix, Bool.and_true, List.drop_append_of_le_length hx.length_le,
    List.dropLast_append_of_ne_nil hy]

/-- Metrics that are shown at the path of metadata below a root are shown at all paths there. -/
theorem isMetrics_index {root : List Char}
    (h : routes.isMetrics (String.ofList (root ++ metadataChars index key)) = true) :
    routes.isMetrics (String.ofList (root ++ "/index".toList)) = true := by
  have hmount : mount <+: root ++ ['/'] := by
    have hparts := h
    rw [isMetrics_eq, Bool.and_eq_true, Bool.and_eq_true] at hparts
    exact mount_prefix (List.isPrefixOf_iff_prefix.1 hparts.1.2)
  have hindex : "/index".toList = ['/'] ++ "index".toList := by decide
  rw [metadataChars_eq, ← List.singleton_append, ← List.append_assoc,
    isMetrics_append hmount (List.cons_ne_nil _ _)] at h
  rw [hindex, ← List.append_assoc, isMetrics_append hmount (by decide)]
  simp only [Bool.and_eq_true, Bool.not_eq_true', List.contains_eq_mem, decide_eq_false_iff_not,
    List.mem_append, not_or] at h ⊢
  exact ⟨h.1, h.2.1, by decide⟩

end Routes

end ContentDepot.Api
