import ContentDepot.Proofs.Depot.Calls
import ContentDepot.Proofs.Index.Searching
import Mathlib.Algebra.Order.Floor.Div

/-!
# The pages of a search

The pages of one size cut a list into pieces (`flatMap_pageOf`). A search of the depot
gives the page that its request names of the sorted documents, and their number
(`searchFiles_of_sendable`); it leaves the engine as it is, so the pages that a run of
searches gives are pages of one list:

* `pages_partition`: whatever the sort keys and the page size, as long as the numbers
  of the page requests have a written form.
* `searchFiles_of_oversized`: page requests whose numbers have none.
-/

namespace ContentDepot

open InMemory Address Exchange MetadataIndex Search

/-! ## Pages of a list -/

section

variable {α : Type} {n : Nat}

/-- The page of a list that comes after `p` pages of `n` items. -/
def pageOf (n p : Nat) (xs : List α) : List α := (xs.drop (p * n)).take n

theorem length_pageOf (n p : Nat) (xs : List α) :
    (pageOf n p xs).length = min n (xs.length - p * n) := by
  rw [pageOf, List.length_take, List.length_drop]

theorem pageOf_singleton (hn : 1 ≤ n) (x : α) : pageOf n 0 [x] = [x] := by
  rw [pageOf, Nat.zero_mul, List.drop_zero]
  exact List.take_of_length_le hn

/-- The first pages are the beginning of the list. -/
theorem flatMap_pageOf_range (n k : Nat) (xs : List α) :
    (List.range k).flatMap (pageOf n · xs) = xs.take (k * n) := by
  induction k with
  | zero => simp
  | succ k ih =>
    rw [List.range_succ, List.flatMap_append, ih, Nat.succ_mul, List.take_add]
    simp [pageOf]

/-- The pages of a list, together, are the list. -/
theorem flatMap_pageOf (hn : 1 ≤ n) (xs : List α) :
    (List.range (xs.length ⌈/⌉ n)).flatMap (pageOf n · xs) = xs := by
  rw [flatMap_pageOf_range, Nat.mul_comm]
  exact List.take_of_length_le ((ceilDiv_le_iff_le_mul hn).1 le_rfl)

/-- There is nothing on the pages after them. -/
theorem pageOf_eq_nil (hn : 1 ≤ n) {p : Nat} {xs : List α} (hp : xs.length ⌈/⌉ n ≤ p) :
    pageOf n p xs = [] := by
  have hlength : xs.length ≤ n * p := (ceilDiv_le_iff_le_mul hn).1 hp
  rw [pageOf, List.drop_eq_nil_of_le (by rwa [Nat.mul_comm]), List.take_nil]

end

/-! ## Page requests -/

/-- The request for a page of `n` documents. -/
def pageAt (sort : List SortKey) {n : Nat} (hn : 1 ≤ n) (p : Nat) : Pageable :=
  ⟨p, n, sort, Int.natCast_nonneg p, by omega⟩

theorem offset_pageAt (sort : List SortKey) {n : Nat} (hn : 1 ≤ n) (p : Nat) :
    (pageAt sort hn p).offset = (p * n : Nat) := (Int.natCast_mul p n).symm

theorem sendable_natCast (n : Nat) :
    (Json.int n).sendable = decide (n < Nat.pow 10 Numeral.maxDigits) := by
  simp only [Json.sendable, Json.every, Json.isSendableLeaf, Int.natAbs_natCast]

/-- The request for a page can be sent exactly if its offset and its size can be written. -/
theorem sendable_searchBody_pageAt (fill : Bool) {query : Option Query}
    (hq : ∀ q, query = some q → q.sendable = true) (sort : List SortKey) {n : Nat} (hn : 1 ≤ n)
    (p : Nat) :
    (searchBody fill query (pageAt sort hn p)).sendable =
      decide (p * n < Nat.pow 10 Numeral.maxDigits ∧ n < Nat.pow 10 Numeral.maxDigits) := by
  rw [sendable_searchBody _ _ hq, offset_pageAt, show (pageAt sort hn p).size = (n : Int) from rfl,
    sendable_natCast, sendable_natCast, Bool.decide_and]

/-- The documents of an index that a query keeps, in the order in which they came there. -/
def matched (engine : Engine) (fill : Bool) (index : String) (query : Option Query) :
    List (String × Document) :=
  (engine.documents index).filter fun d =>
    keepsOf fill (engine.keywordFields index) query d.2

namespace Depot

variable {s : Settings} {e : Endpoint} {w : World} {i index : String} {query : Option Query}

/-- An operation on an index whose name is a text is what it does there. -/
theorem carry_named {α : Type} (name : String) (hs : s.endpoint? .engine = some e) (hi : i ≠ "")
    (f : String → Endpoint → Action α) (c : Context) (w : World) :
    ∃ c₁, carry World.answer (do
        Action.require (.str i) name
        let t ← lowered (.str i)
        let e ← connected s .engine
        f t e) c w = carry World.answer (f (Text.lower i) e) c₁ w := by
  obtain ⟨c₁, h₁⟩ := carry_connected hs c w
  refine ⟨c₁, ?_⟩
  rw [carry_bind_of_ok (carry_require_str hi ..),
    show lowered (.str i) = pure (Text.lower i) from rfl, carry_bind_of_ok (carry_pure ..),
    carry_bind_of_ok h₁]

/-- Where what it does there succeeds, so does the operation. -/
theorem carry_named_ok {α : Type} (name : String) {attempt : String → Endpoint → Attempt α}
    {onTrouble : Trouble → Action α} {a : α} {p : World → Prop} (hs : s.endpoint? .engine = some e)
    (hi : i ≠ "") (ho : ∀ t c w, ∃ f, (carry World.answer (onTrouble t) c w).1 = .error f)
    (h : ∀ c, ∃ c' w', carry World.answer (attempt (Text.lower i) e) c w = (.ok a, c', w') ∧ p w')
    (c : Context) :
    ∃ c' w', carry World.answer (do
        Action.require (.str i) name
        let t ← lowered (.str i)
        let e ← connected s .engine
        (attempt t e).guarded onTrouble) c w = (.ok a, c', w') ∧ p w' := by
  obtain ⟨c₁, h₁⟩ := carry_named name hs hi (fun t e => (attempt t e).guarded onTrouble) c w
  obtain ⟨c', w', h₂, hp⟩ := h c₁
  exact ⟨c', w', h₁.trans ((carry_guarded_ok ho).2 h₂), hp⟩

theorem search_eq {pageable : Pageable} {ds : List (String × Document)}
    (hs : s.endpoint? .engine = some e) (hi : i ≠ "") (hw : w.Live)
    (hx : Finds e w.engine (Text.lower i) index)
    (hp : (searchBody s.fillAbsent query pageable).sendable = true)
    (hm : w.engine.matching index (searchBody s.fillAbsent query pageable) = .ok ds)
    (c : Context) :
    ∃ c' w', carry World.answer ((Depot.remote s).index.search (some pageable) (.str i) query) c w =
        (.ok (((ds.drop pageable.offset.toNat).take pageable.size.toNat).map fun d =>
          .ofDocument index d.1 d.2), c', w') ∧ w'.engine = w.engine ∧ w'.Live :=
  carry_named_ok "index_name" hs hi fail_ne_ok (searching_eq hw hx hp hm) c

theorem count_eq {ds : List (String × Document)} (hs : s.endpoint? .engine = some e) (hi : i ≠ "")
    (hw : w.Live) (hx : Finds e w.engine (Text.lower i) index)
    (hp : (countBody s.fillAbsent query).sendable = true)
    (hm : w.engine.matching index (countBody s.fillAbsent query) = .ok ds) (c : Context) :
    ∃ c' w', carry World.answer ((Depot.remote s).index.count (.str i) query) c w =
        (.ok (ds.length : Int), c', w') ∧ w'.engine = w.engine ∧ w'.Live :=
  carry_named_ok "index_name" hs hi fail_ne_ok (counting_eq hw hx hp hm) c

/-- The page that is asked for, of the documents in their order, with the number of all. -/
theorem searchFiles_of_sendable {pageable : Pageable} {ds ds' : List (String × Document)}
    (hs : s.endpoint? .engine = some e) (hi : i ≠ "") (hw : w.Live)
    (hx : Finds e w.engine (Text.lower i) index)
    (hq : ∀ q, query = some q → q.sendable = true)
    (hp : (searchBody s.fillAbsent query pageable).sendable = true)
    (hm : w.engine.matching index (searchBody s.fillAbsent query pageable) = .ok ds)
    (hm' : w.engine.matching index (countBody s.fillAbsent query) = .ok ds') (c : Context) :
    ∃ c' w', carry World.answer ((Depot.remote s).searchFiles (.str i) query (some pageable)) c w =
        (.ok ⟨((ds.drop pageable.offset.toNat).take pageable.size.toNat).map fun d =>
          .ofDocument index d.1 d.2, pageable, ds'.length⟩, c', w') ∧ w'.engine = w.engine := by
  obtain ⟨c₁, w₁, h₁, hengine₁, hlive₁⟩ := search_eq hs hi hw hx hp hm c
  rw [← hengine₁] at hx hm'
  obtain ⟨c₂, w₂, h₂, hengine₂, -⟩ := count_eq hs hi hlive₁ hx (sendable_countBody _ hq) hm' c₁
  refine ⟨c₂, w₂, ?_, hengine₂.trans hengine₁⟩
  unfold searchFiles
  rw [carry_bind_of_ok (carry_require_str hi ..)]
  dsimp only
  rw [carry_bind_of_ok h₁, carry_bind_of_ok h₂]
  rfl

/-- A search whose talk fails before a request was made fails for the same reason. -/
theorem search_of_fault {pageable : Pageable} {f : Fault} (hs : s.endpoint? .engine = some e)
    (hi : i ≠ "")
    (hf : ∀ c, ∃ c',
      carry World.answer (searching e s.fillAbsent (Text.lower i) query pageable) c w =
        (.error (.cause (.fault f)), c', w)) (c : Context) :
    ∃ c', carry World.answer ((Depot.remote s).index.search (some pageable) (.str i) query) c w =
      (.error (.error (.failed .searching (.fault f))), c', w) := by
  obtain ⟨c₁, h₁⟩ := carry_named "index_name" hs hi
    (fun t e => (searching e s.fillAbsent t query pageable).guarded
      (fail .searching "search_documents_failed")) c w
  obtain ⟨c₂, h₂⟩ := hf c₁
  refine ⟨c₂.record ⟨.error, "search_documents_failed", []⟩, h₁.trans ?_⟩
  rw [carry_guarded, h₂]
  rfl

theorem searchFiles_of_fault {pageable : Pageable} {f : Fault}
    (hs : s.endpoint? .engine = some e) (hi : i ≠ "")
    (hf : ∀ c, ∃ c',
      carry World.answer (searching e s.fillAbsent (Text.lower i) query pageable) c w =
        (.error (.cause (.fault f)), c', w)) (c : Context) :
    ∃ c', carry World.answer ((Depot.remote s).searchFiles (.str i) query (some pageable)) c w =
      (.error (.error (.failed .searching (.fault f))), c', w) := by
  obtain ⟨c', hsearch⟩ := search_of_fault hs hi hf c
  unfold searchFiles
  rw [carry_bind_of_ok (carry_require_str hi ..)]
  exact ⟨c', carry_bind_of_error hsearch⟩

end Depot

/-! ## Searches of a session -/

namespace Session

variable {s : Settings} {σ : Session} {e : Endpoint} {i index : String} {query : Option Query}
  {sort : List SortKey} {sorted : List (String × Document)} {n : Nat}

/-- What the request for a page gives of sorted documents. -/
def pageShown (index : String) (sorted : List (String × Document)) (sort : List SortKey)
    (hn : 1 ≤ n) (p : Nat) : Outcome :=
  if p * n < Nat.pow 10 Numeral.maxDigits ∧ n < Nat.pow 10 Numeral.maxDigits then
    .page ⟨(pageOf n p sorted).map fun d => .ofDocument index d.1 d.2, pageAt sort hn p,
      sorted.length⟩
  else .failed (.error (.failed .searching (.fault .badValue)))

/-- A page before which there are too many documents for a number is not shown. -/
theorem pageShown_of_le {p : Nat} (hn : 1 ≤ n) (hp : Nat.pow 10 Numeral.maxDigits ≤ p * n) :
    pageShown index sorted sort hn p = .failed (.error (.failed .searching (.fault .badValue))) :=
  if_neg fun h => absurd h.1 (Nat.not_lt.2 hp)

/-- A search that orders the documents of a count so, with the index where its name leads. -/
structure Orders (s : Settings) (e : Endpoint) (engine : Engine) (i index : String)
    (query : Option Query) (sort : List SortKey) (sorted : List (String × Document)) : Prop where
  endpoint : s.endpoint? .engine = some e
  name : i ≠ ""
  finds : Finds e engine (Text.lower i) index
  sendable : ∀ q, query = some q → q.sendable = true
  counted : engine.matching index (countBody s.fillAbsent query) =
    .ok (matched engine s.fillAbsent index query)
  searched : ∀ pageable : Pageable, pageable.sort = sort →
    engine.matching index (searchBody s.fillAbsent query pageable) = .ok sorted
  perm : sorted.Perm (matched engine s.fillAbsent index query)

/-- What the search for a page finds of sorted documents. -/
def pageFound (index : String) (sorted : List (String × Document)) (sort : List SortKey)
    (hn : 1 ≤ n) (p : Nat) : Except Failure (Page Metadata) :=
  if p * n < Nat.pow 10 Numeral.maxDigits ∧ n < Nat.pow 10 Numeral.maxDigits then
    .ok ⟨(pageOf n p sorted).map fun d => .ofDocument index d.1 d.2, pageAt sort hn p,
      sorted.length⟩
  else .error (.error (.failed .searching (.fault .badValue)))

/-- A search gives the page that it asks for if its two numbers can be written, and leaves the
engine as it is. -/
theorem Orders.carry_searchFiles {w : World}
    (ho : Orders s e w.engine i index query sort sorted) (hw : w.Live) (hn : 1 ≤ n) (p : Nat)
    (c : Context) :
    ∃ c' w', carry World.answer ((Depot.remote s).searchFiles (.str i) query
        (some (pageAt sort hn p))) c w = (pageFound index sorted sort hn p, c', w') ∧
      w'.engine = w.engine := by
  have hsend := sendable_searchBody_pageAt s.fillAbsent ho.sendable sort hn p
  unfold pageFound
  by_cases hp : p * n < Nat.pow 10 Numeral.maxDigits ∧ n < Nat.pow 10 Numeral.maxDigits
  · rw [decide_eq_true hp] at hsend
    obtain ⟨c', w', hcarry, hengine⟩ := Depot.searchFiles_of_sendable ho.endpoint ho.name hw
      ho.finds ho.sendable hsend (ho.searched _ rfl) ho.counted c
    rw [if_pos hp, hcarry, ← ho.perm.length_eq, offset_pageAt]
    exact ⟨c', w', rfl, hengine⟩
  · rw [decide_eq_false hp] at hsend
    obtain ⟨url, ht⟩ := ho.finds.target
    obtain ⟨c', hcarry⟩ := Depot.searchFiles_of_fault ho.endpoint ho.name
      (fun c => searching_of_unsendable ht hsend c w) c
    rw [if_neg hp, hcarry]
    exact ⟨c', w, rfl, rfl⟩

/-- One search gives the page it asks for, and leaves the engine as it is. -/
theorem searchFiles_page (h : σ.IsOver s)
    (ho : Orders s e σ.world.engine i index query sort sorted) (hn : 1 ≤ n) (p : Nat) :
    (σ.call (.depot (.searchFiles (.str i) query (some (pageAt sort hn p))))).1 =
        pageShown index sorted sort hn p ∧
      (σ.call (.depot (.searchFiles (.str i) query (some (pageAt sort hn p))))).2.world.engine =
        σ.world.engine := by
  obtain ⟨c', w', hcarry, hengine⟩ := ho.carry_searchFiles h.live hn p σ.context
  rw [h.call_eq, DepotCall.perform, talk_ofAction]
  unfold after
  rw [hcarry]
  refine ⟨?_, hengine⟩
  unfold pageShown pageFound
  split <;> rfl

/-- A run of searches gives pages of the same documents. -/
theorem runCalls_pages (h : σ.IsOver s)
    (ho : Orders s e σ.world.engine i index query sort sorted) (hn : 1 ≤ n) (ps : List Nat) :
    (σ.runCalls (ps.map fun p =>
        .depot (.searchFiles (.str i) query (some (pageAt sort hn p))))).1 =
      ps.map (pageShown index sorted sort hn) := by
  induction ps generalizing σ with
  | nil => rfl
  | cons p ps ih =>
    obtain ⟨houtcome, hengine⟩ := searchFiles_page h ho hn p
    rw [List.map_cons, runCalls_cons, houtcome, List.map_cons]
    exact congrArg _ (ih (h.call _) (hengine ▸ ho))

/-- A search of an index with a plain name fails if the path of a search does not fit. -/
theorem searchFiles_of_unfit (h : σ.IsOver s) (he : s.endpoint? .engine = some e)
    (hr : e.address.base.IsRoot) (hn : IsPlainName (Text.lower i)) (hi : i ≠ "")
    (hf : fits ("/" ++ Text.lower i ++ "/_search") = false) (query : Option Query)
    (pageable : Pageable) :
    (σ.call (.depot (.searchFiles (.str i) query (some pageable)))).1 =
      .failed (.error (.failed .searching (.fault .invalidAddress))) := by
  obtain ⟨c', hcarry⟩ := Depot.searchFiles_of_fault he hi
    (fun c => searching_of_unfit hr hn hf s.fillAbsent query pageable c σ.world) σ.context
  rw [h.call_eq, DepotCall.perform, talk_ofAction, hcarry]
  rfl

/-- A count gives the number of the documents that the searches order. -/
theorem count_ordered (h : σ.IsOver s)
    (ho : Orders s e σ.world.engine i index query sort sorted) :
    (σ.call (.index (.count (.str i) query))).1 = .number sorted.length := by
  obtain ⟨c', w', hcarry, -⟩ := Depot.count_eq ho.endpoint ho.name h.live ho.finds
    (sendable_countBody _ ho.sendable) ho.counted σ.context
  have hcall : σ.call (.index (.count (.str i) query)) =
      σ.talk (Outcome.ofAction .number ((Depot.remote s).index.count (.str i) query)) := by
    unfold call
    rw [h.installation]
    rfl
  rw [hcall, talk_ofAction, hcarry, ho.perm.length_eq]
  rfl

/-- Documents that can be sorted by the fields of a page request can be sorted by its keys. -/
theorem sortable_keys {ds : List (String × Document)} (h : ∀ k ∈ sort, Sortable k.field ds) :
    ∀ key ∈ sort.map fun k => (⟨k.field, !k.ascending⟩ : Key), Sortable key.field ds := by
  intro key hkey
  obtain ⟨k, hk, rfl⟩ := List.mem_map.1 hkey
  exact h k hk

/-- Documents that can be sorted are ordered in one way by the searches of all pages. -/
theorem orders_of_sortable {engine : Engine} (he : s.endpoint? .engine = some e) (hi : i ≠ "")
    (hx : Finds e engine (Text.lower i) index)
    (hsend : ∀ q, query = some q → q.sendable = true)
    (hrange : ∀ q, query = some q → q.inRange = true)
    (hd : ∀ d ∈ engine.documents index, (Json.obj d.2).inRange = true)
    (hk : ∀ k ∈ sort, Sortable k.field (matched engine s.fillAbsent index query)) :
    ∃ sorted, sortBy (sort.map fun k => ⟨k.field, !k.ascending⟩)
        (matched engine s.fillAbsent index query) = .ok sorted ∧
      Orders s e engine i index query sort sorted := by
  obtain ⟨sorted, hsorted, hperm⟩ := sortBy_ok (sortable_keys hk)
  refine ⟨sorted, hsorted, he, hi, hx, hsend, matching_eq hd hrange rfl, ?_, hperm⟩
  rintro pageable rfl
  rw [matching_eq hd hrange rfl, Engine.keysOf_searchBody]
  exact hsorted

end Session

/-- A search on any number of pages of a size shows pages of one list, which holds the documents
that the query keeps, in the order of the sort keys, and has as many as a count says. Together its
pages are the list, and no later page holds anything. Only a page request whose offset or size has
no written form fails. -/
theorem pages_partition {s : Settings} {σ : Session} {e : Endpoint} {i index : String}
    {query : Option Query} {sort : List SortKey} (h : σ.IsOver s)
    (he : s.endpoint? .engine = some e) (hi : i ≠ "")
    (hx : Finds e σ.world.engine (Text.lower i) index)
    (hsend : ∀ q, query = some q → q.sendable = true)
    (hrange : ∀ q, query = some q → q.inRange = true)
    (hd : ∀ d ∈ σ.world.engine.documents index, (Json.obj d.2).inRange = true)
    (hk : ∀ k ∈ sort, Sortable k.field (matched σ.world.engine s.fillAbsent index query)) :
    ∃ sorted, sortBy (sort.map fun k => ⟨k.field, !k.ascending⟩)
        (matched σ.world.engine s.fillAbsent index query) = .ok sorted ∧
      sorted.Perm (matched σ.world.engine s.fillAbsent index query) ∧
      (σ.call (.index (.count (.str i) query))).1 = .number sorted.length ∧
      ∀ (n : Nat) (hn : 1 ≤ n),
        (∀ ps : List Nat, (σ.runCalls (ps.map fun p =>
            .depot (.searchFiles (.str i) query (some (pageAt sort hn p))))).1 = ps.map fun p =>
          if p * n < Nat.pow 10 Numeral.maxDigits ∧ n < Nat.pow 10 Numeral.maxDigits then
            .page ⟨(pageOf n p sorted).map fun d => .ofDocument index d.1 d.2, pageAt sort hn p,
              sorted.length⟩
          else .failed (.error (.failed .searching (.fault .badValue)))) ∧
        (∀ p, (pageOf n p sorted).length = min n (sorted.length - p * n)) ∧
        (List.range (sorted.length ⌈/⌉ n)).flatMap (pageOf n · sorted) = sorted ∧
        ∀ p, sorted.length ⌈/⌉ n ≤ p → pageOf n p sorted = [] := by
  obtain ⟨sorted, hsorted, ho⟩ := Session.orders_of_sortable he hi hx hsend hrange hd hk
  refine ⟨sorted, hsorted, ho.perm, Session.count_ordered h ho, fun n hn => ⟨fun ps => ?_,
    fun p => length_pageOf n p sorted, flatMap_pageOf hn sorted, fun p hp => pageOf_eq_nil hn hp⟩⟩
  exact Session.runCalls_pages h ho hn ps

/-- A session over live backends whose engine is in some state. -/
def Session.opposite (engine : Engine) : Session :=
  { fresh .standard with world := { World.initial true with engine := engine } }

theorem Session.isOver_opposite (engine : Engine) : (opposite engine).IsOver .standard :=
  ⟨rfl, rfl, rfl, rfl⟩

/-- A healthy engine finds an index of a name in lower case. -/
theorem finds_docs {e : Endpoint} {engine : Engine}
    (he : Settings.standard.endpoint? .engine = some e) (hf : engine.failing = none)
    (hx : Entries.has engine.indices "docs" = true) :
    Finds e engine (Text.lower "docs") "docs" := by
  rw [show Text.lower "docs" = "docs" by decide]
  exact finds_of_plain (Settings.hostsAreRoots_standard.isEngine he) (by decide) (by decide +kernel)
    hf hx

/-- Three documents, one of which has no size. -/
def threeDocuments : Engine :=
  { Engine.initial with
    indices := [("docs", [("a", [("size", .int 3)]), ("b", []), ("c", [("size", .int 1)])])] }

theorem sortBy_threeDocuments :
    sortBy [⟨"size", false⟩] (threeDocuments.documents "docs") =
      .ok [("c", [("size", .int 1)]), ("a", [("size", .int 3)]), ("b", [])] := by
  have hpresent : (threeDocuments.documents "docs").filter (hasValue "size") =
      [("a", [("size", .int 3)]), ("c", [("size", .int 1)])] := by decide +kernel
  have habsent : (threeDocuments.documents "docs").filter (fun d => !hasValue "size" d) =
      [("b", [])] := by decide
  have hcomparable : Json.comparable ([("a", [("size", .int 3)]), ("c", [("size", .int 1)])].map
      fun d : String × Document => fieldValue d.2 "size") = true := by decide
  have hlater : mayPrecede false (fieldValue [("size", .int 3)] "size")
      (fieldValue [("size", .int 1)] "size") = false := by decide +kernel
  simp only [sortBy, Bind.bind, Except.bind]
  unfold InMemory.pass
  dsimp only
  rw [hpresent, habsent, if_pos hcomparable]
  simp [List.mergeSort, hlater]

/-- The smaller document comes first, and the one without a size is on the second page. -/
theorem pages_of_threeDocuments :
    ((Session.opposite threeDocuments).runCalls ([0, 1, 2].map fun p =>
        .depot (.searchFiles (.str "docs") none
          (some (pageAt [⟨"size", true⟩] one_le_two p))))).1 =
      [.page ⟨[⟨"docs", "c", none, none, [("size", .int 1)]⟩,
          ⟨"docs", "a", none, none, [("size", .int 3)]⟩], pageAt [⟨"size", true⟩] one_le_two 0, 3⟩,
        .page ⟨[⟨"docs", "b", none, none, []⟩], pageAt [⟨"size", true⟩] one_le_two 1, 3⟩,
        .page ⟨[], pageAt [⟨"size", true⟩] one_le_two 2, 3⟩] := by
  obtain ⟨e, he, -⟩ := Settings.hostsAreRoots_standard .engine
  have hfinds : Finds e threeDocuments (Text.lower "docs") "docs" := finds_docs he rfl (by decide)
  have hsortable : ∀ k ∈ [(⟨"size", true⟩ : SortKey)],
      Sortable k.field (matched threeDocuments Settings.standard.fillAbsent "docs" none) := by
    intro k hk
    rw [List.mem_singleton.1 hk]
    exact .inl (by decide +kernel)
  obtain ⟨sorted, hsorted, -, -, hpages⟩ :=
    pages_partition (Session.isOver_opposite threeDocuments) he (by decide) hfinds
      (fun q hq => by cases hq) (fun q hq => by cases hq) (by decide +kernel) hsortable
  obtain rfl := Except.ok.inj (sortBy_threeDocuments.symm.trans hsorted)
  have hwritten : ∀ p ∈ [0, 1, 2], p * 2 < Nat.pow 10 Numeral.maxDigits ∧
      2 < Nat.pow 10 Numeral.maxDigits := by decide +kernel
  rw [(hpages 2 one_le_two).1 [0, 1, 2], List.map_congr_left fun p hp => if_pos (hwritten p hp)]
  rfl

/-- A name that leaves no room for the path of a search. -/
def wideName : String := String.ofList (List.replicate (Url.maxLength - 1) 'x')

theorem length_wideName : wideName.toList.length = Url.maxLength - 1 := by
  rw [wideName, String.toList_ofList, List.length_replicate]

theorem mem_wideName {c : Char} (hc : c ∈ wideName.toList) : c = 'x' := by
  rw [wideName, String.toList_ofList] at hc
  exact List.eq_of_mem_replicate hc

theorem lower_wideName : Text.lower wideName = wideName := by
  have hsmall : ∀ c ∈ wideName.toList, Text.IsSmall c := fun c hc => by
    rw [mem_wideName hc]
    decide
  rw [Text.lower, Text.lowerFrom_of_small hsmall, String.ofList_toList]

theorem isPlainName_wideName : IsPlainName wideName := by
  have hne : ∀ t : String, t.toList.length ≠ Url.maxLength - 1 → wideName ≠ t := by
    rintro t ht rfl
    exact ht length_wideName
  refine ⟨hne "" (by decide), hne "." (by decide), hne ".." (by decide), fun c hc => ?_,
    fun c hc => ?_⟩ <;> rw [mem_wideName hc] <;> decide

theorem fits_wideName : fits ("/" ++ wideName ++ "/_search") = false := by
  have hpath : ("/" ++ wideName ++ "/_search").toList.length ≤
      (Url.encodePath ("/" ++ wideName ++ "/_search").toList).length :=
    Text.Percent.length_escapeUnless _
  have hlength : Url.maxLength < ("/" ++ wideName ++ "/_search").toList.length := by
    rw [String.toList_append, String.toList_append, List.length_append, List.length_append,
      length_wideName]
    decide
  rw [fits, decide_eq_false_iff_not]
  omega

/-- The least number with more than `k` digits. -/
def tenTo (k : Nat) : Nat := 10 ^ k

theorem one_le_tenTo (k : Nat) : 1 ≤ tenTo k := Nat.one_le_pow k 10 (by decide)

theorem le_tenTo {k : Nat} (hk : Numeral.maxDigits ≤ k) :
    Nat.pow 10 Numeral.maxDigits ≤ tenTo k := by
  rw [Nat.pow_eq, tenTo]
  exact Nat.pow_le_pow_right (by decide) hk

theorem le_tenTo_mul_tenTo {k : Nat} (hk : Numeral.maxDigits ≤ k + k) :
    Nat.pow 10 Numeral.maxDigits ≤ tenTo k * tenTo k := by
  rw [tenTo, ← Nat.pow_add]
  exact le_tenTo hk

/-- An engine with one index, in which there is nothing. -/
def emptyIndex (index : String) : Engine := { Engine.initial with indices := [(index, [])] }

/-- A session that has created an index. -/
def Session.withIndex : Session := ((fresh .standard).call (.depot (.createIndex (.str "docs")))).2

/-- Though there is nothing to find and to count, a search fails whose offset has more digits than
can be written; and so does each search of an index under too wide a name. -/
theorem searchFiles_of_oversized :
    (Session.withIndex.call (.index (.count (.str "docs") none))).1 = .number 0 ∧
    (Session.withIndex.call (.depot (.searchFiles (.str "docs") none
      (some (pageAt [] (one_le_tenTo 2200) (tenTo 2200)))))).1 =
        .failed (.error (.failed .searching (.fault .badValue))) ∧
    Entries.has (emptyIndex wideName).indices wideName = true ∧
    ∀ pageable, ((Session.opposite (emptyIndex wideName)).call (.depot
      (.searchFiles (.str wideName) none (some pageable)))).1 =
        .failed (.error (.failed .searching (.fault .invalidAddress))) := by
  obtain ⟨e, he, hroot⟩ := Settings.hostsAreRoots_standard .engine
  have hover : Session.withIndex.IsOver .standard := (Session.isOver_fresh _).call _
  obtain ⟨hfailing, hthere, hempty⟩ : Session.withIndex.world.engine.failing = none ∧
      Entries.has Session.withIndex.world.engine.indices "docs" = true ∧
      Session.withIndex.world.engine.documents "docs" = [] := by decide
  have hfinds : Finds e Session.withIndex.world.engine (Text.lower "docs") "docs" :=
    finds_docs he hfailing hthere
  obtain ⟨sorted, -, ho⟩ : ∃ sorted, _ ∧ Session.Orders .standard e Session.withIndex.world.engine
      "docs" "docs" none [] sorted :=
    Session.orders_of_sortable he (by decide) hfinds (fun q hq => by cases hq)
      (fun q hq => by cases hq) (by simp [hempty]) (fun k hk => by cases hk)
  refine ⟨?_, ?_, ?_, fun pageable => ?_⟩
  · have hperm := ho.perm
    rw [matched, hempty, List.filter_nil] at hperm
    rw [Session.count_ordered hover ho, hperm.eq_nil]
    rfl
  · rw [(Session.searchFiles_page hover ho _ _).1]
    exact Session.pageShown_of_le _ (le_tenTo_mul_tenTo (by decide))
  · simp [emptyIndex, Entries.has, Entries.get?]
  · refine Session.searchFiles_of_unfit (Session.isOver_opposite (emptyIndex wideName)) he hroot ?_
      isPlainName_wideName.ne_empty ?_ none pageable
    · rw [lower_wideName]
      exact isPlainName_wideName
    · rw [lower_wideName]
      exact fits_wideName

end ContentDepot
