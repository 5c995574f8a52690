import ContentDepot.Proofs.Index.LookingUp
import ContentDepot.Proofs.InMemory.Sorting
import ContentDepot.Proofs.Search.Meaning

/-!
# What a search gives

A search and a count send the predicate of their query to one place and differ in
what they ask for. Where the index is there and the numbers that are sent have a
written form, both are answered from the documents that the predicate selects:

* `sendable_searchBody`, `sendable_countBody`: what can be sent;
* `call_search`, `asking_eq`: the answer to either request, and what is read off it;
* `searching_eq`: a search gives one slice of the sorted documents;
* `counting_eq`: a count gives their number.
-/

namespace ContentDepot

open Search InMemory Exchange Address Text.DotSegments

/-! ## What can be sent -/

namespace Json

variable {test : Json → Bool}

theorem everyMember_append (ms ns : List (String × Json)) :
    everyMember test (ms ++ ns) = (everyMember test ms && everyMember test ns) := by
  induction ms with
  | nil => rw [List.nil_append, everyMember, Bool.true_and]
  | cons m ms ih => rw [List.cons_append, everyMember, ih, everyMember, Bool.and_assoc]

theorem everyItem_of_forall {items : List Json} (h : ∀ v ∈ items, v.every test = true) :
    everyItem test items = true := by
  induction items with
  | nil => rfl
  | cons v vs ih =>
    rw [everyItem, h v (List.mem_cons_self ..), ih fun w hw => h w (List.mem_cons_of_mem _ hw)]
    rfl

theorem everyMember_of_forall {ms : List (String × Json)}
    (h : ∀ m ∈ ms, m.2.every test = true) : everyMember test ms = true := by
  induction ms with
  | nil => rfl
  | cons m ms ih =>
    rw [everyMember, everyIn, h m (List.mem_cons_self ..),
      ih fun m' hm => h m' (List.mem_cons_of_mem _ hm)]
    rfl

theorem every_of_everyMember {ms : List (String × Json)} (h : everyMember test ms = true) :
    ∀ m ∈ ms, m.2.every test = true := by
  induction ms with
  | nil => exact fun _ hm => by cases hm
  | cons m ms ih =>
    rw [everyMember, everyIn, Bool.and_eq_true] at h
    intro m' hm
    rcases List.mem_cons.1 hm with rfl | hm
    · exact h.1
    · exact ih h.2 m' hm

theorem isSendableLeaf_zero : isSendableLeaf (.int 0) = true := by decide +kernel

theorem sendable_texts (ts : List String) : everyItem isSendableLeaf (ts.map Json.str) = true := by
  refine everyItem_of_forall fun v hv => ?_
  obtain ⟨t, -, rfl⟩ := List.mem_map.1 hv
  rfl

end Json

theorem sendable_fillAbsent (fill : Bool) {v : Json} (h : v.sendable = true) :
    (fillAbsent fill v).sendable = true := by
  unfold fillAbsent
  split
  · rfl
  · rfl
  · exact h

/-- The test of a clause can be sent if the value of the clause can. -/
theorem Clause.sendable_of_place {fill : Bool} {c : Clause} {slot : Slot} {t : Test}
    (h : c.place fill = .ok (slot, t)) (hc : c.value.sendable = true) :
    t.toJson.sendable = true := by
  have hv := sendable_fillAbsent fill hc
  rw [Json.sendable] at hv
  unfold place at h
  split at h
  · cases h
  · dsimp only at h
    split at h
    · cases h
      simp only [Test.toJson, Json.sendable, Json.every, Json.everyMember, Json.everyIn,
        Bool.and_true]
      exact Json.sendable_texts _
    · cases h
    · split at h
      · cases h
      · split at h <;> cases h <;>
          simp [Test.toJson, Json.sendable, Json.every, Json.everyMember, Json.everyIn,
            Json.sendable_texts, Json.isSendableLeaf, Json.isFiniteLeaf, hv]

namespace Query

/-- Whether the values of all clauses can be sent. -/
def sendable (q : Query) : Bool := q.clauses.all (·.value.sendable)

theorem sendable_slot {fill : Bool} {q : Query} (hq : q.sendable = true) (name : String)
    (slot : Slot) :
    Json.everyMember Json.isSendableLeaf (Predicate.slot name (q.tests fill slot)) = true := by
  unfold Predicate.slot
  split
  · rfl
  · rw [Json.everyMember, Json.everyIn, Json.every, Json.everyMember, Bool.and_true]
    refine Json.everyItem_of_forall fun v hv => ?_
    obtain ⟨t, ht, rfl⟩ := List.mem_map.1 hv
    obtain ⟨c, hc, hct⟩ := List.mem_filterMap.1 ht
    unfold Clause.testIn? at hct
    split at hct
    · rename_i hp
      split at hct
      · cases hct
        exact Clause.sendable_of_place hp (List.all_eq_true.1 hq c hc)
      · cases hct
    · cases hct

end Query

theorem sendable_predicateOf (fill : Bool) {query : Option Query}
    (hq : ∀ q, query = some q → q.sendable = true) :
    (predicateOf fill query).toJson.sendable = true := by
  cases query with
  | none => rfl
  | some q =>
    unfold predicateOf Query.predicate
    dsimp only
    split
    · rfl
    · rw [Predicate.toJson, Json.sendable, Json.every, Json.everyMember, Json.everyIn, Json.every,
        Json.everyMember_append, Json.everyMember_append, Query.sendable_slot (hq q rfl),
        Query.sendable_slot (hq q rfl), Query.sendable_slot (hq q rfl)]
      rfl

theorem sendable_countBody (fill : Bool) {query : Option Query}
    (hq : ∀ q, query = some q → q.sendable = true) : (countBody fill query).sendable = true := by
  have hp := sendable_predicateOf fill hq
  rw [Json.sendable] at hp
  simp only [countBody, Json.sendable, Json.every, Json.everyMember, Json.everyIn, hp,
    Json.isSendableLeaf_zero]
  rfl

/-- The request for a page can be sent exactly if its two numbers can. -/
theorem sendable_searchBody (fill : Bool) {query : Option Query} (pageable : Pageable)
    (hq : ∀ q, query = some q → q.sendable = true) :
    (searchBody fill query pageable).sendable =
      ((Json.int pageable.offset).sendable && (Json.int pageable.size).sendable) := by
  have hp := sendable_predicateOf fill hq
  rw [Json.sendable] at hp
  have hsort : Json.everyItem Json.isSendableLeaf (pageable.sort.map sortKey) = true := by
    refine Json.everyItem_of_forall fun v hv => ?_
    obtain ⟨k, -, rfl⟩ := List.mem_map.1 hv
    rfl
  simp only [searchBody, Json.sendable, Json.every, Json.everyMember_append, Json.everyMember,
    Json.everyIn, hp, Bool.true_and, Bool.and_true]
  split
  · rw [Json.everyMember, Bool.and_true]
  · simp only [Json.everyMember, Json.everyIn, Json.every, hsort, Bool.and_true]

/-! ## The answer -/

namespace InMemory.Engine

theorem keysOf_searchBody (fill : Bool) (query : Option Query) (pageable : Pageable) :
    keysOf (searchBody fill query pageable) =
      pageable.sort.map fun k => ⟨k.field, !k.ascending⟩ := by
  have hkeys : ∀ keys : List SortKey, keysOf (.obj [("sort", .arr (keys.map sortKey))]) =
      keys.map fun k => ⟨k.field, !k.ascending⟩ := by
    intro keys
    show (keys.map sortKey).filterMap _ = _
    rw [List.filterMap_map, ← List.filterMap_eq_map]
    refine List.filterMap_congr fun k _ => ?_
    rcases k with ⟨field, _ | _⟩ <;> simp [sortKey, Json.member?, Entries.get?]
  rcases hs : pageable.sort with _ | ⟨k, ks⟩
  · unfold keysOf searchBody
    rw [hs]
    rfl
  · rw [← hs, ← hkeys]
    unfold keysOf searchBody
    rw [hs]
    rfl

/-- The answer of a search: the number of documents and a slice of them. -/
def hitsAnswer (index : String) (total : Nat) (page : List (String × Document)) : Json :=
  .obj [("hits", .obj [
    ("total", .obj [("value", .int total), ("relation", .str "eq")]),
    ("hits", .arr (page.map (hitOf index)))])]

theorem answer_search {e : Engine} {r : Request} {index : String} {body : Json}
    {ds : List (String × Document)} (hf : e.failing = none)
    (hs : segments r.path = [index, "_search"]) (hp : r.payload = .json body)
    (hx : Entries.has e.indices index = true) (hm : e.matching index body = .ok ds) :
    e.answer r = (respond 200 (hitsAnswer index ds.length
      ((ds.drop (numberOf body "from" 0)).take (numberOf body "size" 10))), e) := by
  have hpay : payloadOf r = body := by rw [payloadOf, hp]
  rw [answer_within hf hs (by decide)]
  unfold answerWithin
  rw [if_neg (by decide), if_neg (by decide), if_neg (by decide), if_pos rfl, hpay]
  unfold searchDocuments
  rw [hx, hm]
  rfl

theorem readHit_hitOf (index : String) (d : String × Document) :
    readHit (hitOf index d) = .ok (.ofDocument index d.1 d.2) := rfl

theorem hitsOf_hitsAnswer (index : String) (total : Nat) (page : List (String × Document)) :
    hitsOf (hitsAnswer index total page) =
      .ok (page.map fun d => .ofDocument index d.1 d.2) := by
  show (page.map (hitOf index)).mapM readHit = _
  induction page with
  | nil => rfl
  | cons d ds ih =>
    rw [List.map_cons, List.mapM_cons, readHit_hitOf, ih]
    rfl

theorem totalOf_hitsAnswer (index : String) (total : Nat) (page : List (String × Document)) :
    totalOf (hitsAnswer index total page) = .ok (total : Int) := rfl

end InMemory.Engine

namespace MetadataIndex

variable {e : Endpoint} {name index : String} {url : Url} {w : World}

theorem carry_check_success {r : Response} (h : r.isSuccess = true) (c : Context) (w : World) :
    carry World.answer (check r) c w = (.ok (), c, w) := by
  unfold check
  rw [if_pos h]
  rfl

theorem json_of_value (status : Int) (v : Json) : Response.json ⟨status, .json v⟩ = .ok v := rfl

/-- The engine is healthy, and the name leads to an index that is there and can be searched. -/
structure Finds (e : Endpoint) (engine : Engine) (name index : String) : Prop where
  isEngine : e.IsEngine
  leads : e.address.Leads name index
  target : ∃ url, e.address.target ("/" ++ name ++ "/_search") = .ok url
  healthy : engine.failing = none
  there : Entries.has engine.indices index = true

/-- An index with a plain name can be searched exactly if the path of a search fits. -/
theorem target_search {a : Address} (ha : a.base.IsRoot) (hn : IsPlainName name) :
    if fits ("/" ++ name ++ "/_search") then
      ∃ url, a.target ("/" ++ name ++ "/_search") = .ok url
    else a.target ("/" ++ name ++ "/_search") = .error .invalidAddress := by
  have hpath : "/" ++ name ++ "/_search" = reference name ["_search".toList] :=
    path_word_eq name "_search"
  rw [hpath]
  refine target_of_plain ha hn (anchored_word isWord_search) fun seg hseg c hc => ?_
  rw [List.mem_singleton.1 hseg] at hc
  exact Url.isControl_of_isPathChar (isWord_search.plain c hc).1

/-- A plain name finds its index if that is there, as long as the path of a search fits. -/
theorem finds_of_plain {engine : Engine} (he : e.IsEngine) (hn : IsPlainName name)
    (hfits : fits ("/" ++ name ++ "/_search") = true) (hf : engine.failing = none)
    (hx : Entries.has engine.indices name = true) : Finds e engine name name := by
  refine ⟨he, leads_of_plain he.root hn, ?_, hf, hx⟩
  have ht := target_search he.root hn
  rwa [if_pos hfits] at ht

/-- A request to search an index that is there is answered from the documents that match, and
leaves the engine as it is. -/
theorem call_search {body : Json} {ds : List (String × Document)} (hw : w.Live)
    (h : Finds e w.engine name index) (hp : body.sendable = true)
    (hm : w.engine.matching index body = .ok ds) (c : Context) :
    ∃ w', carry World.answer (e.call .post ("/" ++ name ++ "/_search") searchQuery (.json body))
        c w = (.ok ⟨200, .json (Engine.hitsAnswer index ds.length
          ((ds.drop (Engine.numberOf body "from" 0)).take (Engine.numberOf body "size" 10)))⟩,
          c, w') ∧ w'.engine = w.engine ∧ w'.Live := by
  obtain ⟨url, ht⟩ := h.target
  have hpath : "/" ++ name ++ "/_search" = reference name ["_search".toList] :=
    path_word_eq name "_search"
  rw [hpath] at ht ⊢
  obtain ⟨r, w', hmade, hengine, hlive, hcall⟩ := Endpoint.call_of_target h.isEngine hw ht .post
    (show queryLength searchQuery ≤ Url.maxLength by decide)
    (show Payload.isSendable (.json body) = true from hp) c
  have hs := hmade.segments.trans (h.leads _ url (anchored_word isWord_search) ht)
  rw [foldl_word isWord_search, meanings_word isWord_search] at hs
  rw [Engine.answer_search h.healthy hs hmade.payload h.there hm] at hengine hcall
  exact ⟨w', hcall, hengine, hlive⟩

/-- What a request to search asks for is read off the answer. -/
theorem asking_eq {α : Type} {events : List Event} {body : Json} {read : Json → Except Cause α}
    {a : α} {ds : List (String × Document)} (hw : w.Live) (h : Finds e w.engine name index)
    (hp : body.sendable = true) (hm : w.engine.matching index body = .ok ds)
    (hr : read (Engine.hitsAnswer index ds.length
      ((ds.drop (Engine.numberOf body "from" 0)).take (Engine.numberOf body "size" 10))) = .ok a)
    (c : Context) :
    ∃ c' w', carry World.answer (do
          Exchange.emitAll events
          let r ← e.call .post ("/" ++ name ++ "/_search") searchQuery (.json body)
          check r
          let answer ← Attempt.ofRead r.json
          Attempt.ofRead (read answer) : Attempt α) c w = (.ok a, c', w') ∧
      w'.engine = w.engine ∧ w'.Live := by
  rw [carry_bind_of_ok (carry_emitAll ..)]
  obtain ⟨w', hcall, hengine, hlive⟩ := call_search hw h hp hm (events.foldl Context.record c)
  rw [carry_bind_of_ok hcall, carry_bind_of_ok (carry_check_success rfl ..)]
  refine ⟨events.foldl Context.record c, w', ?_, hengine, hlive⟩
  rw [json_of_value, carry_bind_of_ok (carry_ofRead_ok.2 ⟨rfl, rfl, rfl⟩)]
  exact carry_ofRead_ok.2 ⟨hr, rfl, rfl⟩

/-- A search gives one slice of the documents that match. -/
theorem searching_eq {fill : Bool} {query : Option Query} {pageable : Pageable}
    {ds : List (String × Document)} (hw : w.Live) (h : Finds e w.engine name index)
    (hp : (searchBody fill query pageable).sendable = true)
    (hm : w.engine.matching index (searchBody fill query pageable) = .ok ds) (c : Context) :
    ∃ c' w', carry World.answer (searching e fill name query pageable) c w =
        (.ok (((ds.drop pageable.offset.toNat).take pageable.size.toNat).map fun d =>
          .ofDocument index d.1 d.2), c', w') ∧ w'.engine = w.engine ∧ w'.Live :=
  asking_eq hw h hp hm (Engine.hitsOf_hitsAnswer ..) c

/-- A count gives the number of the documents that match. -/
theorem counting_eq {fill : Bool} {query : Option Query} {ds : List (String × Document)}
    (hw : w.Live) (h : Finds e w.engine name index) (hp : (countBody fill query).sendable = true)
    (hm : w.engine.matching index (countBody fill query) = .ok ds) (c : Context) :
    ∃ c' w', carry World.answer (counting e fill name query) c w = (.ok (ds.length : Int), c', w') ∧
      w'.engine = w.engine ∧ w'.Live :=
  asking_eq hw h hp hm (Engine.totalOf_hitsAnswer ..) c

/-! ## Searches that are not sent -/

/-- A search whose address is not admitted fails for that reason. -/
theorem searching_of_refused {f : Fault}
    (ht : e.address.target ("/" ++ name ++ "/_search") = .error f) (fill : Bool)
    (query : Option Query) (pageable : Pageable) (c : Context) (w : World) :
    ∃ c', carry World.answer (searching e fill name query pageable) c w =
      (.error (.cause (.fault f)), c', w) := by
  unfold searching
  rw [carry_bind_of_ok (carry_emitAll ..)]
  exact ⟨_, carry_bind_of_error (carry_call_of_refused ht ..)⟩

/-- A search of an index with a plain name is not sent if its path does not fit. -/
theorem searching_of_unfit (ha : e.address.base.IsRoot) (hn : IsPlainName name)
    (hf : fits ("/" ++ name ++ "/_search") = false) (fill : Bool) (query : Option Query)
    (pageable : Pageable) (c : Context) (w : World) :
    ∃ c', carry World.answer (searching e fill name query pageable) c w =
      (.error (.cause (.fault .invalidAddress)), c', w) := by
  have ht := target_search ha hn
  rw [hf, if_neg Bool.false_ne_true] at ht
  exact searching_of_refused ht fill query pageable c w

/-- A search one of whose numbers has no written form is not sent. -/
theorem searching_of_unsendable {url : Url}
    (ht : e.address.target ("/" ++ name ++ "/_search") = .ok url) {fill : Bool}
    {query : Option Query} {pageable : Pageable}
    (hp : (searchBody fill query pageable).sendable = false) (c : Context) (w : World) :
    ∃ c', carry World.answer (searching e fill name query pageable) c w =
      (.error (.cause (.fault .badValue)), c', w) := by
  have hr : e.request url .post searchQuery (.json (searchBody fill query pageable)) =
      .error .badValue := by
    rw [Endpoint.request_eq, if_neg (by decide), if_neg]
    rw [show Payload.isSendable (.json (searchBody fill query pageable)) = false from hp]
    exact Bool.false_ne_true
  unfold searching
  rw [carry_bind_of_ok (carry_emitAll ..)]
  exact ⟨_, carry_bind_of_error (carry_call_of_unmade ht hr ..)⟩

end MetadataIndex

end ContentDepot
