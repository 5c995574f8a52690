import ContentDepot.Proofs.Api.ReadBack
import ContentDepot.Proofs.Checks
import ContentDepot.Proofs.Session.Course

/-!
# Bounds of a search

A search over HTTP asks the engine for one page of hits and then for the number of all
matches, and which page that is can be read off the query of the request and the
settings alone (`Request.AsksFor`). Where no page lies within the bounds nothing is
sent. This is so whatever the engine answers, as it is said of the talk itself:

* `SearchParameters.asksFor_of_pageable`: what the checks let pass;
* `Depot.always_searchFiles`: what is sent for a page;
* `Service.always_searchFiles`, `Service.ends_respondBy`, `Service.ends_handle`: from the
  target of a request to the response;
* `searches_within_bounds`: so it is with every request for a search, at whatever path
  (`Routes.resolve_search`).
-/

namespace ContentDepot

/-! ## What a request asks for -/

namespace Api

namespace Request

variable (r : Request)

/-- The number under a name in the query of a request: one that is not there has a default, and
one that cannot be read is none. -/
def number? (name : String) (default : Int) : Option Int :=
  match lastValue? r.query name with
  | none => some default
  | some text => (Schema.intOfText text).toOption

/-- A request asks for a page of a size, both within their bounds. -/
structure AsksFor (s : Settings) (page size : Int) : Prop where
  page_eq : r.number? "page" 0 = some page
  size_eq : r.number? "size" s.defaultPageSize = some size
  page_nonneg : 0 ≤ page
  size_pos : 1 ≤ size
  size_le : size ≤ s.maxPageSize

/-- The field to sort by, unless it is empty. -/
def sortAsked : Option SortKey :=
  ((lastValue? r.query "sort").filter (· ≠ "")).map fun field =>
    ⟨field, lastValue? r.query "dir" ≠ some "DESC"⟩

/-- What is asked of the engine: a page of hits, then the number of all matches, both with the
same clause. -/
def bodies (clause : Json) (page size : Int) : List Json :=
  [.obj ([("query", clause), ("from", .int (page * size)), ("size", .int size)] ++
      match r.sortAsked with
      | none => []
      | some key => [("sort", .arr [.obj [(key.field, .obj
          [("order", .str (if key.ascending then "asc" else "desc")),
            ("unmapped_type", .str "date")])]])]),
    .obj [("query", clause), ("size", .int 0), ("track_total_hits", .bool true)]]

end Request

namespace SearchParameters

theorem parameter_eq_ok {α : Type} {query : List (String × String)} {name : String}
    {default a : α} {check : String → Checked α} :
    parameter query name default check = .ok a ↔
      (lastValue? query name = none ∧ a = default) ∨
        ∃ text, lastValue? query name = some text ∧ check text = .ok a := by
  unfold parameter
  rcases lastValue? query name with _ | text
  · simp [eq_comm]
  · rw [Checked.inside_eq_ok, Checked.inside_eq_ok]
    simp

theorem integerFrom_eq_ok {bound n : Int} {text : String} :
    integerFrom bound text = .ok n ↔ Schema.intOfText text = .ok n ∧ bound ≤ n := by
  unfold integerFrom
  rcases Schema.intOfText text with issues | m
  · simp
  · dsimp only
    split
    · rename_i hm
      refine iff_of_false (fun h => by cases h) ?_
      rintro ⟨h, hn⟩
      cases h
      omega
    · rename_i hm
      refine ⟨fun h => ⟨h, ?_⟩, fun h => h.1⟩
      cases h
      omega

theorem direction_eq_ok {text : String} {ascending : Bool} (h : direction text = .ok ascending) :
    ascending = decide (text ≠ "DESC") := by
  unfold direction at h
  split at h
  · rename_i htext
    cases h
    rw [htext]
    rfl
  · split at h
    · rename_i htext
      cases h
      rw [htext]
      rfl
    · cases h

/-- Each parameter passes its own check. -/
theorem parameters_of_check {query : List (String × String)} {given : SearchParameters}
    (h : check query = .ok given) :
    parameter query "page" 0 (integerFrom 0) = .ok given.page ∧
      parameter query "size" none (fun text => (integerFrom 1 text).map some) = .ok given.size ∧
      parameter query "sort" none (fun text => .ok (some text)) = .ok given.sort ∧
      parameter query "dir" true direction = .ok given.ascending := by
  simp only [check, Checked.apply_eq_ok] at h
  obtain ⟨_, _, ⟨_, _, ⟨_, _, ⟨_, _, hmk, hpage, rfl⟩, hsize, rfl⟩, hsort, rfl⟩, hdir, rfl⟩ := h
  cases hmk
  exact ⟨hpage, hsize, hsort, hdir⟩

section Read

variable {r : Request} {given : SearchParameters}

/-- Where a check gives the number that a text stands for, what passes is the number under the
name. -/
theorem number?_of_parameter {α : Type} {name : String} {default a : α} {d : Int}
    {check : String → Checked α} {f : α → Int}
    (h : parameter r.query name default check = .ok a) (hd : f default = d)
    (hcheck : ∀ text a, check text = .ok a → Schema.intOfText text = .ok (f a)) :
    r.number? name d = some (f a) := by
  unfold Request.number?
  rcases parameter_eq_ok.1 h with ⟨hnone, rfl⟩ | ⟨text, hsome, htext⟩
  · rw [hnone, ← hd]
  · rw [hsome]
    exact congrArg Except.toOption (hcheck text a htext)

theorem sortAsked_eq (hsort : parameter r.query "sort" none (fun text => .ok (some text)) =
      .ok given.sort)
    (hdir : parameter r.query "dir" true direction = .ok given.ascending) :
    r.sortAsked = (given.sort.filter (· ≠ "")).map fun field => ⟨field, given.ascending⟩ := by
  have hfield : lastValue? r.query "sort" = given.sort := by
    rcases parameter_eq_ok.1 hsort with ⟨hnone, hsort⟩ | ⟨text, hsome, htext⟩
    · rw [hnone, hsort]
    · rw [hsome, Except.ok.inj htext]
  have hascending : decide (lastValue? r.query "dir" ≠ some "DESC") = given.ascending := by
    rcases parameter_eq_ok.1 hdir with ⟨hnone, hdir⟩ | ⟨text, hsome, htext⟩
    · rw [hnone, hdir]
      rfl
    · rw [hsome, direction_eq_ok htext]
      simp
  unfold Request.sortAsked
  rw [hfield, hascending]

end Read

/-- A page within the bounds, with at most one field to sort by. -/
theorem bounds_of_pageable {given : SearchParameters} {default maximum : Int} {p : Pageable}
    (h : given.pageable default maximum = .ok p) :
    p.page = given.page ∧ p.size = given.size.getD default ∧ p.size ≤ maximum ∧
      p.sort = ((given.sort.filter (· ≠ "")).map fun field =>
        (⟨field, given.ascending⟩ : SortKey)).toList := by
  unfold pageable at h
  dsimp only at h
  split at h
  · cases h
  rename_i hmax
  unfold Pageable.of Pageable.make at h
  dsimp only at h
  split at h
  · split at h
    · cases h
      refine ⟨rfl, rfl, not_lt.1 hmax, ?_⟩
      rcases given.sort with _ | field
      · rfl
      · by_cases hfield : field = ""
        · rw [hfield]
          rfl
        · simp [Option.filter, hfield]
    · cases h
  · cases h

/-- What the checks let pass is what the request asks for, within the bounds. -/
theorem asksFor_of_pageable {r : Request} {s : Settings} {given : SearchParameters} {p : Pageable}
    (h : check r.query = .ok given)
    (hp : given.pageable s.defaultPageSize s.maxPageSize = .ok p) :
    r.AsksFor s p.page p.size ∧ p.sort = r.sortAsked.toList := by
  obtain ⟨hpage, hsize, hsort, hdir⟩ := parameters_of_check h
  obtain ⟨hpage', hsize', hmax, hsort'⟩ := bounds_of_pageable hp
  have hread : ∀ text size, (integerFrom 1 text).map some = .ok size →
      Schema.intOfText text = .ok (size.getD s.defaultPageSize) := by
    intro text size h
    obtain ⟨n, hn, rfl⟩ := Checked.map_eq_ok.1 h
    exact (integerFrom_eq_ok.1 hn).1
  have hpage := number?_of_parameter (f := id) hpage rfl fun text n h => (integerFrom_eq_ok.1 h).1
  have hsize := number?_of_parameter (f := fun size : Option Int => size.getD s.defaultPageSize)
    hsize rfl hread
  rw [sortAsked_eq hsort hdir]
  exact ⟨⟨hpage' ▸ hpage, hsize' ▸ hsize, p.page_nonneg, p.size_pos, hmax⟩, hsort'⟩

/-- A page that is not within the bounds is an error of the request. -/
theorem kind_of_pageable {given : SearchParameters} {default maximum : Int} {e : StoreError}
    (h : given.pageable default maximum = .error e) : e.kind = .validation := by
  unfold pageable at h
  dsimp only at h
  split at h
  · cases h
    rfl
  · unfold Pageable.of Pageable.make at h
    dsimp only at h
    split at h
    · split at h
      · cases h
      · cases h
        rfl
    · cases h
      rfl

end SearchParameters

end Api

/-! ## What is sent for a page -/

/-- One request to the engine for each of the bodies, in their order. -/
def Traffic.Posts (bodies : List Json) (t : Traffic) : Prop :=
  List.Forall₂ (fun body m => m.1.backend = .engine ∧ m.1.verb = .post ∧ m.1.payload = .json body)
    bodies t

/-- One request for each of the bodies up to one of them. -/
def Traffic.PostsUpTo (bodies : List Json) (t : Traffic) : Prop :=
  ∃ sent, sent <+: bodies ∧ t.Posts sent

theorem Traffic.Posts.upTo {bodies : List Json} {t : Traffic} (h : t.Posts bodies) :
    t.PostsUpTo bodies := ⟨bodies, List.prefix_rfl, h⟩

theorem Traffic.postsUpTo_nil (bodies : List Json) : Traffic.PostsUpTo bodies [] :=
  ⟨[], List.nil_prefix, .nil⟩

namespace MetadataIndex

open Search

variable {α : Type} {body : Json}

/-- Where a body is posted, it is the body of the only request. -/
theorem always_asking {e : Endpoint} (he : e.backend = .engine) (name : String)
    (events : List Event) (body : Json) (read : Json → Except Cause α) :
    Always [] (do
      Exchange.emitAll events
      let r ← e.call .post ("/" ++ name ++ "/_search") searchQuery (.json body)
      check r
      let answer ← Attempt.ofRead r.json
      Attempt.ofRead (read answer) : Attempt α)
      (fun _ t => t.Posts [body]) fun _ t => t.PostsUpTo [body] := by
  let ask : Ask := ⟨.post, "/" ++ name ++ "/_search", searchQuery, .json body, true⟩
  have hposts : ∀ {url : Url} {m : Request × Reply}, ask.Makes e url m.1 →
      Traffic.Posts [body] [m] := by
    intro url m hmakes
    obtain ⟨hbackend, -, hmade⟩ := Endpoint.made_of_request hmakes.request
    exact .cons ⟨hbackend.trans he, hmade.verb, hmade.payload⟩ .nil
  refine .emitAll_bind (.bind (m := fun _ t => t.Posts [body])
    ((Always.alone (a := ask) rfl).mono ?_ ?_) fun resp t ht => ?_)
  · rintro resp t ⟨m, rfl, url, -, hmakes, -⟩
    exact hposts hmakes
  · rintro - t (⟨rfl, -⟩ | ⟨m, rfl, ⟨url, hmakes⟩, -⟩)
    · exact Traffic.postsUpTo_nil _
    · exact (hposts hmakes).upTo
  · exact .check_bind (fun _ => ⟨fun _ => ht.upTo, fun _ => ht.upTo⟩) fun _ =>
      .ofRead_bind (fun _ _ => ht.upTo) fun answer _ =>
        .ofRead (fun _ _ => ht.upTo) fun _ _ => ht

/-- The same for an operation on an index that is named by a text. -/
theorem always_named (s : Settings) (text : String) (activity : Activity) (event : String)
    {attempt : Endpoint → String → Attempt α}
    (h : ∀ e name, e.backend = .engine → Always [] (attempt e name) (fun _ t => t.Posts [body])
      fun _ t => t.PostsUpTo [body]) :
    Always [] (do
      Action.require (.str text) "index_name"
      let name ← lowered (.str text)
      let e ← connected s .engine
      (attempt e name).guarded (fail activity event))
      (fun _ t => t.Posts [body]) fun _ t => t.PostsUpTo [body] := by
  refine .require_bind (fun _ => Traffic.postsUpTo_nil _) fun _ => ?_
  refine .bind (m := fun _ t => t = []) (.pure rfl) fun name t ht => ?_
  subst ht
  refine .bind ((Always.connected s .engine).mono (fun _ _ h => h) ?_) ?_
  · rintro f t ⟨-, rfl⟩
    exact Traffic.postsUpTo_nil _
  · rintro e t ⟨he, rfl⟩
    refine .guarded ((h e name (Settings.backend_of_endpoint? he)).mono (fun _ _ hp => hp) ?_)
    exact fun trouble t hp => .fail fun _ _ => hp

end MetadataIndex

namespace Depot

open MetadataIndex Search

/-- A page of hits is asked for, and then the number of all matches. -/
theorem always_searchFiles (s : Settings) (text : String) (query : Option Query) (p : Pageable) :
    Always [] ((Depot.remote s).searchFiles (.str text) query (some p))
      (fun page t => page.pageable = p ∧
        t.Posts [searchBody s.fillAbsent query p, countBody s.fillAbsent query])
      fun _ t => t.PostsUpTo [searchBody s.fillAbsent query p, countBody s.fillAbsent query] := by
  have hsearch := always_named s text .searching "search_documents_failed" fun e name he =>
      always_asking he name (reportsOf s.fillAbsent query) (searchBody s.fillAbsent query p) hitsOf
  have hcount := always_named s text .counting "count_documents_failed" fun e name he =>
      always_asking he name (reportsOf s.fillAbsent query) (countBody s.fillAbsent query) totalOf
  refine .require_bind (fun _ => Traffic.postsUpTo_nil _) fun _ => ?_
  refine .bind (hsearch.mono (fun _ _ h => h) ?_) fun ms t ht => ?_
  · rintro - t ⟨sent, hsent, ht⟩
    exact ⟨sent, hsent.trans (List.prefix_append _ _), ht⟩
  refine .bind ((hcount.after t).mono (fun _ _ h => h) ?_) ?_
  · rintro - _ ⟨u, rfl, sent, hsent, hu⟩
    exact ⟨_ ++ sent, List.prefix_append_right_inj _ |>.2 hsent, List.rel_append ht hu⟩
  · rintro total _ ⟨u, rfl, hu⟩
    exact .pure ⟨rfl, List.rel_append ht hu⟩

end Depot

namespace Api

open Exchange

namespace Request

variable {r : Request} {s : Settings} {fill : Bool} {a : Response} {t : Traffic}

/-- The page that a request asks for, within the bounds, and what the engine is asked to find it. -/
structure Plans (r : Request) (s : Settings) (fill : Bool) (page size : Int) (asked : List Json) :
    Prop where
  asksFor : r.AsksFor s page size
  bodies_eq : ∃ query, Service.queryBody r.jsonBody = .ok query ∧
    asked = r.bodies (Search.predicateOf fill query).toJson page size

/-- A response to a request for a search, and what was sent and answered before it. -/
structure IsBounded (r : Request) (s : Settings) (fill : Bool) (a : Response) (t : Traffic) :
    Prop where
  sent : t = [] ∨ ∃ page size asked, r.Plans s fill page size asked ∧ t.PostsUpTo asked
  refused : (∀ page size, ¬ r.AsksFor s page size) →
    t = [] ∧ (r.namesHost = true → a.status = 400 ∨ a.status = 422)
  shown : a.status = 200 → ∃ page size asked, r.Plans s fill page size asked ∧ t.Posts asked ∧
    ∃ content total pages, a.content = .json (.obj [("content", .arr content),
      ("total_elements", .int total), ("total_pages", .int pages), ("number", .int page),
      ("size", .int size)])

namespace IsBounded

theorem congr {a' : Response} (h : r.IsBounded s fill a t)
    (heq : a'.status = a.status ∧ a'.content = a.content) : r.IsBounded s fill a' t := by
  refine ⟨h.sent, ?_, ?_⟩
  · rw [heq.1]
    exact h.refused
  · rw [heq.1, heq.2]
    exact h.shown

theorem of_refusal (h : r.namesHost = true → a.status = 400 ∨ a.status = 422)
    (h200 : a.status ≠ 200) : r.IsBounded s fill a [] :=
  ⟨.inl rfl, fun _ => ⟨rfl, h⟩, fun h => absurd h h200⟩

theorem of_plan {page size : Int} {asked : List Json} (h : r.Plans s fill page size asked)
    (ht : t.PostsUpTo asked) (h200 : a.status ≠ 200) : r.IsBounded s fill a t :=
  ⟨.inr ⟨page, size, asked, h, ht⟩, fun hno => absurd h.asksFor (hno page size),
    fun h => absurd h h200⟩

end IsBounded

end Request

namespace Service

variable {svc : Service} {r : Request} {s : Settings} {routes : Routes}

/-- How a search fails: for the request, before anything is sent, or after it was sent what was
planned, or some of it. -/
def SearchFails (r : Request) (s : Settings) (fill : Bool) (f : Failure) (t : Traffic) : Prop :=
  (t = [] ∧ ∃ e, f = .error e ∧ e.kind = .validation) ∨
    ∃ page size asked, r.Plans s fill page size asked ∧ t.PostsUpTo asked

/-- A page is shown with its number and its size. -/
theorem pageJson_eq_ok {page : Page Metadata} {v : Json} (h : pageJson page = .ok v) :
    ∃ content total pages, v = .obj [("content", .arr content), ("total_elements", .int total),
      ("total_pages", .int pages), ("number", .int page.pageable.page),
      ("size", .int page.pageable.size)] := by
  unfold pageJson at h
  rcases hrecords : page.content.mapM metadataJson with f | records
  · rw [hrecords] at h
    cases h
  rw [hrecords] at h
  rcases hpages : ({ page with content := records } : Page Json).totalPages with f | pages
  · simp only [Bind.bind, Except.bind, Page.toJson, hpages] at h
    cases h
  · simp only [Bind.bind, Except.bind, Page.toJson, hpages] at h
    cases h
    exact ⟨_, _, _, rfl⟩

theorem status_readJson {response : Response} (h : readJson r = .error response) :
    response.status = 400 ∨ response.status = 422 := by
  unfold readJson at h
  split at h
  · cases h
    exact .inr rfl
  · cases h
    exact .inl rfl
  · cases h

theorem readJson_eq_ok {body : JsonBody} (h : readJson r = .ok body) : body = r.jsonBody := by
  unfold readJson at h
  split at h <;> cases h
  rfl

/-- What passes after issues has met none. -/
theorem after_eq_ok {α : Type} {issues : List Issue} {found : Checked α} {a : α}
    (h : after issues found = .ok a) : found = .ok a := by
  unfold after at h
  split at h
  · exact h
  · cases h
  · cases h

/-- The bodies that are sent for a page are those that the request asks for. -/
theorem bodies_eq {fill : Bool} {query : Option Query} {p : Pageable}
    (h : p.sort = r.sortAsked.toList) :
    [Search.searchBody fill query p, Search.countBody fill query] =
      r.bodies (Search.predicateOf fill query).toJson p.page p.size := by
  unfold Search.searchBody Request.bodies
  rw [h]
  cases r.sortAsked <;> rfl

/-- A page that the request asks for is searched for and shown. -/
theorem always_shown {index : String} {query : Option Query} {p : Pageable}
    (hasks : r.AsksFor svc.settings p.page p.size) (hsort : p.sort = r.sortAsked.toList)
    (hquery : queryBody r.jsonBody = .ok query) :
    Always [] (do
      valueResponse (pageJson (← (Depot.remote s).searchFiles (.str index) query (some p))))
      (r.IsBounded svc.settings s.fillAbsent) (SearchFails r svc.settings s.fillAbsent) := by
  have hplans : r.Plans svc.settings s.fillAbsent p.page p.size
      [Search.searchBody s.fillAbsent query p, Search.countBody s.fillAbsent query] :=
    ⟨hasks, query, hquery, bodies_eq hsort⟩
  refine .bind ((Depot.always_searchFiles s index query p).mono (fun _ _ h => h)
    fun f t ht => .inr ⟨_, _, _, hplans, ht⟩) ?_
  -- the page that is shown carries the request for it, and so its number and its size
  rintro page t ⟨rfl, ht⟩
  rcases hshown : pageJson page with f | v
  · exact .throw (.inr ⟨_, _, _, hplans, ht.upTo⟩)
  · obtain ⟨content, total, pages, rfl⟩ := pageJson_eq_ok hshown
    refine .pure ⟨.inr ⟨_, _, _, hplans, ht.upTo⟩, fun hno => absurd hasks (hno _ _), fun _ => ?_⟩
    exact ⟨_, _, _, hplans, ht, content, total, pages, rfl⟩

/-- A search stops before anything is sent, or searches for the page that the request asks for. -/
theorem always_searchFiles (hi : svc.installation = some (.remote s)) (ho : svc.outage = none)
    (missing : List Issue) (index : String) :
    Always [] (svc.searchFiles r missing index) (r.IsBounded svc.settings s.fillAbsent)
      (SearchFails r svc.settings s.fillAbsent) := by
  have hrejected : ∀ {a : Response}, a.status = 400 ∨ a.status = 422 →
      r.IsBounded svc.settings s.fillAbsent a [] := fun ha =>
    .of_refusal (fun _ => ha) fun h200 => by rw [h200] at ha; exact absurd ha (by decide)
  unfold searchFiles
  rcases hbody : readJson r with response | body
  · exact .pure (hrejected (status_readJson hbody))
  dsimp only
  rw [access_eq hi ho, pure_bind]
  rcases hfound : (Checked.apply (.ok Prod.mk)
      (after missing (SearchParameters.check r.query))).apply (queryBody body)
    with issues | ⟨given, query⟩
  · exact .pure (hrejected (.inr rfl))
  simp only [Checked.apply_eq_ok] at hfound
  obtain ⟨_, _, ⟨_, _, hmk, hgiven, rfl⟩, hquery, heq⟩ := hfound
  cases hmk
  cases heq
  unfold checked
  dsimp only
  rcases hp : given.pageable svc.settings.defaultPageSize svc.settings.maxPageSize with e | p
  · exact .throw_bind (.inl ⟨rfl, e, rfl, SearchParameters.kind_of_pageable hp⟩)
  obtain ⟨hasks, hsort⟩ := SearchParameters.asksFor_of_pageable (after_eq_ok hgiven) hp
  rw [readJson_eq_ok hbody] at hquery
  exact always_shown hasks hsort hquery

/-- The response to an error of the depot: none that is shown as a success. -/
theorem ends_answerError (e : StoreError) (t : Traffic) :
    (answerError e).Ends (fun o t' => t' = t ∧ (∀ a, o = some a → a.status ≠ 200) ∧
      (e.kind.status < 500 → ∃ a, o = some a ∧ a.status = e.kind.status)) t := by
  have hstatus : e.kind.status ≠ 200 := by cases e.kind <;> decide
  unfold answerError
  dsimp only
  split
  · rename_i hrequest
    exact ⟨rfl, fun a ha => by cases ha; exact hstatus, fun _ => ⟨_, rfl, rfl⟩⟩
  · rename_i hservice
    split
    · exact ⟨rfl, fun a ha => (by cases ha), fun h => absurd h hservice⟩
    · exact ⟨rfl, fun a ha => by cases ha; exact hstatus, fun h => absurd h hservice⟩

theorem ends_respondBy (hi : svc.installation = some (.remote s)) (ho : svc.outage = none)
    {index : String} {missing : List String}
    (hresolve : routes.resolve r.method r.path r.query = .found ⟨.searchFiles index, missing⟩) :
    (svc.respondBy routes r).Ends (fun o t =>
      r.IsBounded svc.settings s.fillAbsent (o.getD .unhandled) t) [] := by
  unfold respondBy
  rw [hresolve]
  refine .bind ((always_searchFiles hi ho _ index).ends.mono fun result t h => ?_)
  have hother : ∀ f : Failure, (∀ e, f ≠ .error e) →
      SearchFails r svc.settings s.fillAbsent f t →
        r.IsBounded svc.settings s.fillAbsent .unhandled t := by
    rintro f hf (⟨-, e, rfl, -⟩ | ⟨page, size, asked, hplans, ht⟩)
    · exact absurd rfl (hf e)
    · exact .of_plan hplans ht (by decide)
  rcases result with (e | issues | f) | a
  · -- only an error before anything was sent has to have a response
    refine (ends_answerError e t).mono ?_
    rintro o t' ⟨rfl, h200, hstatus⟩
    rcases h with ⟨rfl, e', he, hkind⟩ | ⟨page, size, asked, hplans, ht⟩
    · cases he
      rw [hkind] at hstatus
      obtain ⟨a, rfl, ha⟩ := hstatus (by decide)
      exact .of_refusal (fun _ => .inl ha) (h200 a rfl)
    · cases o with
      | none => exact .of_plan hplans ht (by decide)
      | some a => exact .of_plan hplans ht (h200 a rfl)
  · exact hother _ (fun e h => by cases h) h
  · exact hother _ (fun e h => by cases h) h
  · exact h

/-- Only a request of its method leads to a target. -/
theorem method_of_found {a : Aim} {method path : String} {query : List (String × String)}
    (h : routes.resolve method path query = .found a) : a.target.method = method := by
  unfold Routes.resolve at h
  split at h
  · cases h
  · dsimp only at h
    split at h
    · rename_i hfind
      cases h
      have hmethod := List.find?_some hfind
      exact eq_of_beq hmethod
    · cases h
    · split at h <;> cases h

/-- Whatever identifies a request, nothing is sent for it. -/
theorem ends_identify (r : Request) (t : Traffic) : (identify r).Ends (fun _ t' => t' = t) t := by
  unfold identify
  split
  · exact fun _ => rfl
  · exact fun _ => rfl
  · rfl

theorem ends_respondShared (hi : svc.installation = some (.remote s)) (ho : svc.outage = none)
    (hroutes : Routes.ofSettings svc.settings = .ok routes) {index : String}
    {missing : List String}
    (hresolve : routes.resolve r.method r.path r.query = .found ⟨.searchFiles index, missing⟩) :
    (svc.respondShared r).Ends (fun o t =>
      r.IsBounded svc.settings s.fillAbsent (o.getD .unhandled) t) [] := by
  have hmethod : r.method = "POST" := (method_of_found hresolve).symm
  unfold respondShared respond
  rw [Origin.preflight?_eq_none (by rw [hmethod]; decide), hroutes]
  refine .bind ((ends_respondBy hi ho hresolve).mono fun o t h => ?_)
  cases o with
  | none => exact h
  | some a => exact h.congr (Origin.shared_eq ..)

theorem ends_handle (hi : svc.installation = some (.remote s)) (ho : svc.outage = none)
    (hroutes : Routes.ofSettings svc.settings = .ok routes) {index : String}
    {missing : List String}
    (hresolve : routes.resolve r.method r.path r.query = .found ⟨.searchFiles index, missing⟩) :
    (svc.handle r).Ends (r.IsBounded svc.settings s.fillAbsent) [] := by
  cases hhost : r.namesHost with
  | false =>
    unfold handle
    refine .bind ((ends_identify r []).mono ?_)
    rintro id t rfl
    rw [hhost]
    refine .of_refusal (fun h => absurd (hhost.symm.trans h) (by decide)) ?_
    rw [status_forMethod]
    decide
  | true =>
    have hmethod : r.method = "POST" := (method_of_found hresolve).symm
    have hhead : r.method ≠ "HEAD" := by
      rw [hmethod]
      decide
    rw [handle_hosted hhost]
    refine .bind ((ends_identify r []).mono ?_)
    rintro id t rfl
    refine .bind (x := Exchange.modify _)
      (.bind ((ends_respondShared hi ho hroutes hresolve).mono fun o t h => ?_))
    refine .bind (x := Exchange.modify _) ?_
    show r.IsBounded svc.settings s.fillAbsent (sent r id o) t
    cases o with
    | none => rwa [sent, forMethod, if_neg hhead]
    | some a =>
      rw [sent, forMethod, if_neg hhead]
      exact h.congr ⟨rfl, rfl⟩

end Service

/-- What a request for a search makes of the engine stays within the bounds that the settings and
the request set, whatever is answered. -/
theorem searches_within_bounds {svc : Service} {s : Settings} {routes : Routes} {r : Request}
    {index : String} {missing : List String} (hi : svc.installation = some (.remote s))
    (ho : svc.outage = none) (hroutes : Routes.ofSettings svc.settings = .ok routes)
    (hresolve : routes.resolve r.method r.path r.query = .found ⟨.searchFiles index, missing⟩)
    {ω : Type} (answer : ContentDepot.Request → ω → Reply × ω) (c : Context) (w : ω) :
    r.IsBounded svc.settings s.fillAbsent ((svc.handle r).run answer c w).1
      ((svc.handle r).traffic answer c w) :=
  (Service.ends_handle hi ho hroutes hresolve).holds answer c w

/-- A request for a search without a query. -/
def Request.toSearch (parameters : String) : Request where
  scheme := "http"
  method := "POST"
  target := below "/filestore" ["search", "docs"] ++ "?" ++ parameters
  headers := [("host", "api.test")]
  body := .bytes []

/-- The third page of five is asked for, sorted downwards, and shown; the page before the first is
refused. -/
theorem searches_of_docs :
    let svc := (Session.serving .standard).service
    let found := fun (_ : ContentDepot.Request) (_ : Unit) => (Reply.response ⟨200, .json (.obj
      [("hits", .obj [("total", .obj [("value", .int 10)]), ("hits", .arr [])])])⟩, ())
    let third := Request.toSearch "page=2&size=5&sort=a&dir=DESC"
    let before := Request.toSearch "page=-1"
    ∃ routes, Routes.ofSettings svc.settings = .ok routes ∧
      routes.resolve third.method third.path third.query = .found ⟨.searchFiles "docs", []⟩ ∧
      routes.resolve before.method before.path before.query = .found ⟨.searchFiles "docs", []⟩ ∧
      (∃ asked, third.Plans .standard true 2 5 asked ∧
        ((svc.handle third).traffic found .initial ()).Posts asked) ∧
      (svc.handle before).traffic found .initial () = [] ∧
      (((svc.handle before).run found .initial ()).1.status = 400 ∨
        ((svc.handle before).run found .initial ()).1.status = 422) := by
  intro svc found third before
  obtain ⟨routes, hroutes⟩ : ∃ routes, Routes.ofSettings svc.settings = .ok routes := by
    have hok : (Routes.ofSettings svc.settings).isOk = true := by decide +kernel
    rcases hroutes : Routes.ofSettings svc.settings with f | routes
    · rw [hroutes] at hok
      cases hok
    · exact ⟨routes, rfl⟩
  have hmetrics : routes.isMetrics "/filestore/search/docs" = false := by
    rw [Routes.ofSettings_of_plain (by decide) hroutes]
    decide +kernel
  have hresolve : ∀ query, routes.resolve "POST" "/filestore/search/docs" query =
      .found ⟨.searchFiles "docs", []⟩ := fun query =>
    Routes.resolve_search (by decide) hroutes (by decide) (by decide) (by decide) hmetrics query
  have hthird : routes.resolve third.method third.path third.query =
      .found ⟨.searchFiles "docs", []⟩ := by
    rw [show third.path = "/filestore/search/docs" by decide +kernel]
    exact hresolve _
  have hbefore : routes.resolve before.method before.path before.query =
      .found ⟨.searchFiles "docs", []⟩ := by
    rw [show before.path = "/filestore/search/docs" by decide +kernel]
    exact hresolve _
  have hi : svc.installation = some (.remote .standard) := rfl
  have ho : svc.outage = none := rfl
  have hshown := searches_within_bounds hi ho hroutes hthird found .initial ()
  have hrefused := searches_within_bounds hi ho hroutes hbefore found .initial ()
  refine ⟨routes, hroutes, hthird, hbefore, ?_, ?_⟩
  · have h200 : ((svc.handle third).run found .initial ()).1.status = 200 := by decide +kernel
    obtain ⟨page, size, asked, hplans, hposts, -⟩ := hshown.shown h200
    have hpage : third.number? "page" 0 = some 2 := by decide +kernel
    have hsize : third.number? "size" Settings.standard.defaultPageSize = some 5 := by
      decide +kernel
    obtain rfl : page = 2 := Option.some.inj (hplans.asksFor.page_eq.symm.trans hpage)
    obtain rfl : size = 5 := Option.some.inj (hplans.asksFor.size_eq.symm.trans hsize)
    exact ⟨asked, hplans, hposts⟩
  · have hpage : before.number? "page" 0 = some (-1) := by decide +kernel
    have hno : ∀ page size, ¬ before.AsksFor svc.settings page size := by
      intro page size hasks
      obtain rfl : page = -1 := Option.some.inj (hasks.page_eq.symm.trans hpage)
      exact absurd hasks.page_nonneg (by decide)
    obtain ⟨hnone, hstatus⟩ := hrefused.refused hno
    exact ⟨hnone, hstatus (by decide +kernel)⟩

end Api

end ContentDepot
