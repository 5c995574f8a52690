import ContentDepot.Proofs.Api.Handling
import ContentDepot.Proofs.Api.Routing
import ContentDepot.Proofs.Depot.Calls
import ContentDepot.Proofs.Index.Document

/-!
# What is indexed by a request is read by another

A request to index a content that was answered with a receipt has had the depot
write its document (`Session.Serves.indexed`), and a request for metadata under an
identifier shows the document that is there (`Session.Serves.shown`). Together,
where the identifier is one segment of a path:

* `read_of_indexed`: what was indexed is shown, with the index, the identifier and
  the hash of the receipt;
* `Session.Serves.unread`: a request under an identifier with a slash asks for
  something else.
-/

namespace ContentDepot

open Exchange InMemory Address MetadataIndex

namespace Api

/-- A request to index a content below a root. -/
structure Request.Indexes (post : Request) (root : String) (q : IndexRequest) : Prop where
  method : post.method = "POST"
  target : post.target = Request.below root ["index"]
  body : ∃ v, post.jsonBody = .value v ∧ IndexRequest.check .modelAttributesType v = .ok q

/-- A request for metadata under an identifier below a root, with a host that can be read. -/
structure Request.Reads (get : Request) (root index id : String) : Prop where
  method : get.method = "GET"
  target : get.target = Request.below root ["metadata", index, id]
  host : get.namesHost = true

variable {root index id : String} {post get : Request} {q : IndexRequest}

theorem Request.Indexes.path (h : post.Indexes root q) :
    post.path = String.ofList (root.toList ++ "/index".toList) := by
  rw [path_of_below h.target, List.flatMap_singleton,
    show "/index".toList = '/' :: "index".toList by decide]

theorem Request.Reads.path (h : get.Reads root index id) :
    get.path = String.ofList (root.toList ++ metadataChars index id) := by
  rw [path_of_below h.target, flatMap_metadata]

end Api

theorem finitePart_ofOption (t : Option String) : (Json.ofOption t).finitePart = .ofOption t := by
  cases t <;> simp [Json.ofOption, Json.finitePart]

/-- How a record is shown whose fields have no more levels than a response shows. -/
theorem Api.metadataJson_eq {m : Metadata}
    (h : ∀ e ∈ m.fields, e.2.levels ≤ Api.Service.shownLevels) :
    Api.Service.metadataJson m = .ok (.obj [("index", .str m.index), ("id", .str m.id),
      ("hash", .ofOption m.hash), ("content_type", .ofOption m.contentType),
      ("index_fields", (Json.obj m.fields).finitePart)]) := by
  rw [Api.Service.metadataJson, if_pos (List.all_eq_true.2 fun e he => decide_eq_true (h e he)),
    Metadata.toJson]
  simp only [Json.finitePart, Json.finiteMembers, Json.finiteMember, finitePart_ofOption]

namespace Session.Serves

open Api Api.Service

variable {s : Settings} {σ : Session} {routes : Routes} {post get : Api.Request}
  {answer : Api.Response} {q : IndexRequest} {index id : String}

/-- A request to index that was answered with status 200 and a value was carried out by the depot,
and the value is the receipt. -/
theorem indexed (hs : s.HostsAreRoots) (hb : '\x7b' ∉ s.apiRoot.toList) (h : σ.Serves s)
    (hroutes : Routes.ofSettings s = .ok routes) (hpost : post.Indexes s.apiRoot q)
    (ha : (σ.request post).1 = .ok answer) (h200 : answer.status = 200)
    (hjson : ∃ v, answer.content = .json v) :
    routes.isMetrics post.path = false ∧ ∃ receipt c c', answer.content = .json receipt.toJson ∧
      carry World.answer ((Depot.remote s).indexFile (some q)) c σ.world =
        (.ok receipt, c', (σ.request post).2.world) := by
  obtain ⟨c, given, hrespond, hstatus, hcontent, hworld⟩ := h.answered hs hroutes
    (by rw [hpost.method]; decide) (by rw [hpost.method]; decide) ha h200
  have hmetrics : routes.isMetrics post.path = false := by
    by_contra hno
    obtain ⟨v, hv⟩ := hjson
    have hresolve : routes.resolve post.method post.path post.query = .metrics := by
      rw [Routes.resolve, if_pos (by simpa using hno)]
    rw [← hcontent, content_of_metrics hresolve hrespond] at hv
    cases hv
  have hresolve := Routes.resolve_index hb hroutes hpost.path hmetrics post.query
  rw [← hpost.method] at hresolve
  obtain ⟨c', w', hperform, hw'⟩ := respondBy_ok hresolve hrespond hstatus
  obtain ⟨v, hbody, hq⟩ := hpost.body
  rw [show Aim.issues ⟨.indexFile, []⟩ = [] from rfl,
    perform_indexFile h.installation h.outage hbody hq] at hperform
  obtain ⟨receipt, c₁, w₁, hindex, hreceipt⟩ := carry_bind_ok.1 hperform
  cases hreceipt
  refine ⟨hmetrics, receipt, c, c', hcontent.symm, ?_⟩
  rw [hworld, hw']
  exact hindex

/-- A request for metadata under an identifier shows what the depot finds. -/
theorem shown (hs : s.HostsAreRoots) (h : σ.Serves s) (hroutes : Routes.ofSettings s = .ok routes)
    (hget : get.Reads s.apiRoot index id)
    (hresolve : routes.resolve "GET" get.path get.query = .found ⟨.metadataById index id, []⟩)
    {m : Metadata} (hfound : ∀ c, (carry World.answer
      ((Depot.remote s).metadataById (.str index) (.str id)) c σ.world).1 = .ok m)
    {v : Json} (hm : metadataJson m = .ok v) :
    ∃ a, (σ.request get).1 = .ok a ∧ a.status = 200 ∧ a.content = .json v := by
  rw [← hget.method] at hresolve
  have hrespond : ∀ c, (run World.answer (σ.service.respondBy routes get) c σ.world).1 =
      some (.json 200 v) := by
    intro c
    rw [run_respondBy hresolve, show Aim.issues ⟨.metadataById index id, []⟩ = [] from rfl,
      perform_metadataById h.installation h.outage]
    rcases hcarry : carry World.answer
      ((Depot.remote s).metadataById (.str index) (.str id)) c σ.world with ⟨result, c', w'⟩
    obtain rfl : result = .ok m := by
      have hresult := hfound c
      rwa [hcarry] at hresult
    rw [show (Installation.remote s).depot = Depot.remote s from rfl, carry_bind_of_ok hcarry, hm]
    rfl
  exact h.answers hs hroutes (by rw [hget.method]; decide) (by rw [hget.method]; decide)
    hget.host hrespond

/-- A request under an identifier with a slash asks for metadata with a hash, or leads nowhere. -/
theorem unread (hs : s.HostsAreRoots) (hb : '\x7b' ∉ s.apiRoot.toList) (h : σ.Serves s)
    (hroutes : Routes.ofSettings s = .ok routes) (hget : get.Reads s.apiRoot index id)
    (hindex : IsPlainName index) (hmetrics : routes.isMetrics get.path = false)
    (hslash : '/' ∈ id.toList) :
    (∃ hash, id = "hash/" ++ hash ∧
      routes.resolve get.method get.path get.query = .found ⟨.metadataByHash index hash, []⟩) ∨
    ∃ a, (σ.request get).1 = .ok a ∧ (a.status = 404 ∨ a.status = 307) := by
  have hanswers : ∀ given, (∀ c, (run World.answer (σ.service.respondBy routes get) c
      σ.world).1 = some given) → ∃ a, (σ.request get).1 = .ok a ∧ a.status = given.status := by
    intro given hrespond
    obtain ⟨a, ha, hstatus, -⟩ := h.answers hs hroutes (by rw [hget.method]; decide)
      (by rw [hget.method]; decide) hget.host hrespond
    exact ⟨a, ha, hstatus⟩
  have hresolve := Routes.resolve_metadata_of_slash hb hroutes hindex.ne_empty
    (fun hi => hindex.no_mark '/' hi (by decide)) hslash hget.path hmetrics get.query
  rw [← hget.method] at hresolve
  rcases hresolve with hhash | hmissing | ⟨other, hother⟩
  · exact .inl hhash
  · obtain ⟨a, ha, hstatus⟩ := hanswers (.detail 404 "Not Found") fun c => by
      rw [respondBy, hmissing]
      rfl
    exact .inr ⟨a, ha, .inl hstatus⟩
  · obtain ⟨a, ha, hstatus⟩ := hanswers ⟨307, [("location", Routes.location get other)], .empty⟩
      fun c => by
        rw [respondBy, hother]
        rfl
    exact .inr ⟨a, ha, .inr hstatus⟩

end Session.Serves

/-! ## Reading back -/

/-- Without fields of the caller, what was indexed has the fields that were there before. -/
theorem entries_eq_nil {q : IndexRequest} (h : q.allFields = []) (fill : Bool) :
    q.entries fill = [] := by
  rw [IndexRequest.entries, q.resolvedFields_eq, h]
  rfl

/-- The record under an identifier after a content was indexed there without fields of the
caller. -/
theorem Depot.metadataById_of_indexed {s : Settings} (hs : s.HostsAreRoots) {w w' : World}
    (hw : w.Live) {q : IndexRequest} {id : String} {receipt : Receipt}
    (hindex : IsPlainName q.index) (hid : q.id = some id) (h0 : id ≠ "") (hfields : q.allFields = []) {c c' : Context}
    (h : carry World.answer ((Depot.remote s).indexFile (some q)) c w = (.ok receipt, c', w')) :
    (receipt.index = Text.lower q.index ∧ receipt.id = id ∧ q.hash = some receipt.hash) ∧
      ∀ c, (carry World.answer ((Depot.remote s).metadataById (.str q.index) (.str id)) c w').1 =
        .ok
          { index := receipt.index
            id := receipt.id
            hash := some receipt.hash
            contentType := q.contentType
            fields := (Metadata.ofDocument (Text.lower q.index) id ((Entries.get?
              (w.engine.documents (Text.lower q.index)) id).getD [])).fields } := by
  obtain ⟨e, he, hroot⟩ := hs .engine
  have hengine := hs.isEngine he
  have hgiven : given q.id = some id := by
    rw [hid, given, Option.filter_some, if_pos (by simpa using h0)]
  obtain ⟨hne, hhash, hri, hrid, hlive, hreaches, -, -, hwrote⟩ :=
    Depot.indexUnder_ok he hengine hw h
  have hl := leads_of_plain hroot hindex.lower
  have hdocuments := (hwrote _ hl).documents (Text.lower q.index)
  obtain ⟨h1, h2, url, htarget⟩ := hreaches id hgiven
  rw [hgiven] at hrid hdocuments
  obtain rfl : receipt.id = id := hrid
  have hqhash : q.hash = some receipt.hash := by
    rcases hq : q.hash with _ | t
    · rw [hq] at hhash
      cases hhash
    · rw [hq] at hhash
      cases hhash
      rfl
  have hdocument : Entries.get? (w'.engine.documents (Text.lower q.index)) receipt.id =
      some (Entries.putAll
        ((Entries.get? (w.engine.documents (Text.lower q.index)) receipt.id).getD [])
        (document s.fillAbsent (.str receipt.hash) (.ofOption q.contentType)
          (some q.resolvedFields))) := by
    rw [hdocuments, if_pos rfl, show w.engine.idFor (some receipt.id) = receipt.id from rfl,
      Entries.get?_put_self, writtenTo_document, hhash]
    rfl
  have hno : ∀ key, ∀ f ∈ q.allFields, f.name ≠ key := by
    intro key f hf
    rw [hfields] at hf
    cases hf
  refine ⟨⟨hri, rfl, hqhash⟩, fun c => ?_⟩
  rw [Depot.metadataById_of_target he hengine hl hlive (hwrote _ hl).failing hne h0 h1 h2 htarget,
    hdocument, hri]
  dsimp only
  rw [ofDocument_written _ _ _ _ _ (hno _) (hno _), entries_eq_nil hfields]
  rfl

/-- What was indexed by a request under an identifier without a slash, and was answered with a
receipt, is shown by a request for metadata under the index and the identifier: with the index, the
identifier and the hash of the receipt. The fields of a record that was there before, if one was,
have no more levels than a response shows. -/
theorem read_of_indexed {s : Settings} (hs : s.HostsAreRoots) (hb : '\x7b' ∉ s.apiRoot.toList)
    {σ : Session} (hσ : σ.Serves s) {post get : Api.Request} {q : IndexRequest} {id : String}
    {answer : Api.Response} (hpost : post.Indexes s.apiRoot q) (hindex : IsPlainName q.index)
    (hid : q.id = some id) (h0 : id ≠ "") (hfields : q.allFields = [])
    (hold : ∀ d, Entries.get? (σ.world.engine.documents (Text.lower q.index)) id = some d →
      ∀ e ∈ (Metadata.ofDocument (Text.lower q.index) id d).fields,
        e.2.levels ≤ Api.Service.shownLevels)
    (ha : (σ.request post).1 = .ok answer) (h200 : answer.status = 200)
    (hjson : ∃ v, answer.content = .json v) (hget : get.Reads s.apiRoot q.index id)
    (hslash : '/' ∉ id.toList) :
    ∃ receipt : Receipt, answer.content = .json receipt.toJson ∧
      receipt.index = Text.lower q.index ∧ receipt.id = id ∧ q.hash = some receipt.hash ∧
      ∃ shown contentType fields, ((σ.request post).2.request get).1 = .ok shown ∧
        shown.status = 200 ∧
        shown.content = .json (.obj [("index", .str receipt.index), ("id", .str receipt.id),
          ("hash", .str receipt.hash), ("content_type", contentType),
          ("index_fields", fields)]) := by
  obtain ⟨routes, hroutes⟩ := hσ.routes_of_ok ha
  obtain ⟨hmetrics, receipt, c, c', hcontent, hcarry⟩ :=
    hσ.indexed hs hb hroutes hpost ha h200 hjson
  obtain ⟨-, -, -, hσ'⟩ := hσ.request_eq hs hroutes post
  obtain ⟨hreceipt, hfound⟩ :=
    Depot.metadataById_of_indexed hs hσ.live hindex hid h0 hfields hcarry
  have hnoSlash : '/' ∉ q.index.toList := fun hi => hindex.no_mark '/' hi (by decide)
  have hmetrics' : routes.isMetrics get.path = false := by
    by_contra hshown
    rw [Bool.not_eq_false, hget.path] at hshown
    rw [hpost.path, Api.Routes.isMetrics_index hshown] at hmetrics
    cases hmetrics
  have hresolve := Api.Routes.resolve_metadata hb hroutes hindex.ne_empty hnoSlash h0 hslash
    hget.path hmetrics' get.query
  have hlevels : ∀ e ∈ (Metadata.ofDocument (Text.lower q.index) id ((Entries.get?
      (σ.world.engine.documents (Text.lower q.index)) id).getD [])).fields,
      e.2.levels ≤ Api.Service.shownLevels := by
    intro e he
    rcases hd : Entries.get? (σ.world.engine.documents (Text.lower q.index)) id with _ | d
    · rw [hd] at he
      cases he
    · rw [hd] at he
      exact hold d hd e he
  obtain ⟨shown, hresponse, hstatus, hshown⟩ :=
    hσ'.shown hs hroutes hget hresolve hfound (Api.metadataJson_eq hlevels)
  exact ⟨receipt, hcontent, hreceipt.1, hreceipt.2.1, hreceipt.2.2, shown, _, _, hresponse,
    hstatus, hshown⟩

/-- A session that has just begun, whose service works with its installation. -/
def Session.serving (s : Settings) : Session :=
  { fresh s with service := ⟨s, some (.remote s), none⟩ }

namespace Api.Request

/-- A request to index a content under an identifier. -/
def toIndex (id : String) : Request where
  scheme := "http"
  method := "POST"
  target := below "/filestore" ["index"]
  headers := [("host", "api.test"), ("content-type", "application/json")]
  body := .bytes (Text.Utf8.encode
    ("\x7b\"index\":\"docs\",\"id\":\"" ++ id ++ "\",\"hash\":\"Qm1\"\x7d"))

/-- A request for metadata under an identifier. -/
def forMetadata (id : String) : Request where
  scheme := "http"
  method := "GET"
  target := below "/filestore" ["metadata", "docs", id]
  headers := [("host", "api.test")]
  body := .bytes []

end Api.Request

/-- An identifier that holds every mark of a path but the slash is read back. -/
theorem read_of_marks :
    ∃ answer, ((Session.serving .standard).request (.toIndex "a?b#c%d")).1 = .ok answer ∧
      answer.status = 200 ∧ ∃ shown contentType fields,
        (((Session.serving .standard).request (.toIndex "a?b#c%d")).2.request
          (.forMetadata "a?b#c%d")).1 = .ok shown ∧ shown.status = 200 ∧
        shown.content = .json (.obj [("index", .str "docs"), ("id", .str "a?b#c%d"),
          ("hash", .str "Qm1"), ("content_type", contentType), ("index_fields", fields)]) := by
  have hserves : (Session.serving .standard).Serves .standard := ⟨rfl, rfl, rfl, rfl, rfl, rfl⟩
  have hindexes : (Api.Request.toIndex "a?b#c%d").Indexes Settings.standard.apiRoot
      ⟨some "a?b#c%d", "docs", none, some "Qm1", [], none⟩ :=
    ⟨rfl, rfl, .obj [("index", .str "docs"), ("id", .str "a?b#c%d"), ("hash", .str "Qm1")],
      by decide +kernel, by decide⟩
  have hreads : (Api.Request.forMetadata "a?b#c%d").Reads Settings.standard.apiRoot "docs"
      "a?b#c%d" := ⟨rfl, rfl, by decide⟩
  have hanswered : (((Session.serving .standard).request (.toIndex "a?b#c%d")).1.toOption.map
      fun a => (a.status, a.content)) =
      some (200, .json (Receipt.mk "docs" "a?b#c%d" "Qm1").toJson) := by
    decide +kernel
  rcases ha : ((Session.serving .standard).request (.toIndex "a?b#c%d")).1 with f | answer
  · rw [ha] at hanswered
    cases hanswered
  · rw [ha] at hanswered
    obtain ⟨h200, hjson⟩ := Prod.mk.inj (Option.some.inj hanswered)
    obtain ⟨receipt, hreceipt, hindex, hid, hhash, hshown⟩ :=
      read_of_indexed Settings.hostsAreRoots_standard (by decide) hserves hindexes
        (by decide) rfl (by decide) rfl (fun d hd => by cases hd) ha h200 ⟨_, hjson⟩
        hreads (by decide)
    rw [hindex, hid, ← Option.some.inj hhash] at hshown
    exact ⟨answer, rfl, h200, hshown⟩

/-- Where the identifier holds a slash, the request to index it is answered with a receipt, and a
request for its metadata with status 404. -/
theorem unread_with_slash :
    let σ := Session.serving .standard
    let answered := σ.request (.toIndex "a/b")
    (answered.1.toOption.map fun a => (a.status, a.content)) =
        some (200, .json (Receipt.mk "docs" "a/b" "Qm1").toJson) ∧
      Entries.has (answered.2.world.engine.documents "docs") "a/b" = true ∧
      ((answered.2.request (.forMetadata "a/b")).1.toOption.map (·.status)) = some 404 := by
  decide +kernel

end ContentDepot
