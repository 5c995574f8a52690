import ContentDepot.Proofs.Depot.Histories
import ContentDepot.Proofs.Depot.Pagination

/-!
# Looking metadata up by their hash

Every index that was ever written to matches hashes as a whole, whatever failed
meanwhile. So a look-up by a hash keeps exactly the documents that have it
(`matching_hash`), and gives the first of them, or says that there is none
(`metadataByHash_exact`).
-/

namespace ContentDepot

open Exchange InMemory Search MetadataIndex

/-- The query for a hash. -/
def hashQuery (hash : String) : Query := .single .equals hashKey (.str hash)

/-- Whether a document has the hash. -/
def hasHash (hash : String) (d : Document) : Bool :=
  decide (Entries.get? d hashKey = some (.str hash))

/-- The first document of an index that has the hash. -/
def firstWithHash (engine : Engine) (index hash : String) : Option (String × Document) :=
  (engine.documents index).find? fun d => hasHash hash d.2

variable {fill : Bool} {hash : String}

theorem hash_of_firstWithHash {engine : Engine} {index : String} {d : String × Document}
    (h : firstWithHash engine index hash = some d) :
    Entries.get? d.2 hashKey = some (.str hash) := by
  have hd := List.find?_some h
  exact of_decide_eq_true hd

theorem firstWithHash_eq_none {engine : Engine} {index : String} :
    firstWithHash engine index hash = none ↔
      ∀ d ∈ engine.documents index, Entries.get? d.2 hashKey ≠ some (.str hash) := by
  rw [firstWithHash, List.find?_eq_none]
  exact forall₂_congr fun d _ => not_congr decide_eq_true_iff

theorem predicate_hashQuery (hh : hash ≠ "") :
    (hashQuery hash).predicate fill = .slots [.term hashKey (.str hash)] [] [] := by
  have hfill : fillAbsent fill (.str hash) = .str hash := by
    unfold fillAbsent
    split
    · rename_i heq
      cases heq
    · rename_i heq
      exact absurd (Json.str.inj heq) hh
    · rfl
  have hplace : Clause.place fill ⟨hashKey, [], .known .equals, .str hash⟩ =
      .ok (.must, .term hashKey (.str hash)) := by
    unfold Clause.place
    dsimp only
    rw [hfill]
    rfl
  simp [hashQuery, Query.single, Query.predicate, Query.tests, Clause.testIn?, hplace]

/-- Where hashes are matched as a whole, a document fulfils the query for one exactly if it has it,
and that can be told of every document with a hash. -/
theorem fulfils_hashQuery {keywords : List String} {d : Document} {other : String}
    (hk : hashKey ∈ keywords) (hd : Entries.get? d hashKey = some (.str other)) (hh : hash ≠ "") :
    fulfils keywords d ((hashQuery hash).predicate fill) = .ok (hasHash hash d) := by
  have hkeyword : isKeyword keywords hashKey = true := by
    rw [isKeyword, List.contains_iff_mem.2 hk, Bool.or_true]
  have hvalue : fieldValue d hashKey = .str other := by
    rw [fieldValue, show bareName hashKey = hashKey by decide, hd]
    rfl
  have hterm : passes keywords d (.term hashKey (.str hash)) = .ok (hasHash hash d) := by
    rw [passes, hkeyword, hvalue, hasHash, hd]
    show Except.ok (other == hash) = _
    simp [beq_eq_decide]
  have hall : passesAll keywords d [.term hashKey (.str hash)] = .ok (hasHash hash d) := by
    rw [passesAll, hterm]
    cases hasHash hash d <;> rfl
  rw [predicate_hashQuery hh, fulfils, hall]
  cases hasHash hash d <;> rfl

/-- The documents that a look-up by a hash selects are those that have it, in their order. -/
theorem matching_hash {P : String → Prop} {engine : Engine} {index : String}
    (h : engine.Hashed P) (hx : Entries.has engine.indices index = true) (hh : hash ≠ "") :
    engine.matching index (searchBody fill (some (hashQuery hash)) Depot.firstResult) =
      .ok ((engine.documents index).filter fun d => hasHash hash d.2) := by
  rw [matching_of_fulfils (p := (hashQuery hash).predicate fill) (hasHash hash)
    (fun d hd => ?_) rfl]
  · rw [Engine.keysOf_searchBody]
    rfl
  · obtain ⟨other, hget, -⟩ := h.hashes index d hd
    exact fulfils_hashQuery (h.keywords index hx) hget hh

namespace Depot

variable {s : Settings} {e : Endpoint} {w : World} {i index : String}

/-- A look-up by a hash gives the first document that has it, or says that there is none. -/
theorem metadataByHash_of_hashed {P : String → Prop} (hs : s.endpoint? .engine = some e)
    (hi : i ≠ "") (hw : w.Live) (hx : Finds e w.engine (Text.lower i) index)
    (hashed : w.engine.Hashed P) (hh : hash ≠ "") (c : Context) :
    (carry World.answer ((Depot.remote s).metadataByHash (.str i) (.str hash)) c w).1 =
      match firstWithHash w.engine index hash with
        | some d => .ok (.ofDocument index d.1 d.2)
        | none => .error (.error (.noFileWithHash (.str i) (.str hash))) := by
  have hsend : (searchBody s.fillAbsent (some (hashQuery hash)) firstResult).sendable = true := by
    rw [sendable_searchBody _ _ fun q hq => by cases hq; rfl]
    decide +kernel
  obtain ⟨c', w', hsearch, -⟩ := search_eq hs hi hw hx hsend (matching_hash hashed hx.there hh) c
  unfold metadataByHash
  rw [carry_bind_of_ok (carry_require_str hi ..), carry_bind_of_ok (carry_require_str hh ..),
    show Query.single .equals hashKey (.str hash) = hashQuery hash from rfl,
    carry_bind_of_ok hsearch, firstWithHash, ← List.head?_filter]
  generalize List.filter _ (w.engine.documents index) = ds
  cases ds <;> rfl

theorem metadataByHash_of_fault {f : Fault} (hs : s.endpoint? .engine = some e) (hi : i ≠ "")
    (hh : hash ≠ "")
    (hf : ∀ c, ∃ c', carry World.answer
      (searching e s.fillAbsent (Text.lower i) (some (hashQuery hash)) firstResult) c w =
        (.error (.cause (.fault f)), c', w)) (c : Context) :
    ∃ c', carry World.answer ((Depot.remote s).metadataByHash (.str i) (.str hash)) c w =
      (.error (.error (.failed .searching (.fault f))), c', w) := by
  obtain ⟨c', hsearch⟩ := search_of_fault hs hi hf c
  unfold metadataByHash
  rw [carry_bind_of_ok (carry_require_str hi ..), carry_bind_of_ok (carry_require_str hh ..)]
  exact ⟨c', carry_bind_of_error hsearch⟩

end Depot

/-- Whatever is known of a hash that was indexed by itself: nothing. -/
theorem grows_anything : Grows fun _ _ => True := ⟨fun _ _ _ _ => trivial, fun _ _ => trivial,
  fun _ _ _ _ => trivial⟩

/-- After every history a look-up by a hash, in an index that is there and can be searched, gives
the record of the first document of the index with exactly this hash, and says that there is none
exactly if no document has it. -/
theorem metadataByHash_exact {s : Settings} (hs : s.HostsAreRoots) {steps : List Session.Step}
    (hsteps : ∀ step ∈ steps, step.IsProper) {e : Endpoint} (he : s.endpoint? .engine = some e)
    {i index hash : String} (hi : i ≠ "") (hh : hash ≠ "")
    (hx : Finds e ((Session.fresh s).runSteps steps).2.world.engine (Text.lower i) index) :
    (((Session.fresh s).runSteps steps).2.call
        (.depot (.metadataByHash (.str i) (.str hash)))).1 =
      (match firstWithHash ((Session.fresh s).runSteps steps).2.world.engine index hash with
        | some d => .metadata (.ofDocument index d.1 d.2)
        | none => .failed (.error (.noFileWithHash (.str i) (.str hash)))) ∧
    (∀ m ∈ (((Session.fresh s).runSteps steps).2.call
        (.depot (.metadataByHash (.str i) (.str hash)))).1.shown, m.hash = some hash) ∧
    ((((Session.fresh s).runSteps steps).2.call
        (.depot (.metadataByHash (.str i) (.str hash)))).1 =
          .failed (.error (.noFileWithHash (.str i) (.str hash))) ↔
      ∀ d ∈ ((Session.fresh s).runSteps steps).2.world.engine.documents index,
        Entries.get? d.2 hashKey ≠ some (.str hash)) := by
  have hover : (Session.fresh s).IsOver s := Session.isOver_fresh s
  -- Of the order only the keyword mappings count here, not where a hash comes from.
  have horder : InOrder e (fun _ _ => True) (fun _ => True)
      ((Session.fresh s).runSteps steps).2.standing :=
    (InOrder.fresh fun _ _ => trivial).run hs he grows_anything hover hsteps
      fun _ _ _ _ => trivial
  have houtcome := Depot.metadataByHash_of_hashed he hi (hover.runSteps steps).live hx
    horder.hashed hh ((Session.fresh s).runSteps steps).2.context
  rw [(hover.runSteps steps).call_eq, DepotCall.perform, Session.talk_ofAction, houtcome,
    ← firstWithHash_eq_none]
  rcases hfound : firstWithHash ((Session.fresh s).runSteps steps).2.world.engine index hash with
    _ | d
  · exact ⟨rfl, (fun m hm => by cases hm), fun _ => rfl, fun _ => rfl⟩
  · refine ⟨rfl, ?_, (fun h => by cases h), (fun h => by cases h)⟩
    rintro _ (⟨⟩ | ⟨_, ⟨⟩⟩)
    rw [Metadata.ofDocument, hash_of_firstWithHash hfound]
    rfl

/-- A request to index under an identifier and a hash. -/
def hashed (id hash : String) : DepotCall :=
  .indexFile (some ⟨some id, "docs", none, some hash, [], none⟩)

/-- A write that fails, and three that do not, with two hashes that differ in case alone. -/
def hashedThrice : List Session.Step :=
  [.switch .engine (some 500), .call (hashed "x" "QmAB"), .switch .engine none,
    .call (hashed "y" "qmab"), .call (hashed "z" "QmAB"), .call (hashed "x" "QmAB")]

theorem isProper_hashedThrice : ∀ step ∈ hashedThrice, step.IsProper := by
  have hcall : ∀ id hash, (hashed id hash).IsProper := by
    refine fun id hash => ⟨(fun _ h => by cases h), fun r h => ?_, fun r h f hf => ?_⟩ <;> cases h
    · show '/' ∉ "docs".toList
      decide
    · cases hf
  simp only [hashedThrice, List.forall_mem_cons]
  refine ⟨?_, hcall .., ?_, hcall .., hcall .., hcall .., fun _ h => by cases h⟩
  · rintro status ⟨⟩
    decide
  · rintro status ⟨⟩

/-- The first document with exactly the hash is found. -/
theorem metadataByHash_of_hashedThrice :
    (((Session.fresh .standard).runSteps hashedThrice).2.call
      (.depot (.metadataByHash (.str "docs") (.str "QmAB")))).1 =
        .metadata ⟨"docs", "z", some "QmAB", none, []⟩ := by
  obtain ⟨e, he, -⟩ := Settings.hostsAreRoots_standard .engine
  obtain ⟨hfailing, hthere, hfirst⟩ :
      ((Session.fresh .standard).runSteps hashedThrice).2.world.engine.failing = none ∧
      Entries.has ((Session.fresh .standard).runSteps hashedThrice).2.world.engine.indices "docs" =
        true ∧
      firstWithHash ((Session.fresh .standard).runSteps hashedThrice).2.world.engine "docs" "QmAB" =
        some ("z", [(hashKey, .str "QmAB"), (contentTypeKey, .null)]) := by decide +kernel
  have hfound := (metadataByHash_exact Settings.hostsAreRoots_standard isProper_hashedThrice he
    (by decide) (show "QmAB" ≠ "" by decide) (finds_docs he hfailing hthere)).1
  rw [hfirst] at hfound
  exact hfound

/-- An engine that works creates an index under a plain name whose path fits. -/
theorem WP.createIndex_of_fits {s : Settings} {st : Standing} {i : String} (hs : s.HostsAreRoots)
    (hi : i ≠ "") (hn : Address.IsPlainName (Text.lower i)) (hf : st.engine.failing = none)
    (hfits : Address.fits (indexPath (Text.lower i)) = true) :
    WP st ((Depot.remote s).createIndex (.str i))
      (fun _ st' => st'.engine.failing = none ∧
        Entries.has st'.engine.indices (Text.lower i) = true) (fun _ _ => False) := by
  obtain ⟨e, he, -⟩ := hs .engine
  have hb : (Json.str i).isBlank = false := by simpa [Json.isBlank] using hi
  refine .required_bind hb (.required_bind hb (.connected_bind he (.guarded ?_)))
  have hwhole : Allows e (Text.lower i) [] := allows_of_fits (hs.isEngine he) hn
    Text.DotSegments.anchored_nil (fun s hs => by cases hs) (indexPath_eq _ ▸ hfits)
  exact (createIfMissing_admitted (hs.isEngine he)
    (Address.leads_of_plain (hs.isEngine he).root hn) hwhole hf).mono
      (fun _ _ h => ⟨h.1, h.2 rfl⟩) fun _ _ h => h.elim

theorem Session.has_createIndex {s : Settings} {σ : Session} {i : String} (hs : s.HostsAreRoots)
    (h : σ.IsOver s) (hi : i ≠ "") (hn : Address.IsPlainName (Text.lower i))
    (hf : σ.world.engine.failing = none)
    (hfits : Address.fits (indexPath (Text.lower i)) = true) :
    Entries.has (σ.call (.depot (.createIndex (.str i)))).2.world.engine.indices (Text.lower i) =
      true := by
  have hcreated : WP σ.standing ((Depot.remote s).createIndex (.str i)) _ _ :=
    .createIndex_of_fits hs hi hn hf hfits
  rw [h.call_eq]
  rcases hcreated.talk (g := fun _ => .nothing) h.live with ⟨_, -, -, hx⟩ | ⟨_, -, hno⟩
  · exact hx
  · exact hno.elim

/-- Under a name that leaves no room for the path of a search, no hash is looked up. -/
theorem Session.metadataByHash_of_unfit {s : Settings} {e : Endpoint} {σ : Session} {i : String}
    (h : σ.IsOver s) (he : s.endpoint? .engine = some e) (ha : e.address.base.IsRoot) (hi : i ≠ "")
    (hn : Address.IsPlainName (Text.lower i))
    (hfits : Address.fits ("/" ++ Text.lower i ++ "/_search") = false) (hh : hash ≠ "") :
    (σ.call (.depot (.metadataByHash (.str i) (.str hash)))).1 =
      .failed (.error (.failed .searching (.fault .invalidAddress))) := by
  obtain ⟨c, hfault⟩ := Depot.metadataByHash_of_fault he hi hh
    (fun c => searching_of_unfit ha hn hfits _ _ _ c σ.world) σ.context
  rw [h.call_eq, DepotCall.perform, talk_ofAction, hfault]
  rfl

theorem fits_indexPath_wideName : Address.fits (indexPath wideName) = true := by
  have hkept : ∀ c ∈ (indexPath wideName).toList, Url.isPathChar c = true := by
    intro c hc
    rw [indexPath, String.toList_append] at hc
    rcases List.mem_append.1 hc with hc | hc
    · rw [show c = '/' by simpa using hc]
      decide
    · rw [mem_wideName hc]
      decide
  rw [Address.fits, Url.encodePath, Text.Percent.escapeUnless_of_kept hkept, indexPath,
    String.toList_append, List.length_append, length_wideName]
  decide

/-- A session in which an index came about because a name led to a document of it. -/
def Session.misled : Session :=
  ((fresh .standard).runSteps
    [.call (.createIndex (.str "docs/_doc/x")), .call (hashed "y" "QmAB")]).2

/-- Where an index came about because a name led to a document of it, another document is not
found by its hash; and a search of an index under too wide a name fails, though nothing is there to
be found. -/
theorem metadataByHash_of_misled :
    firstWithHash Session.misled.world.engine "docs" "QmAB" =
        some ("y", [(hashKey, .str "QmAB"), (contentTypeKey, .null)]) ∧
      (∃ f, (Session.misled.call
        (.depot (.metadataByHash (.str "docs") (.str "QmAB")))).1 = .failed f) ∧
      Entries.has ((Session.fresh .standard).call
        (.depot (.createIndex (.str wideName)))).2.world.engine.indices wideName = true ∧
      (((Session.fresh .standard).call (.depot (.createIndex (.str wideName)))).2.call
        (.depot (.metadataByHash (.str wideName) (.str "QmAB")))).1 =
          .failed (.error (.failed .searching (.fault .invalidAddress))) := by
  refine ⟨by decide +kernel, Outcome.failed_of_isSome (by decide +kernel), ?_⟩
  obtain ⟨e, he, hroot⟩ := Settings.hostsAreRoots_standard .engine
  have hplain : Address.IsPlainName (Text.lower wideName) := by
    rw [lower_wideName]
    exact isPlainName_wideName
  have hfits : Address.fits (indexPath (Text.lower wideName)) = true := by
    rw [lower_wideName]
    exact fits_indexPath_wideName
  have hunfit : Address.fits ("/" ++ Text.lower wideName ++ "/_search") = false := by
    rw [lower_wideName]
    exact fits_wideName
  have hne : wideName ≠ "" := isPlainName_wideName.ne_empty
  have hfresh : (Session.fresh .standard).IsOver .standard := Session.isOver_fresh _
  constructor
  · have hx := Session.has_createIndex Settings.hostsAreRoots_standard hfresh hne hplain rfl hfits
    rw [lower_wideName] at hx
    exact hx
  · exact Session.metadataByHash_of_unfit (hfresh.call _) he hroot hne hplain hunfit (by decide)

end ContentDepot
