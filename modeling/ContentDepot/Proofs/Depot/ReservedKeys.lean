import ContentDepot.Proofs.Depot.Calls
import ContentDepot.Proofs.Index.Document

/-!
# Fields in the place of reserved keys

The fields of a request are put over the reserved keys of its document. So the
hash and the content type of a write are in its document exactly if no field of
the caller has put another value there:

* `reserved_keys_of_write`: for every request, whatever is there before.
* `hash_of_shadowed`: a request whose receipt names another hash than its document.
-/

namespace ContentDepot

open InMemory Exchange MetadataIndex Search

/-- A value over a default is the default exactly if there is none or it is the same. -/
theorem getD_map_eq_iff {α β : Type} {o : Option α} {f : α → β} {b : β} :
    (o.map f).getD b = b ↔ ∀ a, o = some a → f a = b := by
  cases o <;> simp

/-- A write that gave a receipt has changed one document. The hash of the receipt is under its
reserved key exactly if the last field of that name is indexed as that hash, if there is one, and
so is the content type of the request. A look-up under the receipt gives the hash of the receipt
exactly if the last field of that name reads as that hash, where the document has an address; it
has one if the request gave the identifier. -/
theorem reserved_keys_of_write {s : Settings} (hs : s.HostsAreRoots) {σ : Session}
    (h : σ.IsOver s) {c : DepotCall} {receipt : Receipt}
    (hr : (σ.call (.depot c)).1 = .receipt receipt) :
    ∃ r index d, c.request? = some r ∧
      (∀ other, (σ.call (.depot c)).2.world.engine.documents other =
        if index = other then Entries.put (σ.world.engine.documents index) receipt.id d
        else σ.world.engine.documents other) ∧
      (Entries.get? d hashKey = some (.str receipt.hash) ↔
        ∀ f, r.lastField? hashKey = some f →
          fillAbsent s.fillAbsent f.value = .str receipt.hash) ∧
      (Entries.get? d contentTypeKey = some (.ofOption r.contentType) ↔
        ∀ f, r.lastField? contentTypeKey = some f →
          fillAbsent s.fillAbsent f.value = .ofOption r.contentType) ∧
      ∀ e, s.endpoint? .engine = some e →
        (r.id = some receipt.id ∨
          ∃ url, e.address.target (documentPath receipt.index (.str receipt.id)) = .ok url) →
        ∃ m, ((σ.call (.depot c)).2.call
            (.depot (.metadataById (.str receipt.index) (.str receipt.id)))).1 = .metadata m ∧
          (m.hash = some receipt.hash ↔
            ∀ f, r.lastField? hashKey = some f →
              textOf? (some (fillAbsent s.fillAbsent f.value)) = some receipt.hash) := by
  obtain ⟨r, e, hi⟩ := Session.indexed_of_receipt hs h hr
  obtain ⟨index, hl⟩ := hi.leads
  have hw := hi.wrote index hl
  have hd := writtenTo_document σ.world.engine index (given r.id) s.fillAbsent (.str receipt.hash)
    (.ofOption r.contentType) r
  have hkeys := get?_written_reserved
    (((given r.id).bind (Entries.get? (σ.world.engine.documents index))).getD []) s.fillAbsent
    (.str receipt.hash) (.ofOption r.contentType) r
  dsimp only at hkeys
  rw [← hd] at hkeys
  obtain ⟨hhash, hct⟩ := hkeys
  have hdocuments := hw.documents
  rw [← hi.id] at hdocuments
  refine ⟨r, index, _, hi.request, hdocuments, ?_, ?_, fun e' he' haddress => ?_⟩
  · rw [hhash, Option.some.injEq, getD_map_eq_iff]
  · rw [hct, Option.some.injEq, getD_map_eq_iff]
  obtain rfl : e = e' := Option.some.inj (hi.endpoint.symm.trans he')
  obtain ⟨url, ht⟩ := haddress.elim hi.target_of_given id
  obtain ⟨h0, h1, h2⟩ := hi.id_ne
  have hlower : Text.lower receipt.index = receipt.index := by rw [hi.index, Text.lower_lower]
  have hname : receipt.index ≠ "" := hi.index ▸ Text.lower_ne_empty hi.name
  rw [← hlower] at ht hl
  have hlookUp := Session.lookUp_of_target (h.call c) hi.endpoint hi.isEngine hl hw.failing hname
    h0 h1 h2 ht
  rw [hdocuments, if_pos rfl, Entries.get?_put_self] at hlookUp
  refine ⟨_, hlookUp, ?_⟩
  rw [Metadata.ofDocument, hhash]
  rcases r.lastField? hashKey with _ | f
  · simp [textOf?, Json.text]
  · simp

/-- A request with one field, whose value may be meant for the hash. -/
def requestWith (name : String) : IndexRequest :=
  ⟨some "x", "docs", some "text/plain", some "Qm1", [⟨name, .str "other", true⟩], none⟩

/-- A field of another name leaves the hash of the receipt to be read. -/
theorem hash_of_unshadowed :
    (requestWith "title").lastField? hashKey = none ∧
      ∃ m, (((Session.fresh .standard).call
          (.depot (.indexFile (some (requestWith "title"))))).2.call
            (.depot (.metadataById (.str "docs") (.str "x")))).1 = .metadata m ∧
        m.hash = some "Qm1" := by
  have hr := Outcome.receipt?_eq_some.1 (show ((Session.fresh .standard).call
    (.depot (.indexFile (some (requestWith "title"))))).1.receipt? = some ⟨"docs", "x", "Qm1"⟩ by
      decide)
  obtain ⟨r, -, -, hrequest, -, -, -, hlookUp⟩ :=
    reserved_keys_of_write Settings.hostsAreRoots_standard (Session.isOver_fresh _) hr
  obtain rfl : requestWith "title" = r := Option.some.inj hrequest
  have hnone : (requestWith "title").lastField? hashKey = none := by decide
  obtain ⟨e, he, -⟩ := Settings.hostsAreRoots_standard .engine
  obtain ⟨m, hm, hhash⟩ := hlookUp e he (.inl rfl)
  exact ⟨hnone, m, hm, hhash.2 fun f hf => by rw [hnone] at hf; cases hf⟩

/-- A field whose name is the reserved key puts its value there: the document has another hash
than the receipt, and that is what a look-up gives. -/
theorem hash_of_shadowed :
    ((Session.fresh .standard).call
        (.depot (.indexFile (some (requestWith "__hash"))))).1 = .receipt ⟨"docs", "x", "Qm1"⟩ ∧
      Entries.get? (((Session.fresh .standard).call
          (.depot (.indexFile (some (requestWith "__hash"))))).2.world.engine.documents "docs") "x" =
        some [(hashKey, .str "other"), (contentTypeKey, .str "text/plain")] ∧
      (((Session.fresh .standard).call
          (.depot (.indexFile (some (requestWith "__hash"))))).2.call
            (.depot (.metadataById (.str "docs") (.str "x")))).1 =
        .metadata ⟨"docs", "x", some "other", some "text/plain", []⟩ := by
  obtain ⟨hreceipt, hdocument, hfailing⟩ : ((Session.fresh .standard).call
        (.depot (.indexFile (some (requestWith "__hash"))))).1.receipt? =
          some ⟨"docs", "x", "Qm1"⟩ ∧
      Entries.get? (((Session.fresh .standard).call
          (.depot (.indexFile (some (requestWith "__hash"))))).2.world.engine.documents "docs") "x" =
        some [(hashKey, .str "other"), (contentTypeKey, .str "text/plain")] ∧
      ((Session.fresh .standard).call
        (.depot (.indexFile (some (requestWith "__hash"))))).2.world.engine.failing = none := by
    decide +kernel
  refine ⟨Outcome.receipt?_eq_some.1 hreceipt, hdocument, ?_⟩
  obtain ⟨e, he, hroot⟩ := Settings.hostsAreRoots_standard .engine
  have hplain : Address.IsPlainName (Text.lower "docs") := by
    rw [show Text.lower "docs" = "docs" by decide]
    decide
  have htarget := target_document hroot hplain (t := "x") (by decide)
  rw [if_pos (by decide +kernel)] at htarget
  obtain ⟨url, ht⟩ := htarget
  rw [Session.lookUp_of_target ((Session.isOver_fresh _).call _) he
    (Settings.hostsAreRoots_standard.isEngine he) (Address.leads_of_plain hroot hplain) hfailing
    (by decide) (by decide) (by decide) (by decide) ht,
    show Text.lower "docs" = "docs" by decide, hdocument]
  rfl

end ContentDepot
