import ContentDepot.Proofs.Depot.Calls
import ContentDepot.Proofs.Index.Document

/-!
# Writes put records over records

What a depot over the backends in memory shows under an identifier is what its
writes have put there: the hash and the content type of the last one, and the
fields of all of them, the later over the earlier (`recordAfter`).

* `Holds`: the documents of an engine are the records of a list of writes.
* `Holds.wrote`: a write that succeeded puts its record over the one before.
* `Agrees.step`, `Agrees.run`: after a run of calls the documents are the records
  of the writes of the run.
* `upsert_refines`: what is looked up after a run is the record of its writes, and
  what a write answers is what is read back right after it.
-/

namespace ContentDepot

open InMemory Address Exchange Search MetadataIndex

/-! ## Writes and their records -/

/-- A write to an index: the record it is for, and what it puts there. -/
structure Write where
  index : String
  id : String
  hash : String
  contentType : Option String
  fields : Entries Json

/-- The record after a write, given the one before it. -/
def Write.over (w : Write) (before : Option Metadata) : Metadata where
  index := w.index
  id := w.id
  hash := some w.hash
  contentType := w.contentType
  fields := Entries.putAll ((before.map (·.fields)).getD []) w.fields

/-- The record under an identifier after writes in their order. -/
def recordAfter (writes : List Write) (index id : String) : Option Metadata :=
  writes.foldl (fun m w => if w.index = index ∧ w.id = id then some (w.over m) else m) none

theorem recordAfter_append (writes : List Write) (w : Write) (index id : String) :
    recordAfter (writes ++ [w]) index id =
      if w.index = index ∧ w.id = id then some (w.over (recordAfter writes index id))
      else recordAfter writes index id := by
  rw [recordAfter, List.foldl_append]
  rfl

/-- What a request writes under a hash; without an identifier of its own the record goes under
the one that comes back. -/
def IndexRequest.write (r : IndexRequest) (fill : Bool) (hash : String) (receipt : Receipt) :
    Write :=
  ⟨Text.lower r.index, (given r.id).getD receipt.id, hash, r.contentType, r.entries fill⟩

/-- A request whose index has a plain name, if it has one, and that takes neither the names of the
engine for itself nor the reserved keys. -/
structure IndexRequest.IsOrdinary (r : IndexRequest) : Prop where
  index : r.index ≠ "" → IsPlainName r.index
  id : ∀ n : Nat, r.id ≠ some ("auto" ++ toString n)
  hash : ∀ f ∈ r.allFields, f.name ≠ hashKey
  contentType : ∀ f ∈ r.allFields, f.name ≠ contentTypeKey

namespace DepotCall

/-- What a call that gave an outcome has written. -/
def write? (fill : Bool) (c : DepotCall) : Outcome → Option Write
  | .receipt receipt => do
    let r ← c.request?
    let hash ← c.hash?
    return r.write fill hash receipt
  | _ => none

/-- A call whose request is ordinary and whose index has a plain name. -/
structure IsOrdinary (c : DepotCall) : Prop where
  request : ∀ r, c.request? = some r → r.IsOrdinary
  index : ∀ t, c.index? = some (.str t) → t ≠ "" → IsPlainName t

end DepotCall

/-- The writes of a run, in their order. -/
def writesOf (fill : Bool) (calls : List DepotCall) (outcomes : List Outcome) : List Write :=
  (calls.zip outcomes).filterMap fun p => p.1.write? fill p.2

/-! ## The documents of an engine -/

theorem auto_inj {m n : Nat} (h : "auto" ++ toString m = "auto" ++ toString n) : m = n := by
  have hlists := congrArg String.toList ((String.append_right_inj "auto").1 h)
  have hdigits : Nat.toDigits 10 m = Nat.toDigits 10 n := by
    simpa only [Nat.toString_eq_repr, Nat.toList_repr] using hlists
  rw [← Nat.ofDigitChars_ten_toDigits (n := m), hdigits, Nat.ofDigitChars_ten_toDigits]

/-- The documents are the records of the writes; those under names of the engine were issued. -/
structure Holds (e : Engine) (writes : List Write) : Prop where
  healthy : e.failing = none
  records : ∀ index id,
    (Entries.get? (e.documents index) id).map (.ofDocument index id) = recordAfter writes index id
  issued : ∀ index n, (Entries.get? (e.documents index) ("auto" ++ toString n)).isSome →
    n ≤ e.issued

namespace Holds

variable {e e' : Engine} {writes : List Write} {r : IndexRequest}

theorem initial : Holds .initial [] := ⟨rfl, fun _ _ => rfl, fun _ _ h => by cases h⟩

theorem of_unwritten (h : Holds e writes) (hu : e.Unwritten e') : Holds e' writes where
  healthy := hu.failing.trans h.healthy
  records index id := by rw [hu.documents, h.records]
  issued index n hn := by
    rw [hu.documents] at hn
    rw [hu.issued]
    exact h.issued index n hn

/-- Under the next name of the engine there is no document yet. -/
theorem get?_idFor (h : Holds e writes) (index : String) (id : Option String) :
    Entries.get? (e.documents index) (e.idFor id) = id.bind (Entries.get? (e.documents index)) := by
  cases id with
  | some t => rfl
  | none =>
    by_contra hne
    have := h.issued index (e.issued + 1) (Option.isSome_iff_ne_none.2 hne)
    omega

/-- A write that succeeded puts its record over the one before. -/
theorem wrote (h : Holds e writes) (ho : r.IsOrdinary) {fill : Bool} {hash : String}
    {receipt : Receipt} (hid : receipt.id = e.idFor (given r.id))
    (hw : e.Wrote (Text.lower r.index) (given r.id)
      (document fill (.str hash) (.ofOption r.contentType) (some r.resolvedFields)) e') :
    Holds e' (writes ++ [r.write fill hash receipt]) where
  healthy := hw.failing
  records index id := by
    have hwid : (r.write fill hash receipt).id = e.idFor (given r.id) := by
      show (given r.id).getD receipt.id = _
      rw [hid]
      cases given r.id <;> rfl
    rw [recordAfter_append, hw.documents, hwid, show (r.write fill hash receipt).index =
      Text.lower r.index from rfl]
    by_cases hindex : Text.lower r.index = index
    · subst hindex
      rw [if_pos rfl, Entries.get?_put]
      by_cases hkey : e.idFor (given r.id) = id
      · subst hkey
        rw [if_pos rfl, if_pos ⟨rfl, rfl⟩, ← h.records, h.get?_idFor, writtenTo_document,
          Option.map_some, ofDocument_written _ _ _ _ _ ho.hash ho.contentType, Write.over, hwid]
        congr 2
        rcases (given r.id).bind (Entries.get? (e.documents (Text.lower r.index))) with _ | d
        all_goals rfl
      · rw [if_neg hkey, if_neg fun hk => hkey hk.2, h.records]
    · rw [if_neg hindex, if_neg fun hk => hindex hk.1, h.records]
  issued index n hn := by
    have hle : e.issued ≤ e'.issued := by
      rw [hw.issued]
      split <;> omega
    rw [hw.documents] at hn
    split at hn
    · rename_i hindex
      subst hindex
      rw [Entries.get?_put] at hn
      split at hn
      · rename_i hkey
        rcases hg : given r.id with _ | t
        · rw [hg] at hkey
          rw [hw.issued, hg, ← auto_inj hkey]
          exact Nat.le_refl _
        · rw [hg] at hkey
          exact absurd ((given_eq_some hg).1.trans (congrArg some hkey)) (ho.id n)
      · exact Nat.le_trans (h.issued _ n hn) hle
    · exact Nat.le_trans (h.issued _ n hn) hle

end Holds

/-! ## Sessions -/

/-- A session over live backends whose documents are the records of writes. -/
structure Agrees (s : Settings) (σ : Session) (writes : List Write) : Prop where
  session : σ.IsOver s
  holds : Holds σ.world.engine writes

/-- A session over the backends that settings name, with nothing in them yet. -/
structure Session.IsFresh (s : Settings) (σ : Session) : Prop where
  installation : σ.installation = .remote s
  world : σ.world = .initial true

theorem Session.isFresh_fresh (s : Settings) : (fresh s).IsFresh s := ⟨rfl, rfl⟩

theorem Session.IsFresh.agrees {s : Settings} {σ : Session} (h : σ.IsFresh s) :
    Agrees s σ [] := by
  refine ⟨⟨h.installation, ?_⟩, ?_⟩ <;> rw [h.world]
  · exact ⟨rfl, rfl, rfl⟩
  · exact .initial

theorem Session.Indexed.write?_eq {s : Settings} {σ : Session} {c : DepotCall} {receipt : Receipt}
    {r : IndexRequest} {e : Endpoint} (h : Session.Indexed s σ c receipt r e) (fill : Bool) :
    c.write? fill (.receipt receipt) = some (r.write fill receipt.hash receipt) := by
  rw [DepotCall.write?, h.request, h.hash]
  rfl

namespace Agrees

variable {s : Settings} {σ : Session} {writes : List Write} {c : DepotCall} {receipt : Receipt}

/-- After a write that gave a receipt the documents are the records of one write more. -/
theorem wrote (hs : s.HostsAreRoots) (h : Agrees s σ writes) (ho : c.IsOrdinary)
    (hr : (σ.call (.depot c)).1 = .receipt receipt) :
    Agrees s (σ.call (.depot c)).2
      (writes ++ (c.write? s.fillAbsent (.receipt receipt)).toList) := by
  obtain ⟨r, e, hi⟩ := Session.indexed_of_receipt hs h.session hr
  have hor := ho.request r hi.request
  have hl := leads_of_plain hi.isEngine.root (hor.index hi.name).lower
  rw [← hi.index] at hl
  have hwrote := hi.wrote _ hl
  rw [hi.index] at hwrote
  rw [hi.write?_eq]
  exact ⟨h.session.call c, h.holds.wrote hor hi.id hwrote⟩

/-- After a call the documents are the records of the writes before it and its own. -/
theorem step (hs : s.HostsAreRoots) (h : Agrees s σ writes) (ho : c.IsOrdinary)
    (hr : c.isWrite = true → (σ.call (.depot c)).1.receipt?.isSome = true) :
    Agrees s (σ.call (.depot c)).2
      (writes ++ (c.write? s.fillAbsent (σ.call (.depot c)).1).toList) := by
  cases hc : c.isWrite with
  | true =>
    obtain ⟨receipt, hr⟩ := Option.isSome_iff_exists.1 (hr hc)
    rw [Outcome.receipt?_eq_some] at hr
    rw [hr]
    exact h.wrote hs ho hr
  | false =>
    have hnone : c.write? s.fillAbsent (σ.call (.depot c)).1 = none := by
      unfold DepotCall.write?
      split
      · cases c <;> first | rfl | cases hc
      · rfl
    have hk := Session.keeps_call hs h.session (fun index hi t e ht h0 he =>
      ⟨_, leads_of_plain (hs.isEngine he).root (ho.index t (ht ▸ hi) h0).lower⟩) hc
    rw [hnone, Option.toList_none, List.append_nil]
    exact ⟨h.session.call c, h.holds.of_unwritten hk.engine⟩

/-- After a run the documents are the records of the writes before it and those of the run. -/
theorem run (hs : s.HostsAreRoots) (h : Agrees s σ writes) {calls : List DepotCall}
    (ho : ∀ c ∈ calls, c.IsOrdinary)
    (hr : ∀ p ∈ calls.zip (σ.runCalls (calls.map .depot)).1, p.1.isWrite = true →
      p.2.receipt?.isSome = true) :
    Agrees s (σ.runCalls (calls.map .depot)).2
      (writes ++ writesOf s.fillAbsent calls (σ.runCalls (calls.map .depot)).1) := by
  induction calls generalizing σ writes with
  | nil => rwa [writesOf, List.zip_nil_left, List.filterMap_nil, List.append_nil]
  | cons c cs ih =>
    rw [List.map_cons, Session.runCalls_cons, List.zip_cons_cons] at hr
    have hstep := h.step hs (ho c (List.mem_cons_self ..)) (hr _ (List.mem_cons_self ..))
    have hrest := ih hstep (fun c' hc' => ho c' (List.mem_cons_of_mem _ hc'))
      fun p hp => hr p (List.mem_cons_of_mem _ hp)
    have hwrites : (c.write? s.fillAbsent (σ.call (.depot c)).1).toList ++
        writesOf s.fillAbsent cs ((σ.call (.depot c)).2.runCalls (cs.map .depot)).1 =
        writesOf s.fillAbsent (c :: cs) (σ.runCalls ((c :: cs).map .depot)).1 := by
      rw [List.map_cons, Session.runCalls_cons, writesOf, writesOf, List.zip_cons_cons,
        List.filterMap_cons]
      rcases c.write? s.fillAbsent (σ.call (.depot c)).1 with _ | w <;> rfl
    rw [List.append_assoc, hwrites] at hrest
    exact hrest

/-- A look-up gives the record of the writes, as long as the path of the document fits. -/
theorem lookUp (hs : s.HostsAreRoots) (h : Agrees s σ writes) {index id : String}
    (hi : IsPlainName index) (h0 : id ≠ "") (h1 : id ≠ ".") (h2 : id ≠ "..") :
    (σ.call (.depot (.metadataById (.str index) (.str id)))).1 =
      if fits (documentPath (Text.lower index) (.str id)) then
        match recordAfter writes (Text.lower index) id with
        | some m => .metadata m
        | none => .failed (.error (.noDocument (Text.lower index) (.str id)))
      else .failed (.error (.failed .lookingUp (.fault .invalidAddress))) := by
  obtain ⟨e, he, hroot⟩ := hs .engine
  have ht := target_document hroot hi.lower h0
  split
  · rename_i hfits
    rw [if_pos hfits] at ht
    obtain ⟨url, ht⟩ := ht
    rw [Session.lookUp_of_target h.session he (hs.isEngine he) (leads_of_plain hroot hi.lower)
      h.holds.healthy hi.ne_empty h0 h1 h2 ht, ← h.holds.records]
    rcases Entries.get? (σ.world.engine.documents (Text.lower index)) id with _ | d <;> rfl
  · rename_i hfits
    rw [if_neg hfits] at ht
    exact Session.lookUp_of_refused h.session he hi.ne_empty h0 ht

/-- What a write answers is what is read back right after it. -/
theorem readBack (hs : s.HostsAreRoots) (h : Agrees s σ writes) (ho : c.IsOrdinary)
    (hr : (σ.call (.depot c)).1 = .receipt receipt)
    (hfits : (∃ r, c.request? = some r ∧ r.id = some receipt.id) ∨
      fits (documentPath receipt.index (.str receipt.id)) = true) :
    ∃ m, ((σ.call (.depot c)).2.call
        (.depot (.metadataById (.str receipt.index) (.str receipt.id)))).1 = .metadata m ∧
      m.index = receipt.index ∧ m.id = receipt.id ∧ m.hash = some receipt.hash := by
  obtain ⟨r, e, hi⟩ := Session.indexed_of_receipt hs h.session hr
  obtain ⟨h0, h1, h2⟩ := hi.id_ne
  have hplain : IsPlainName receipt.index :=
    hi.index ▸ ((ho.request r hi.request).index hi.name).lower
  have hfits : fits (documentPath receipt.index (.str receipt.id)) = true := by
    refine hfits.elim (fun hgiven => ?_) id
    obtain ⟨r', hr', hid⟩ := hgiven
    obtain rfl : r = r' := Option.some.inj (hi.request.symm.trans hr')
    obtain ⟨url, ht⟩ := hi.target_of_given hid
    have htarget := target_document hi.isEngine.root hplain h0
    by_contra hno
    rw [if_neg hno, ht] at htarget
    cases htarget
  have hlower : Text.lower receipt.index = receipt.index := by rw [hi.index, Text.lower_lower]
  have hlookUp := (h.wrote hs ho hr).lookUp hs hplain h0 h1 h2
  rw [hlower, if_pos hfits, hi.write?_eq, Option.toList_some, recordAfter_append,
    if_pos ⟨hi.index.symm, hi.idFor_given⟩] at hlookUp
  exact ⟨_, hlookUp, hi.index.symm, hi.idFor_given, rfl⟩

end Agrees

/-! ## Runs from empty backends -/

/-- After a run that begins with empty backends and in which every write gave a receipt, a look-up
gives the record of the writes of the run, and says that there is none where nothing was written;
it fails where the path of the document does not fit into a URL. What a write of the run has
answered is what is read back right after it. -/
theorem upsert_refines {s : Settings} (hs : s.HostsAreRoots) {σ : Session} (hσ : σ.IsFresh s)
    {calls : List DepotCall} (ho : ∀ c ∈ calls, c.IsOrdinary)
    (hr : ∀ p ∈ calls.zip (σ.runCalls (calls.map .depot)).1, p.1.isWrite = true →
      p.2.receipt?.isSome = true) :
    (∀ index id, IsPlainName index → id ≠ "" → id ≠ "." → id ≠ ".." →
      ((σ.runCalls (calls.map .depot)).2.call
          (.depot (.metadataById (.str index) (.str id)))).1 =
        if fits (documentPath (Text.lower index) (.str id)) then
          match recordAfter (writesOf s.fillAbsent calls (σ.runCalls (calls.map .depot)).1)
              (Text.lower index) id with
          | some m => .metadata m
          | none => .failed (.error (.noDocument (Text.lower index) (.str id)))
        else .failed (.error (.failed .lookingUp (.fault .invalidAddress)))) ∧
    ∀ before c after receipt, calls = before ++ c :: after →
      ((σ.runCalls (before.map .depot)).2.call (.depot c)).1 = .receipt receipt →
      ((∃ r, c.request? = some r ∧ r.id = some receipt.id) ∨
        fits (documentPath receipt.index (.str receipt.id)) = true) →
      ∃ m, (((σ.runCalls (before.map .depot)).2.call (.depot c)).2.call
          (.depot (.metadataById (.str receipt.index) (.str receipt.id)))).1 = .metadata m ∧
        m.index = receipt.index ∧ m.id = receipt.id ∧ m.hash = some receipt.hash := by
  constructor
  · intro index id hi h0 h1 h2
    have hrun := hσ.agrees.run hs ho hr
    rw [List.nil_append] at hrun
    exact hrun.lookUp hs hi h0 h1 h2
  · rintro before c after receipt rfl hreceipt hfits
    have hbefore : ∀ p ∈ before.zip (σ.runCalls (before.map .depot)).1, p.1.isWrite = true →
        p.2.receipt?.isSome = true := by
      intro p hp
      refine hr p ?_
      rw [List.map_append, Session.runCalls_append,
        List.zip_append (by rw [Session.length_runCalls, List.length_map])]
      exact List.mem_append_left _ hp
    have hrun := hσ.agrees.run hs (fun c hc => ho c (List.mem_append_left _ hc)) hbefore
    exact hrun.readBack hs (ho c (List.mem_append_right _ (List.mem_cons_self ..))) hreceipt hfits

/-- Two requests for one identifier, whose index is written in two ways. -/
def twoRequests : List IndexRequest :=
  [⟨some "x/y", "Docs", some "text/plain", some "Qm1", [⟨"size", .int 1, true⟩], none⟩,
    ⟨some "x/y", "DOCS", none, some "Qm2", [⟨"title", .null, true⟩], none⟩]

/-- The later write gives the hash, and the fields of both are there. -/
theorem lookUp_after_two_writes :
    (((Session.fresh .standard).runCalls
        ((twoRequests.map fun r => DepotCall.indexFile (some r)).map .depot)).2.call
          (.depot (.metadataById (.str "docs") (.str "x/y")))).1 =
      .metadata ⟨"docs", "x/y", some "Qm2", none,
        [("size", .int 1), ("title", .str placeholder)]⟩ := by
  have hplain : ∀ name ∈ ["docs", "Docs", "DOCS"], IsPlainName name := by
    intro name hn
    simp only [List.mem_cons, List.not_mem_nil, or_false] at hn
    rcases hn with rfl | rfl | rfl <;> decide
  have hordinary : ∀ r ∈ twoRequests, r.IsOrdinary := by
    intro r hr
    have hid : r.id = some "x/y" := by
      simp only [twoRequests, List.mem_cons, List.not_mem_nil, or_false] at hr
      rcases hr with rfl | rfl <;> rfl
    refine ⟨fun _ => ?_, fun n hn => ?_, ?_, ?_⟩
    · simp only [twoRequests, List.mem_cons, List.not_mem_nil, or_false] at hr
      rcases hr with rfl | rfl <;> exact hplain _ (by decide)
    · rw [hid, Option.some.injEq] at hn
      have := head?_auto (toString n)
      rw [← hn] at this
      exact absurd this (by decide)
    all_goals
      simp only [twoRequests, List.mem_cons, List.not_mem_nil, or_false] at hr
      rcases hr with rfl | rfl <;> decide
  have ho : ∀ c ∈ twoRequests.map fun r => DepotCall.indexFile (some r), c.IsOrdinary := by
    intro c hc
    obtain ⟨r, hr, rfl⟩ := List.mem_map.1 hc
    refine ⟨fun r' h => ?_, fun _ h => by cases h⟩
    cases h
    exact hordinary r hr
  have h := (upsert_refines Settings.hostsAreRoots_standard (Session.isFresh_fresh _) ho
    (by decide +kernel)).1 "docs" "x/y" (hplain _ (by decide)) (by decide) (by decide) (by decide)
  have hrecord : recordAfter (writesOf Settings.standard.fillAbsent
      (twoRequests.map fun r => DepotCall.indexFile (some r))
      ((Session.fresh .standard).runCalls
        ((twoRequests.map fun r => DepotCall.indexFile (some r)).map .depot)).1)
      (Text.lower "docs") "x/y" =
      some ⟨"docs", "x/y", some "Qm2", none, [("size", .int 1), ("title", .str placeholder)]⟩ := by
    decide +kernel
  rw [h, if_pos (by decide +kernel), hrecord]

/-- An identifier that leaves no room for the path before it. -/
def overlong : String := String.ofList (List.replicate Url.maxLength 'x')

theorem fits_overlong (index : String) :
    fits (documentPath index (.str overlong)) = false := by
  have hsegment : Url.maxLength ≤ (Text.Percent.segment overlong).toList.length := by
    have h : overlong.toList.length ≤ (Text.Percent.segment overlong).toList.length := by
      rw [Text.Percent.segment, String.toList_ofList]
      exact Text.Percent.length_escapeUnless _
    rwa [overlong, String.toList_ofList, List.length_replicate] at h
  have hpath : (documentPath index (.str overlong)).toList.length ≤
      (Url.encodePath (documentPath index (.str overlong)).toList).length :=
    Text.Percent.length_escapeUnless _
  have hlength : (Text.Percent.segment overlong).toList.length <
      (documentPath index (.str overlong)).toList.length := by
    rw [documentPath, String.toList_append, String.toList_append, List.length_append,
      List.length_append, show "/_doc/".toList.length = 6 by decide,
      show segment (.str overlong) = Text.Percent.segment overlong from rfl]
    omega
  rw [fits, decide_eq_false_iff_not]
  omega

/-- Where the identifier is so long that the document has no URL, a look-up does not say that
there is no document, though nothing was written; and an index without a name is refused. -/
theorem lookUp_of_overlong :
    (IsPlainName "docs" ∧ overlong ≠ "" ∧ overlong ≠ "." ∧ overlong ≠ ".." ∧
      recordAfter (writesOf true [] ((Session.fresh .standard).runCalls []).1) "docs" overlong = none ∧
      (((Session.fresh .standard).runCalls []).2.call
        (.depot (.metadataById (.str "docs") (.str overlong)))).1 ≠
          .failed (.error (.noDocument "docs" (.str overlong)))) ∧
    (((Session.fresh .standard).runCalls []).2.call
      (.depot (.metadataById (.str "") (.str "x")))).1 =
        .failed (.error (.emptyParameter "index")) := by
  have hplain : IsPlainName "docs" := by decide
  have hne : ∀ t : String, t.toList.length ≠ Url.maxLength → overlong ≠ t := by
    rintro t ht rfl
    rw [overlong, String.toList_ofList, List.length_replicate] at ht
    exact ht rfl
  have h0 := hne "" (by decide)
  have h1 := hne "." (by decide)
  have h2 := hne ".." (by decide)
  have hagrees := (Session.isFresh_fresh .standard).agrees
  rw [show ((Session.fresh .standard).runCalls []).2 = Session.fresh .standard from rfl]
  refine ⟨⟨hplain, h0, h1, h2, rfl, ?_⟩, ?_⟩
  · have hlookUp := hagrees.lookUp Settings.hostsAreRoots_standard hplain h0 h1 h2
    rw [fits_overlong, if_neg Bool.false_ne_true] at hlookUp
    rw [hlookUp]
    simp
  · have hrequire :
        carry World.answer (Action.require (.str "") "index") .initial (.initial true) =
          (.error (.error (.emptyParameter "index")), .initial, .initial true) := rfl
    rw [hagrees.session.call_eq, DepotCall.perform, Session.talk_ofAction]
    unfold Depot.metadataById
    rw [show (Session.fresh .standard).world = .initial true from rfl,
      show (Session.fresh .standard).context = .initial from rfl, carry_bind_of_error hrequire]
    rfl

end ContentDepot
