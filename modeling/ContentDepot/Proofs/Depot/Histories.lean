import ContentDepot.Proofs.Depot.Contents
import ContentDepot.Proofs.Depot.Order
import ContentDepot.Proofs.Session.Steps

/-!
# Order along histories

Every call on a depot leaves the order as it is, whether it succeeds or fails and
whichever backend fails meanwhile, and so does a backend that begins to fail or
works again (`InOrder.step`, `InOrder.run`). What is known of the hashes of
documents is known of the records that a call gives, and stays known
(`InOrder.shown`).
-/

namespace ContentDepot

open Exchange InMemory MetadataIndex Search

/-- What is known of a hash stays known when a content is added, and when the store begins to fail
or works again; it is known of a content that was added. -/
structure Grows (P : Blobs → String → Prop) : Prop where
  kept : ∀ (b : Blobs) content h, P b h → P (b.add content) h
  added : ∀ (b : Blobs) content, P (b.add content) (Blobs.hashOf content)
  switched : ∀ (b : Blobs) status h, P b h → P { b with failing := status } h

/-- Indices without a slash in their names, and fields that leave the hash alone. -/
structure DepotCall.IsProper (c : DepotCall) : Prop where
  index : ∀ index, c.index? = some index → IsUnslashed index
  name : ∀ r, c.request? = some r → '/' ∉ r.index.toList
  fields : ∀ r, c.request? = some r → ∀ f ∈ r.allFields, f.name ≠ hashKey

/-- The hash that a call indexes without storing a content. -/
def DepotCall.indexed? : DepotCall → Option String
  | indexFile r => r.bind (·.hash)
  | _ => none

/-- Calls that are proper, and backends that fail with no status of success. -/
def Session.Step.IsProper : Session.Step → Prop
  | call c => c.IsProper
  | switch _ status => IsOutside status

/-- The hash that a step indexes without storing a content. -/
def Session.Step.indexed? : Session.Step → Option String
  | call c => c.indexed?
  | switch _ _ => none

/-- The records that a call gave. -/
def Outcome.shown : Outcome → List Metadata
  | metadata m => [m]
  | page p => p.content
  | _ => []

namespace InOrder

variable {s : Settings} {e : Endpoint} {P : Blobs → String → Prop}
  {promised promised' : String → Prop} {st : Standing}

theorem weaken (h : InOrder e P promised st) (hp : ∀ hash, promised' hash → promised hash) :
    InOrder e P promised' st :=
  ⟨h.hashed, h.known, h.outside, fun hash hh => h.kept hash (hp hash hh)⟩

/-- Once a content is added its hash can be promised. -/
theorem add (h : InOrder e P promised st) (hP : Grows P) (content : Bytes) :
    InOrder e P (fun hash => promised hash ∨ hash = Blobs.hashOf content)
      { st with contents := st.contents.add content } where
  hashed := h.hashed.mono (hP.kept st.contents content)
  known := h.known
  outside := h.outside
  kept hash hh := by
    rcases hh with hh | rfl
    · exact hP.kept _ _ _ (h.kept hash hh)
    · exact hP.added _ _

theorem switch (h : InOrder e P promised st) (hP : Grows P) (b : Backend) {status : Option Int}
    (hout : IsOutside status) : InOrder e P promised (st.switch b status) := by
  cases b with
  | engine => exact ⟨h.hashed.of_eq rfl rfl, h.known, hout, h.kept⟩
  | content =>
    exact ⟨h.hashed.mono (hP.switched st.contents status), h.known, h.outside,
      fun hash hh => hP.switched _ _ _ (h.kept hash hh)⟩

theorem storeFile (hs : s.HostsAreRoots) (hP : Grows P) (h : InOrder e P promised st)
    (content : Option Bytes) :
    WP st ((Depot.remote s).storeFile content) (fun _ st' => InOrder e P promised st')
      (fun _ st' => InOrder e P promised st') :=
  .storeFile (hs .content) (fun _ => h) fun bytes _ _ => (h.add hP bytes).weaken fun _ => .inl

theorem indexFile (hs : s.HostsAreRoots) (he : s.endpoint? .engine = some e)
    (h : InOrder e P promised st) {request : Option IndexRequest}
    (hc : (DepotCall.indexFile request).IsProper)
    (hp : ∀ hash, (DepotCall.indexFile request).indexed? = some hash → promised hash) :
    WP st ((Depot.remote s).indexFile request) (fun _ st' => InOrder e P promised st')
      (fun _ st' => InOrder e P promised st') := by
  cases request with
  | none => exact .throw h
  | some r =>
    show WP st ((Depot.remote s).indexUnder r (.ofOption r.hash)) _ _
    cases hr : r.hash with
    | none => exact .require_bind h fun _ => .require_bind h fun hb => by cases hb
    | some hash => exact h.indexUnder hs he (hp hash hr) (hc.name r rfl) (hc.fields r rfl)

/-- The content is stored before it is indexed, so that its hash can be promised then. -/
theorem storeAndIndexFile (hs : s.HostsAreRoots) (he : s.endpoint? .engine = some e)
    (hP : Grows P) (h : InOrder e P promised st) {content : Option Bytes}
    {request : Option IndexRequest} (hc : (DepotCall.storeAndIndexFile content request).IsProper) :
    WP st ((Depot.remote s).storeAndIndexFile content request)
      (fun _ st' => InOrder e P promised st') (fun _ st' => InOrder e P promised st') := by
  cases request with
  | none => exact .throw h
  | some r =>
    refine .require_bind h fun _ => .bind (m := fun hash st' => ∃ bytes,
      hash = .str (Blobs.hashOf bytes) ∧
        InOrder e P (fun hash => promised hash ∨ hash = Blobs.hashOf bytes) st')
      (.storeFile (hs .content) (fun _ => h) fun bytes _ _ => ⟨bytes, rfl, h.add hP bytes⟩) ?_
    rintro _ st' ⟨bytes, rfl, h'⟩
    refine .reportingOrphan ((h'.indexUnder hs he (.inr rfl) (hc.name r rfl)
      (hc.fields r rfl)).mono ?_ ?_)
    · exact fun _ _ h => h.weaken fun _ => .inl
    · exact fun _ _ h => h.weaken fun _ => .inl

/-! ## Histories -/

variable {σ : Session} {c : DepotCall}

/-- What a call leaves, and the records that it gives. -/
theorem call (hs : s.HostsAreRoots) (he : s.endpoint? .engine = some e) (hP : Grows P)
    (hσ : σ.IsOver s) (h : InOrder e P promised σ.standing) (hc : c.IsProper)
    (hp : ∀ hash, c.indexed? = some hash → promised hash) :
    InOrder e P promised (σ.call (.depot c)).2.standing ∧
      ∀ m ∈ (σ.call (.depot c)).1.shown,
        m.HasHash (P (σ.call (.depot c)).2.standing.contents) := by
  have hgiven : ∀ {α : Type} {give : α → Outcome} {action : Action α}
      {post : α → Standing → Prop} {fails : Failure → Standing → Prop},
      WP σ.standing action post fails →
      (∀ a st', post a st' → InOrder e P promised st' ∧
        ∀ m ∈ (give a).shown, m.HasHash (P st'.contents)) →
      (∀ f st', fails f st' → InOrder e P promised st') →
      InOrder e P promised (σ.talk (Outcome.ofAction give action)).2.standing ∧
        ∀ m ∈ (σ.talk (Outcome.ofAction give action)).1.shown,
          m.HasHash (P (σ.talk (Outcome.ofAction give action)).2.standing.contents) := by
    intro α give action post fails hwp hpost hfails
    rcases hwp.talk (g := give) hσ.live with ⟨a, ho, ha⟩ | ⟨f, ho, hf⟩
    · rw [ho]
      exact hpost a _ ha
    · rw [ho]
      exact ⟨hfails f _ hf, fun m hm => by cases hm⟩
  have hnone : ∀ {st' : Standing}, InOrder e P promised st' → InOrder e P promised st' ∧
      ∀ m ∈ ([] : List Metadata), m.HasHash (P st'.contents) := fun h =>
    ⟨h, fun m hm => by cases hm⟩
  rw [hσ.call_eq]
  cases c with
  | storeFile content => exact hgiven (h.storeFile hs hP content) (fun _ _ => hnone) fun _ _ h => h
  | indexFile request =>
    exact hgiven (h.indexFile hs he hc hp) (fun _ _ => hnone) fun _ _ h => h
  | storeAndIndexFile content request =>
    exact hgiven (h.storeAndIndexFile hs he hP hc) (fun _ _ => hnone) fun _ _ h => h
  | fileByHash hash =>
    exact hgiven (.fileByHash (hs .content) hash) (fun _ _ hst => hst ▸ hnone h) fun _ _ hst => hst ▸ h
  | metadataById index id =>
    refine hgiven (h.metadataById hs he index id) (fun m st' hm => ⟨hm.1, ?_⟩) fun _ _ h => h
    rintro _ (⟨⟩ | ⟨_, ⟨⟩⟩)
    exact hm.2
  | metadataByHash index hash =>
    refine hgiven (.metadataByHash hs (hc.index index rfl) hash) (fun m st' hm => ?_)
      fun _ _ hst => hst ▸ h
    obtain ⟨rfl, hm⟩ := hm
    refine ⟨h, ?_⟩
    rintro _ (⟨⟩ | ⟨_, ⟨⟩⟩)
    exact h.hasHash hm
  | searchFiles index query pageable =>
    refine hgiven (.searchFiles hs (hc.index index rfl) query pageable) (fun page st' hp => ?_)
      fun _ _ hst => hst ▸ h
    obtain ⟨rfl, hp⟩ := hp
    exact ⟨h, fun m hm => h.hasHash (hp m hm)⟩
  | createIndex index =>
    exact hgiven (h.createIndex hs he (hc.index index rfl)) (fun _ _ => hnone) fun _ _ h => h

/-- What is known of a hash can be promised. -/
theorem promise (h : InOrder e P promised st) {hash : String} (hh : P st.contents hash) :
    InOrder e P (fun x => promised x ∨ x = hash) st :=
  ⟨h.hashed, h.known, h.outside, fun x hx => hx.elim (h.kept x) fun hx => hx ▸ hh⟩

theorem fresh (hp : ∀ hash, promised hash → P .initial hash) :
    InOrder e P promised (Session.fresh s).standing :=
  ⟨.initial, (fun _ h => by cases h), (fun _ h => by cases h), hp⟩

variable {steps : List Session.Step}

theorem step {step : Session.Step} (hs : s.HostsAreRoots) (he : s.endpoint? .engine = some e)
    (hP : Grows P) (hσ : σ.IsOver s) (h : InOrder e P promised σ.standing) (hstep : step.IsProper)
    (hp : ∀ hash, step.indexed? = some hash → promised hash) :
    InOrder e P promised (σ.step step).2.standing := by
  cases step with
  | call c => exact (h.call hs he hP hσ hstep hp).1
  | switch b status =>
    rw [Session.standing_switch]
    exact h.switch hP b hstep

/-- A history leaves the order as it is. -/
theorem run (hs : s.HostsAreRoots) (he : s.endpoint? .engine = some e) (hP : Grows P)
    (hσ : σ.IsOver s) (h : InOrder e P promised σ.standing)
    (hsteps : ∀ step ∈ steps, step.IsProper)
    (hp : ∀ step ∈ steps, ∀ hash, step.indexed? = some hash → promised hash) :
    InOrder e P promised (σ.runSteps steps).2.standing := by
  induction steps generalizing σ with
  | nil => exact h
  | cons step steps ih =>
    have hfirst := h.step hs he hP hσ (hsteps step (List.mem_cons_self ..))
      (hp step (List.mem_cons_self ..))
    exact ih (hσ.step step) hfirst (fun step hm => hsteps step (List.mem_cons_of_mem _ hm))
      fun step hm => hp step (List.mem_cons_of_mem _ hm)

/-- What is known of the hash of a record that a call gives stays known. -/
theorem shown (hs : s.HostsAreRoots) (he : s.endpoint? .engine = some e) (hP : Grows P)
    (hσ : σ.IsOver s) (h : InOrder e P promised σ.standing)
    (hsteps : ∀ step ∈ .call c :: steps, step.IsProper)
    (hp : ∀ step ∈ .call c :: steps, ∀ hash, step.indexed? = some hash → promised hash)
    {m : Metadata} (hm : m ∈ (σ.call (.depot c)).1.shown) :
    m.HasHash (P (σ.runSteps (.call c :: steps)).2.standing.contents) := by
  obtain ⟨hafter, hshown⟩ := h.call hs he hP hσ (hsteps _ (List.mem_cons_self ..))
    (hp _ (List.mem_cons_self ..))
  obtain ⟨hash, hhash, hknown⟩ := hshown m hm
  -- What is known of the hash now becomes a promise, which every later step keeps.
  refine ⟨hash, hhash, ((hafter.promise hknown).run hs he hP (hσ.call c)
    (fun step hm => hsteps step (List.mem_cons_of_mem _ hm)) fun step hm x hx => ?_).kept hash
      (.inr rfl)⟩
  exact .inl (hp step (List.mem_cons_of_mem _ hm) x hx)

end InOrder

end ContentDepot
