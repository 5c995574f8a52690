import ContentDepot.Proofs.Depot.Contents
import ContentDepot.Proofs.Depot.Operations
import ContentDepot.Proofs.Repository.Entities

/-!
# What a repository reads

Under an identifier a repository finds the metadata of the document, or none, as
long as the path of the document is admitted (`Repository.metadata?_of_target`), and
what was stored is then read back (`Repository.load_of_stored`).
Reading changes neither documents nor contents (`Repository.quiet_search` and
`Repository.spares_search`, among others).
-/

namespace ContentDepot

open Exchange InMemory Address Search MetadataIndex

/-- Whether a failure says that something is not there. -/
def Failure.isAbsence : Failure → Bool
  | .error e => e.kind = .notFound
  | _ => false

/-! ## Rules -/

/-- What an operation always gives from a standing can be said together with what it leaves. -/
theorem WP.of_result {ε α : Type} {st : Standing} {x : ExceptT ε Exchange α}
    {result : Except ε α} {post : α → Standing → Prop} {fails : ε → Standing → Prop}
    (h : ∀ c w, w.Live → Standing.of c w = st → (carry World.answer x c w).1 = result)
    (hx : WP st x post fails) :
    WP st x (fun a st' => result = .ok a ∧ post a st')
      (fun e st' => result = .error e ∧ fails e st') := by
  refine ⟨fun c w hw hst => ?_⟩
  have hresult := h c w hw hst
  have hleft := hx.carried c w hw hst
  generalize carry World.answer x c w = all at hresult hleft ⊢
  obtain ⟨e | a, c', w'⟩ := all <;> exact ⟨hresult.symm, hleft⟩

section Rules

variable {r : Repository} {d : Depot} {id : Json}

/-- The metadata under an identifier are those that are looked up, or none where they are absent. -/
theorem WP.metadata? {st : Standing} {post : Option Metadata → Standing → Prop}
    {fails : Failure → Standing → Prop}
    (h : WP st (d.metadataById (.str r.index) (.str id.text)) (fun m st' => post (some m) st')
      fun f st' => if f.isAbsence then post none st' else fails f st') :
    WP st (r.metadata? d id) post fails := by
  refine ⟨fun c w hw hst => ?_⟩
  have hx := h.carried c w hw hst
  unfold Repository.metadata?
  rw [carry_mk_bind]
  generalize carry World.answer (d.metadataById (.str r.index) (.str id.text)) c w = result at hx ⊢
  obtain ⟨(e | issues | f) | m, c', w'⟩ := result
  · simp only [Failure.isAbsence, decide_eq_true_eq] at hx
    dsimp only
    split at hx
    · rename_i he
      rw [if_pos he]
      exact hx
    · rename_i he
      rw [if_neg he]
      exact hx
  all_goals exact hx

theorem Quiet.metadata? (h : Quiet (d.metadataById (.str r.index) (.str id.text))) :
    Quiet (r.metadata? d id) := by
  intro c w hw
  have hk := h c w hw
  unfold Repository.metadata?
  rw [carry_mk_bind]
  generalize carry World.answer (d.metadataById (.str r.index) (.str id.text)) c w = result at hk ⊢
  obtain ⟨(e | issues | f) | m, c', w'⟩ := result
  · dsimp only
    split <;> exact hk
  all_goals exact hk

end Rules

namespace Repository

variable {s : Settings} {r : Repository} {st : Standing} {b : Blobs}

/-! ## What is left as it is -/

theorem quiet_load (m : Metadata) : Quiet (r.load (.remote s) m) := by
  refine .bind (Depot.quiet_fileByHash _) fun content => .bind ?_ fun e => .pure _
  cases r.model.deserialize content with
  | ok e => exact .pure e
  | error issues => exact .throw _

theorem quiet_find? (hs : s.HostsAreRoots) (id : Json) : Quiet (r.find? (.remote s) id) := by
  refine .bind (.metadata? (Depot.quiet_metadataById hs _ _)) fun m => ?_
  cases m with
  | none => exact .pure _
  | some m => exact .bind (quiet_load m) fun _ => .pure _

theorem quiet_has (hs : s.HostsAreRoots) (id : Json) : Quiet (r.has (.remote s) id) :=
  .bind (.metadata? (Depot.quiet_metadataById hs _ _)) fun _ => .pure _

theorem quiet_loadAll (ms : List Metadata) : Quiet (r.loadAll (.remote s) ms) := by
  induction ms with
  | nil => exact .pure _
  | cons m ms ih => exact .bind (quiet_load m) fun _ => .bind ih fun _ => .pure _

theorem quiet_search (hs : s.HostsAreRoots) (hn : Depot.NameLeads s (.str r.index))
    (query : Option Query) (pageable : Option Pageable) :
    Quiet (r.search (.remote s) query pageable) := by
  have hpage : ∀ p, Quiet (do
      let page ← (Depot.remote s).searchFiles (.str r.index) query (some p)
      let entities ← r.loadAll (.remote s) page.content
      return (⟨entities, page.pageable, page.totalElements⟩ : Page Entity)) := fun p =>
    .bind (Depot.quiet_searchFiles hs hn query (some p)) fun _ => .bind (quiet_loadAll _) fun _ =>
      .pure _
  unfold search
  cases pageable with
  | some p => exact .bind (.pure p) hpage
  | none =>
    refine .bind ?_ hpage
    cases Pageable.make 0 r.defaultPageSize [] with
    | ok p => exact .pure p
    | error e => exact .throw _

theorem spares_load (hs : s.HostsAreRoots) (m : Metadata) (hb : st.contents = b) :
    Spares b st (r.load (.remote s) m) :=
  .bind ((WP.fileByHash (hs .content) _).mono (fun _ _ h => h ▸ hb) fun _ _ h => h ▸ hb) fun _ _ hb =>
    .bind (.ofChecked (fun _ _ => hb) fun _ => hb) fun _ _ hb => .pure hb

theorem spares_metadata? (hs : s.HostsAreRoots) (id : Json) (hb : st.contents = b) :
    Spares b st (r.metadata? (.remote s) id) :=
  .metadata? ((Spares.metadataById hs hb).mono (fun _ _ h => h) fun f _ h => by split <;> exact h)

theorem spares_find? (hs : s.HostsAreRoots) (id : Json) (hb : st.contents = b) :
    Spares b st (r.find? (.remote s) id) := by
  refine .bind (spares_metadata? hs id hb) fun m st' hb => ?_
  cases m with
  | none => exact .pure hb
  | some m => exact .bind (spares_load hs m hb) fun _ _ hb => .pure hb

theorem spares_has (hs : s.HostsAreRoots) (id : Json) (hb : st.contents = b) :
    Spares b st (r.has (.remote s) id) :=
  .bind (spares_metadata? hs id hb) fun _ _ hb => .pure hb

theorem spares_loadAll (hs : s.HostsAreRoots) (ms : List Metadata) (hb : st.contents = b) :
    Spares b st (r.loadAll (.remote s) ms) := by
  induction ms generalizing st with
  | nil => exact .pure hb
  | cons m ms ih =>
    exact .bind (spares_load hs m hb) fun _ _ hb => .bind (ih hb) fun _ _ hb => .pure hb

theorem spares_search (hs : s.HostsAreRoots) (query : Option Query) (pageable : Option Pageable)
    (hb : st.contents = b) : Spares b st (r.search (.remote s) query pageable) := by
  have hpage : ∀ p st', st'.contents = b → Spares b st' (do
      let page ← (Depot.remote s).searchFiles (.str r.index) query (some p)
      let entities ← r.loadAll (.remote s) page.content
      return (⟨entities, page.pageable, page.totalElements⟩ : Page Entity)) := fun p _ hb =>
    .bind (Spares.searchFiles hs query (some p) hb) fun _ _ hb =>
      .bind (spares_loadAll hs _ hb) fun _ _ hb => .pure hb
  unfold search
  cases pageable with
  | some p => exact .bind (m := fun _ st' => st'.contents = b) (.pure hb) hpage
  | none =>
    refine .bind (m := fun _ st' => st'.contents = b) ?_ hpage
    cases Pageable.make 0 r.defaultPageSize [] with
    | ok p => exact .pure hb
    | error e => exact .throw hb

/-! ## What is found -/

section Finding

variable {e : Endpoint} {index id : String} {url : Url}

/-- A look-up whose path is admitted finds the metadata of the document, or none. -/
theorem metadata?_of_target (st : Standing) (hs : s.HostsAreRoots)
    (he : s.endpoint? .engine = some e) (hl : e.address.Leads (Text.lower r.index) index)
    (hi : r.index ≠ "") (hf : st.engine.failing = none) (h0 : id ≠ "") (h1 : id ≠ ".")
    (h2 : id ≠ "..")
    (ht : e.address.target (documentPath (Text.lower r.index) (.str id)) = .ok url) :
    WP st (r.metadata? (.remote s) (.str id))
      (fun m st' => m = (Entries.get? (st.engine.documents index) id).map (.ofDocument index id) ∧
        st'.contents = st.contents) fun _ _ => False := by
  have hresult : ∀ c w, w.Live → Standing.of c w = st →
      (carry World.answer ((Depot.remote s).metadataById (.str r.index) (.str id)) c w).1 =
        (Entries.get? (st.engine.documents index) id).elim
          (.error (.error (.noDocument (Text.lower r.index) (.str id))))
          fun d => .ok (.ofDocument index id d) := by
    rintro c w hw rfl
    rw [Depot.metadataById_of_target he (hs.isEngine he) hl hw hf hi h0 h1 h2 ht c]
    show _ = (Entries.get? (w.engine.documents index) id).elim _ _
    cases Entries.get? (w.engine.documents index) id <;> rfl
  have hlooked := WP.of_result hresult (Spares.metadataById hs rfl)
  generalize Entries.get? (st.engine.documents index) id = found at hlooked ⊢
  refine .metadata? (hlooked.mono (fun m st' h => ?_) fun f st' h => ?_) <;>
    obtain ⟨hgiven, hleft⟩ := h <;> cases found <;> cases hgiven <;> exact ⟨rfl, hleft⟩

/-- A look-up whose path is not admitted fails for that reason. -/
theorem metadata?_of_refused {f : Fault} (st : Standing) (hs : s.HostsAreRoots)
    (he : s.endpoint? .engine = some e) (hi : r.index ≠ "") (h0 : id ≠ "")
    (ht : e.address.target (documentPath (Text.lower r.index) (.str id)) = .error f) :
    WP st (r.metadata? (.remote s) (.str id)) (fun _ _ => False)
      fun g _ => g = .error (.failed .lookingUp (.fault f)) := by
  refine .metadata? ((WP.of_result (fun c w _ _ => Depot.metadataById_of_refused he hi h0 ht c w)
    (Spares.metadataById hs rfl)).mono (fun m _ h => ?_) fun g _ h => ?_)
  · cases h.1
  · cases h.1
    rfl

/-- What is loaded is what was stored, with the hash of the metadata; it cannot be read if an
integer in it is too long. -/
theorem load_of_stored {m : Metadata} {stored : Entity} (hs : s.HostsAreRoots)
    (hm : r.model.IsSound) (hf : st.contents.failing = none) (hadmits : r.model.Admits stored)
    (hhash : m.hash = some (Blobs.hashOf (EntityModel.serialize stored)))
    (hget : Entries.get? st.contents.blobs (Blobs.hashOf (EntityModel.serialize stored)) =
      some (EntityModel.serialize stored)) :
    WP st (r.load (.remote s) m)
      (fun e st' => stored.isLegible = true ∧ e = r.model.withHash stored m.hash ∧ st' = st)
      fun f _ => stored.isLegible = false ∧ f = .invalid [⟨.jsonInvalid, []⟩] := by
  unfold load
  rw [hhash]
  refine .bind ((WP.fileByHash_of_get? hs hf hget).mono (fun _ _ h => h) fun _ _ h => h.elim) ?_
  rintro _ _ ⟨rfl, rfl⟩
  rw [EntityModel.deserialize_serialize hm hadmits]
  cases hlegible : stored.isLegible with
  | true => exact .pure ⟨rfl, rfl, rfl⟩
  | false => exact .throw ⟨rfl, rfl⟩

end Finding

end Repository

end ContentDepot
