import ContentDepot.Proofs.Index.Taxonomy
import ContentDepot.Proofs.Index.WriteOrder
import ContentDepot.Proofs.Session.Course

/-!
# An index is asked for until it is confirmed

Before a document is written, and when an index is created, the engine is asked
whether the index is there, and it is created if need be. A name that has been
confirmed in that way is kept, and a write does not ask for it again:

* `Confirms`: an answer that confirms a name;
* `goes_createIfMissing`: one talk asks unless the name is kept, and it keeps the
  name exactly if an answer confirms it;
* `IndexCall.keeps_perform`, `IndexCall.kept_of_history`: so it is with every call,
  and with calls one after the other;
* `asks_until_confirmed`: what a call asks, read off the calls before it.
-/

namespace ContentDepot

open Exchange Search

/-! ## Asking and confirming -/

namespace IndexName

/-- Whether an index of the name is there; it is confirmed by the status 200 alone. -/
def heads (name : String) : Stage :=
  ⟨DocumentWrite.head ⟨name, .null, [], true⟩, fun r => r.status = 200⟩

/-- The creation of an index of the name; it is confirmed by a success, and where the index is said
to be there already. -/
def creates (name : String) : Stage :=
  ⟨DocumentWrite.put ⟨name, .null, [], true⟩, DocumentWrite.IsCreated⟩

end IndexName

open IndexName

section Asking

variable (e : Endpoint) (name : String) (t : Traffic)

/-- The engine is asked whether an index of the name is there. -/
def Asks : Prop := ∃ m ∈ t, (heads name).Sends e m.1

/-- The question whether an index of the name is there is one that can be sent. -/
def CanBeAsked : Prop := ∃ r, (heads name).Sends e r

/-- An answer confirms that an index of the name is there. -/
def Confirms : Prop := ∃ m ∈ t, (heads name).Passed e m ∨ (creates name).Passed e m

/-- The request neither asks for an index nor creates one. -/
def Request.IsAside (r : Request) : Prop :=
  r.verb ≠ .head ∧ r.payload ≠ .json MetadataIndex.reservedKeysMapping

end Asking

variable {e : Endpoint} {name : String} {t t' : Traffic}

theorem verb_of_heads {r : Request} (h : (heads name).Sends e r) : r.verb = .head := by
  obtain ⟨url, hmakes⟩ := h
  exact (Endpoint.made_of_request hmakes.request).2.2.verb

theorem payload_of_creates {r : Request} (h : (creates name).Sends e r) :
    r.verb = .put ∧ r.payload = .json MetadataIndex.reservedKeysMapping := by
  obtain ⟨url, hmakes⟩ := h
  have hmade := (Endpoint.made_of_request hmakes.request).2.2
  exact ⟨hmade.verb, hmade.payload⟩

theorem asks_append : Asks e name (t ++ t') ↔ Asks e name t ∨ Asks e name t' := by
  simp only [Asks, List.mem_append, or_and_right, exists_or]

theorem confirms_append : Confirms e name (t ++ t') ↔ Confirms e name t ∨ Confirms e name t' := by
  simp only [Confirms, List.mem_append, or_and_right, exists_or]

theorem not_asks_of_aside (h : ∀ m ∈ t, m.1.IsAside) : ¬ Asks e name t := by
  rintro ⟨m, hm, hs⟩
  exact (h m hm).1 (verb_of_heads hs)

theorem not_confirms_of_aside (h : ∀ m ∈ t, m.1.IsAside) : ¬ Confirms e name t := by
  rintro ⟨m, hm, ⟨url, _, hmakes, -⟩ | ⟨url, _, hmakes, -⟩⟩
  · exact (h m hm).1 (verb_of_heads ⟨url, hmakes⟩)
  · exact (h m hm).2 (payload_of_creates ⟨url, hmakes⟩).2

/-- The question, with the answer to it. -/
theorem confirms_of_heads {m : Request × Reply} (h : (heads name).Sends e m.1) :
    Asks e name [m] ∧ CanBeAsked e name ∧ (Confirms e name [m] ↔ (heads name).Passed e m) := by
  refine ⟨⟨m, .head _, h⟩, ⟨_, h⟩, ?_, fun hm => ⟨m, .head _, .inl hm⟩⟩
  rintro ⟨m', hm', hp | ⟨url, _, hmakes, -⟩⟩
  · rwa [← List.mem_singleton.1 hm']
  · rw [List.mem_singleton.1 hm'] at hmakes
    have hcreates : (creates name).Sends e m.1 := ⟨url, hmakes⟩
    have hput := (payload_of_creates hcreates).1
    rw [verb_of_heads h] at hput
    cases hput

/-- The creation, with the answer to it. -/
theorem confirms_of_creates {m : Request × Reply} (h : (creates name).Sends e m.1) :
    ¬ Asks e name [m] ∧ (Confirms e name [m] ↔ (creates name).Passed e m) := by
  have hno : ¬ (heads name).Sends e m.1 := fun hs => by
    have hhead := verb_of_heads hs
    rw [(payload_of_creates h).1] at hhead
    cases hhead
  constructor
  · rintro ⟨m', hm', hs⟩
    rw [List.mem_singleton.1 hm'] at hs
    exact hno hs
  · refine ⟨?_, fun hm => ⟨m, .head _, .inr hm⟩⟩
    rintro ⟨m', hm', ⟨url, _, hmakes, -⟩ | hp⟩
    · rw [List.mem_singleton.1 hm'] at hmakes
      exact absurd ⟨url, hmakes⟩ hno
    · rwa [← List.mem_singleton.1 hm']

theorem not_asks_nil : ¬ Asks e name [] := not_asks_of_aside fun _ h => nomatch h

theorem not_confirms_nil : ¬ Confirms e name [] := not_confirms_of_aside fun _ h => nomatch h

/-- A question without an answer confirms nothing. -/
theorem unheard_heads (h : Unheard e (heads name).ask t) :
    (Asks e name t ↔ CanBeAsked e name) ∧ ¬ Confirms e name t := by
  rcases h with ⟨rfl, hno⟩ | ⟨m, rfl, hs, hno⟩
  · exact ⟨iff_of_false not_asks_nil fun ⟨r, hr⟩ => hno r hr, not_confirms_nil⟩
  · obtain ⟨hasks, hcan, hheads⟩ := confirms_of_heads hs
    refine ⟨iff_of_true hasks hcan, fun h => ?_⟩
    obtain ⟨url, resp, hmakes, hscheme, hresp, -⟩ := hheads.1 h
    exact hno ⟨url, resp, hmakes, hscheme, hresp, trivial⟩

/-- A creation without an answer confirms nothing. -/
theorem unheard_creates (h : Unheard e (creates name).ask t) :
    ¬ Asks e name t ∧ ¬ Confirms e name t := by
  rcases h with ⟨rfl, hno⟩ | ⟨m, rfl, hs, hno⟩
  · exact ⟨not_asks_nil, not_confirms_nil⟩
  · obtain ⟨hasks, hcreates⟩ := confirms_of_creates hs
    refine ⟨hasks, fun h => ?_⟩
    obtain ⟨url, resp, hmakes, hscheme, hresp, -⟩ := hcreates.1 h
    exact hno ⟨url, resp, hmakes, hscheme, hresp, trivial⟩

/-! ## One talk -/

theorem Context.mem_markMapped {c : Context} {index name : String} :
    name ∈ (c.markMapped index).mapped ↔ name ∈ c.mapped ∨ name = index := by
  unfold Context.markMapped
  split
  · rename_i h
    refine ⟨.inl, ?_⟩
    rintro (hm | rfl)
    · exact hm
    · exact List.contains_iff_mem.1 h
  · rw [List.mem_append, List.mem_singleton]

/-- The names that are kept are those that were kept before, and the one name if it is confirmed. -/
def Remembers (e : Endpoint) (name : String) (c c' : Context) (t : Traffic) : Prop :=
  ∀ other, other ∈ c'.mapped ↔ other ∈ c.mapped ∨ other = name ∧ Confirms e name t

theorem Remembers.of_not {c : Context} (h : ¬ Confirms e name t) : Remembers e name c c t :=
  fun _ => ⟨.inl, fun h' => h'.elim id fun h' => absurd h'.2 h⟩

theorem Remembers.mark {c : Context} (h : Confirms e name t) :
    Remembers e name c (c.markMapped name) t := by
  intro other
  rw [Context.mem_markMapped]
  exact or_congr_right ⟨fun hn => ⟨hn, h⟩, And.left⟩

theorem Remembers.append {c c' : Context} (h : Remembers e name c c' t')
    (ht : ¬ Confirms e name t) : Remembers e name c c' (t ++ t') := by
  intro other
  rw [h other, confirms_append, or_iff_right ht]

namespace MetadataIndex

/-- The creation of an index that is not there. -/
def creating (e : Endpoint) (index : String) : Attempt Unit := do
  let r ← e.call .put (indexPath index) [] (.json reservedKeysMapping)
  if ← Attempt.ofRead (alreadyExists r) then pure ()
  else
    check r
    Exchange.emit .info "created_elasticsearch_index"
  Exchange.modify (·.markMapped index)

theorem createIfMissing_eq (e : Endpoint) (index : String) (trust : Bool) :
    createIfMissing e index trust = (do
      let c ← (Exchange.context : Exchange Context)
      if trust && c.mapped.contains index then return ()
      let r ← e.call .head (indexPath index) [] .empty
      if r.status = 200 then Exchange.modify (·.markMapped index) else creating e index) := rfl

end MetadataIndex

/-- An index is confirmed by its creation, or by the answer that it is there already. -/
theorem goes_creating (e : Endpoint) (name : String) (c : Context) :
    Goes c (MetadataIndex.creating e name) fun _ c' t =>
      ¬ Asks e name t ∧ Remembers e name c c' t := by
  unfold MetadataIndex.creating
  refine .bind (Goes.asked (a := (creates name).ask) rfl) ?heard ?unheard
  case unheard =>
    rintro trouble c' t ⟨rfl, h⟩
    exact ⟨(unheard_creates h).1, .of_not (unheard_creates h).2⟩
  rintro resp c' t ⟨rfl, put, rfl, hput⟩
  have hsends : (creates name).Sends e put.1 := ⟨hput.choose, hput.choose_spec.choose_spec.1⟩
  obtain ⟨hasks, hcreates⟩ := confirms_of_creates hsends
  rw [hput.iff] at hcreates
  have hiff : DocumentWrite.IsCreated resp ↔ Confirms e name ([put] ++ []) := by
    rw [List.append_nil]
    exact hcreates.symm
  refine .ofRead_bind (fun cause hc => ⟨hasks, .of_not (hiff.not.1 ?_)⟩) fun known hknown => ?_
  · exact DocumentWrite.not_isCreated (DocumentWrite.isSuccess_of_alreadyExists_error hc)
      (by rw [hc]; exact fun h => nomatch h)
  cases known with
  | true =>
    exact .modify ⟨hasks, .mark (hiff.1 (DocumentWrite.isCreated_of_alreadyExists hknown))⟩
  | false =>
    refine .check_bind (fun hs _ => ⟨hasks, .of_not (hiff.not.1 ?_)⟩) fun hs => ?_
    · exact DocumentWrite.not_isCreated hs (by rw [hknown]; exact fun h => nomatch h)
    · exact .emit_bind (.modify ⟨hasks, .mark (hiff.1 (.inl hs))⟩)

/-- A talk asks for the index unless its name is kept and that is trusted, and the name is kept
exactly if it is confirmed. -/
theorem goes_createIfMissing (e : Endpoint) (name : String) (trust : Bool) (c : Context) :
    Goes c (MetadataIndex.createIfMissing e name trust) fun _ c' t =>
      (Asks e name t ↔ CanBeAsked e name ∧ ¬ (trust = true ∧ name ∈ c.mapped)) ∧
        Remembers e name c c' t := by
  rw [MetadataIndex.createIfMissing_eq]
  refine .context_bind ?_
  split
  · rename_i hknown
    rw [Bool.and_eq_true, List.contains_iff_mem] at hknown
    exact .pure ⟨iff_of_false not_asks_nil fun h => h.2 hknown, .of_not not_confirms_nil⟩
  rename_i hknown
  rw [Bool.and_eq_true, List.contains_iff_mem] at hknown
  rw [and_iff_left hknown]
  refine .bind (Goes.asked (a := (heads name).ask) rfl) ?heard ?unheard
  case unheard =>
    rintro trouble c' t ⟨rfl, h⟩
    exact ⟨(unheard_heads h).1, .of_not (unheard_heads h).2⟩
  rintro resp c' t ⟨rfl, head, rfl, hhead⟩
  have hsends : (heads name).Sends e head.1 := ⟨hhead.choose, hhead.choose_spec.choose_spec.1⟩
  obtain ⟨hasks, hcan, hheads⟩ := confirms_of_heads hsends
  rw [hhead.iff] at hheads
  have hasked : ∀ t', (Asks e name ([head] ++ t') ↔ CanBeAsked e name) :=
    fun t' => iff_of_true (asks_append.2 (.inl hasks)) hcan
  split
  · rename_i hstatus
    exact .modify ⟨hasked [], .mark (confirms_append.2 (.inl (hheads.2 hstatus)))⟩
  · rename_i hstatus
    exact (goes_creating e name c').mono fun _ _ _ h =>
      ⟨hasked _, h.2.append fun hc => hstatus (hheads.1 hc)⟩

/-! ## The rest of a write -/

/-- An operation that leaves the context as it is and neither asks for an index nor creates one. -/
structure IsAside {ε α : Type} (x : ExceptT ε Exchange α) : Prop where
  discreet : Discreet x
  sends : SendsOnly Request.IsAside x

namespace IsAside

variable {ε α β : Type}

theorem pure (a : α) : IsAside (Pure.pure a : ExceptT ε Exchange α) := ⟨.pure a, .pure a⟩

theorem bind {y : ExceptT ε Exchange β} {f : β → ExceptT ε Exchange α} (hy : IsAside y)
    (hf : ∀ b, IsAside (f b)) : IsAside (y >>= f) :=
  ⟨.bind hy.discreet fun b => (hf b).discreet, .bind hy.sends fun b => (hf b).sends⟩

/-- Nothing follows a failure. -/
theorem throw_bind (err : ε) (f : β → ExceptT ε Exchange α) :
    IsAside (MonadExcept.throw err >>= f) :=
  ⟨.throw_bind err f, Always.throw_bind fun _ h => nomatch h⟩

theorem ofRead (read : Except Cause α) : IsAside (Attempt.ofRead read) :=
  ⟨.ofRead read, .ofRead read⟩

theorem check (r : Response) : IsAside (Search.check r) := ⟨.check r, .check r⟩

theorem call {verb : Verb} {path : String} {query : List (String × String)} {payload : Payload}
    (hv : verb ≠ .head) (hp : payload ≠ .json MetadataIndex.reservedKeysMapping) :
    IsAside (e.call verb path query payload) := by
  refine ⟨.call e verb path query payload, .call fun url r hmakes => ?_⟩
  have hmade := (Endpoint.made_of_request hmakes.request).2.2
  exact ⟨hmade.verb ▸ hv, hmade.payload ▸ hp⟩

end IsAside

theorem ne_reservedKeysMapping {members : Entries Json} (h : Entries.keys members ≠ ["mappings"]) :
    Payload.json (.obj members) ≠ .json MetadataIndex.reservedKeysMapping := by
  intro heq
  rw [Payload.json.injEq, MetadataIndex.reservedKeysMapping, Json.obj.injEq] at heq
  rw [heq] at h
  exact h rfl

/-- A document has the reserved keys, which a mapping has not. -/
theorem keys_document_ne (fill : Bool) (hash contentType : Json)
    (fields : Option (List IndexField)) :
    Entries.keys (MetadataIndex.document fill hash contentType fields) ≠ ["mappings"] := by
  intro heq
  have hmem : hashKey ∈ Entries.keys (MetadataIndex.document fill hash contentType fields) :=
    Entries.mem_keys_putAll.2 (.inl (.head _))
  rw [heq] at hmem
  revert hmem
  decide

namespace MetadataIndex

variable {source : Entries Json}

theorem isAside_documentExists (e : Endpoint) (name : String) (id : Json) :
    IsAside (documentExists e name id) := by
  unfold documentExists
  split
  · exact .pure false
  refine .bind (.call (by decide) (by decide)) fun r => ?_
  split
  · exact .pure false
  exact .bind (.check r) fun _ => .bind (.ofRead _) fun _ => .bind (.ofRead _) fun _ => .pure _

theorem isAside_writeDocument (hsource : Entries.keys source ≠ ["mappings"]) (e : Endpoint)
    (name : String) (id : Json) (isThere : Bool) :
    IsAside (writeDocument e name id isThere source) := by
  unfold writeDocument
  split
  · exact .call (by decide) (ne_reservedKeysMapping (by simp [Entries.keys]))
  split
  · exact .call (by decide) (ne_reservedKeysMapping hsource)
  · exact .call (by decide) (ne_reservedKeysMapping hsource)

theorem isAside_written (hsource : Entries.keys source ≠ ["mappings"]) (e : Endpoint)
    (name : String) (id : Json) (writable isThere : Bool) :
    IsAside (DocumentWrite.written e ⟨name, id, source, writable⟩ isThere) := by
  unfold DocumentWrite.written
  cases writable with
  | false => exact .throw_bind _ _
  | true =>
    simp only [Bool.not_true, Bool.false_eq_true, if_false]
    refine .bind (isAside_writeDocument hsource e name id isThere) fun r => ?_
    refine .bind (.check r) fun _ => .bind (.ofRead _) fun answer =>
      .bind (.ofRead _) fun written => ?_
    exact .bind (.call (by decide) (by decide)) fun r => .bind (.check r) fun _ => .pure written

/-- How the names that are kept change in a write is decided before the document is asked for. -/
theorem goes_writing (hsource : Entries.keys source ≠ ["mappings"]) (e : Endpoint) (name : String)
    (id : Json) (writable : Bool) (c : Context) :
    Goes c (writing e name id source writable) fun _ c' t =>
      (Asks e name t ↔ CanBeAsked e name ∧ name ∉ c.mapped) ∧ Remembers e name c c' t := by
  have hrest : IsAside (documentExists e name id >>=
      DocumentWrite.written e ⟨name, id, source, writable⟩) :=
    .bind (isAside_documentExists e name id) (isAside_written hsource e name id writable)
  refine Goes.bind (f := fun _ => documentExists e name id >>=
    DocumentWrite.written e ⟨name, id, source, writable⟩) (goes_createIfMissing e name true c) ?_ ?_
  · rintro - c' t h
    refine ((Goes.of_discreet hrest.discreet).and (.of_always hrest.sends)).mono ?_
    rintro result c'' t' ⟨rfl, hsent⟩
    have haside : ∀ m ∈ t', m.1.IsAside := by cases result <;> exact hsent
    rw [asks_append, or_iff_left (not_asks_of_aside haside)]
    refine ⟨by simpa using h.1, fun other => ?_⟩
    rw [h.2 other, confirms_append, or_iff_left (not_confirms_of_aside haside)]
  · rintro trouble c' t h
    simpa using h

end MetadataIndex

/-! ## Operations -/

section Operations

variable {s : Settings} {c : Context} {index : String}

theorem Goes.connected_bind {α : Type} {b : Backend} (he : s.endpoint? b = some e)
    {f : Endpoint → Action α} {post : Except Failure α → Context → Traffic → Prop}
    (h : ∀ c', c'.mapped = c.mapped → Goes c' (f e) post) :
    Goes c (connected s b >>= f) post := by
  refine ⟨fun answer w => ?_⟩
  obtain ⟨c', hmapped, hrun, htraffic⟩ := DocumentWrite.connected_silent answer c w s b
  rw [Settings.endpointOf, he] at hrun
  have hsame : SameFrom answer c c' w (connected s b >>= f).run (f e).run :=
    .silent_bind hrun htraffic _
  unfold carry
  rw [hsame.run_eq, hsame.traffic_eq]
  exact (h c' hmapped).ends answer w

theorem goes_fail {α : Type} (activity : Activity) (name : String) (trouble : Trouble) :
    Goes c (MetadataIndex.fail activity name trouble : Action α) fun _ c' t =>
      c'.mapped = c.mapped ∧ t = [] := by
  refine .emit_bind ?_
  cases trouble <;> exact .throw ⟨rfl, rfl⟩

/-- A talk whose trouble is taken for a failure asks and remembers as before. -/
theorem Goes.guarded_by_fail {α : Type} {x : Attempt α} {asked : Prop} {activity : Activity}
    {event : String}
    (h : Goes c x fun _ c' t => (Asks e name t ↔ asked) ∧ Remembers e name c c' t) :
    Goes c (x.guarded (MetadataIndex.fail activity event)) fun _ c' t =>
      (Asks e name t ↔ asked) ∧ Remembers e name c c' t := by
  refine .guarded h (fun _ _ _ h => h) fun trouble c' t h => (goes_fail ..).mono ?_
  rintro _ c'' _ ⟨hmapped, rfl⟩
  rw [List.append_nil]
  refine ⟨h.1, fun other => ?_⟩
  rw [hmapped]
  exact h.2 other

theorem goes_remoteWrite (he : s.endpoint? .engine = some e) (index : String)
    (id hash contentType : Json) (fields : Option (List IndexField)) (c : Context) :
    Goes c (MetadataIndex.remoteWrite s (.str index) id hash contentType fields) fun _ c' t =>
      (Asks e (Text.lower index) t ↔ ((Json.str index).isBlank || hash.isBlank) = false ∧
        CanBeAsked e (Text.lower index) ∧ Text.lower index ∉ c.mapped) ∧
        Remembers e (Text.lower index) c c' t := by
  have hlacks : ∀ {p : Prop}, ((Json.str index).isBlank || hash.isBlank) = true →
      (Asks e (Text.lower index) [] ↔ ((Json.str index).isBlank || hash.isBlank) = false ∧ p) ∧
        Remembers e (Text.lower index) c c [] := by
    intro p h
    refine ⟨iff_of_false not_asks_nil ?_, .of_not not_confirms_nil⟩
    rw [h]
    rintro ⟨h, -⟩
    cases h
  refine .require_bind (fun hb => hlacks (by rw [hb]; rfl)) fun hb => ?_
  refine .require_bind (fun hh => hlacks (by rw [hh, Bool.or_true])) fun hh => ?_
  refine Goes.connected_bind he fun c' hmapped => ?_
  rw [hb, hh, ← hmapped]
  refine (Goes.guarded_by_fail
    (MetadataIndex.goes_writing (keys_document_ne _ _ _ _) e _ _ _ c')).mono ?_
  rintro _ c'' t ⟨hasks, hremembers⟩
  refine ⟨hasks.trans (and_iff_right rfl).symm, fun other => ?_⟩
  rw [hremembers other, hmapped]

theorem goes_remoteCreateIndex (he : s.endpoint? .engine = some e) (index : String) (c : Context) :
    Goes c (MetadataIndex.remoteCreateIndex s (.str index)) fun _ c' t =>
      (Asks e (Text.lower index) t ↔ (Json.str index).isBlank = false ∧
        CanBeAsked e (Text.lower index)) ∧ Remembers e (Text.lower index) c c' t := by
  refine .require_bind (fun hb => ⟨iff_of_false not_asks_nil ?_, .of_not not_confirms_nil⟩)
    fun hb => ?_
  · rw [hb]
    rintro ⟨h, -⟩
    cases h
  refine Goes.connected_bind he fun c' hmapped => ?_
  rw [hb]
  refine (Goes.guarded_by_fail (goes_createIfMissing e _ false c')).mono ?_
  rintro _ c'' t ⟨hasks, hremembers⟩
  refine ⟨by simpa using hasks, fun other => ?_⟩
  rw [hremembers other, hmapped]

/-- The same names are kept. -/
def Context.SameNames (c c' : Context) : Prop := c'.mapped = c.mapped

instance : IsPreorder Context Context.SameNames where
  refl _ := rfl
  trans _ _ _ h h' := Eq.trans h' h

theorem sameNames_openTo (c : Context) (b : Backend) : c.SameNames (c.openTo b) := by
  cases b <;> rfl

theorem sameNames_connected (s : Settings) (b : Backend) :
    Leaves Context.SameNames (connected s b) :=
  .connected (fun _ => rfl) fun c => sameNames_openTo c b

theorem sameNames_lowered_bind {α : Type} {f : String → Action α} (v : Json)
    (h : ∀ name, v = .str name → Leaves Context.SameNames (f (Text.lower name))) :
    Leaves Context.SameNames (MetadataIndex.lowered v >>= f) := by
  cases v with
  | str name => exact fun c => ⟨fun answer w => (h name rfl c).ends answer w⟩
  | _ => exact fun c => ⟨fun _ _ => rfl⟩

theorem sameNames_require_bind {α : Type} {v : Json} {name : String} {f : Unit → Action α}
    (h : Leaves Context.SameNames (f ())) :
    Leaves Context.SameNames (Action.require v name >>= f) :=
  fun c => .require_bind (fun _ => rfl) fun _ => h c

/-- A talk that leaves the context, taken for an operation. -/
theorem sameNames_guarded {α : Type} {x : Attempt α} {activity : Activity} {event : String}
    (hx : Leaves Context.SameNames x) :
    Leaves Context.SameNames (x.guarded (MetadataIndex.fail activity event)) :=
  .guarded hx fun _ => .fail fun _ => rfl

theorem sameNames_emitAll_bind {α : Type} {events : List Event} {f : Unit → Attempt α}
    (h : Leaves Context.SameNames (f ())) :
    Leaves Context.SameNames ((liftM (Exchange.emitAll events) : Attempt Unit) >>= f) := by
  refine .bind (fun c => ⟨fun answer w => ?_⟩) fun _ => h
  rw [carry_emitAll]
  show (events.foldl Context.record c).mapped = c.mapped
  induction events generalizing c with
  | nil => rfl
  | cons event events ih => exact ih (c.record event)

theorem discreet_lookingUp (e : Endpoint) (name : String) (id : Json) :
    Discreet (MetadataIndex.lookingUp e name id) := by
  unfold MetadataIndex.lookingUp
  refine .bind (.call e _ _ _ _) fun r => ?_
  split
  · exact .throw_bind _ _
  refine .bind (.check r) fun _ => .bind (.ofRead _) fun answer => .bind (.ofRead _) fun found => ?_
  split
  · exact .throw_bind _ _
  · exact .ofRead _

theorem sameNames_remoteLookUp (s : Settings) (index id : Json) :
    Leaves Context.SameNames (MetadataIndex.remoteLookUp s index id) := by
  refine sameNames_require_bind (sameNames_require_bind (sameNames_lowered_bind index ?_))
  refine fun name _ => .bind (sameNames_connected s .engine) fun e => .guarded
    (.of_discreet (discreet_lookingUp e _ id)) fun trouble => ?_
  cases trouble with
  | absent => exact .emit_bind (fun _ => rfl) (.of_discreet (.throw _))
  | _ => exact .fail fun _ => rfl

theorem sameNames_remoteSearch (s : Settings) (pageable : Option Pageable) (index : Json)
    (query : Option Query) :
    Leaves Context.SameNames (MetadataIndex.remoteSearch s pageable index query) := by
  cases pageable with
  | none => exact .of_discreet (.throw _)
  | some pageable =>
    refine sameNames_require_bind (sameNames_lowered_bind index fun name _ => ?_)
    refine .bind (sameNames_connected s .engine) fun e => sameNames_guarded ?_
    refine sameNames_emitAll_bind (.of_discreet (.bind (.call e _ _ _ _) fun r => ?_))
    exact .bind (.check r) fun _ => .bind (.ofRead _) fun answer => .ofRead _

theorem sameNames_remoteCount (s : Settings) (index : Json) (query : Option Query) :
    Leaves Context.SameNames (MetadataIndex.remoteCount s index query) := by
  refine sameNames_require_bind (sameNames_lowered_bind index fun name _ => ?_)
  refine .bind (sameNames_connected s .engine) fun e => sameNames_guarded ?_
  refine sameNames_emitAll_bind (.of_discreet (.bind (.call e _ _ _ _) fun r => ?_))
  exact .bind (.check r) fun _ => .bind (.ofRead _) fun answer => .ofRead _

theorem sameNames_remoteHealthy (s : Settings) :
    Leaves Context.SameNames (MetadataIndex.remoteHealthy s) := by
  refine .bind (sameNames_connected s .engine) fun e => .guarded ?_ fun _ =>
    .emit_bind (fun _ => rfl) (.of_discreet (.pure false))
  refine .of_discreet (.bind (.call e _ _ _ _) fun r => ?_)
  split
  · exact .pure false
  · exact .bind (.ofRead _) fun answer => .bind (.ofRead _) fun state => .pure _

end Operations

/-! ## Calls -/

/-- An operation whose result is given to the caller leaves the context as it does, and sends what
it sends. -/
theorem Goes.perform {α ω : Type} {c : Context} {action : Action α}
    {post : Context → Traffic → Prop} (h : Goes c action fun _ => post)
    (answer : Request → ω → Reply × ω) (w : ω) (give : α → Outcome) :
    post ((Outcome.ofAction give action).run answer c w).2.1
      ((Outcome.ofAction give action).traffic answer c w) := by
  have hends := h.ends answer w
  unfold Outcome.ofAction
  rw [run_bind, traffic_bind]
  unfold carry at hends
  generalize run answer action.run c w = left at hends ⊢
  obtain ⟨f | a, c', w'⟩ := left
  all_goals
    show post c' (_ ++ [])
    rw [List.append_nil]
    exact hends

namespace IndexCall

/-- The name of the index that a call creates unless it is there. -/
def created? : IndexCall → Option String
  | write (.str index) .. | createIndex (.str index) => some (Text.lower index)
  | _ => none

/-- Whether a call takes an index to be there under a name that is kept. -/
def trusts : IndexCall → Bool
  | write .. => true
  | _ => false

variable {s : Settings}

/-- A call asks for its index unless the name is kept and trusted, and after it the names are kept
that were kept before, and the one of its index if it is confirmed. -/
theorem goes_perform (he : s.endpoint? .engine = some e) (call : IndexCall) {ω : Type}
    (answer : Request → ω → Reply × ω) (c : Context) (w : ω) :
    let after := ((call.perform (.remote s)).run answer c w).2.1
    let t := (call.perform (.remote s)).traffic answer c w
    (∀ name, call.created? = some name →
        (Asks e name t ↔ call.lacksParameter = false ∧ CanBeAsked e name ∧
          ¬ (call.trusts = true ∧ name ∈ c.mapped))) ∧
      ∀ name, name ∈ after.mapped ↔
        name ∈ c.mapped ∨ call.created? = some name ∧ Confirms e name t := by
  have hother : ∀ {α : Type} {action : Action α} (give : α → Outcome),
      Leaves Context.SameNames action → ∀ name, name ∈
        ((Outcome.ofAction give action).run answer c w).2.1.mapped ↔
          name ∈ c.mapped ∨ none = some name ∧
            Confirms e name ((Outcome.ofAction give action).traffic answer c w) := by
    intro α action give h name
    rw [show (_ : Context).mapped = _ from (h c).perform answer w give]
    exact ⟨.inl, fun h => h.elim id fun h => nomatch h.1⟩
  have hremembers : ∀ {index : String} {after : Context} {t : Traffic},
      Remembers e (Text.lower index) c after t → ∀ name, name ∈ after.mapped ↔
        name ∈ c.mapped ∨ some (Text.lower index) = some name ∧ Confirms e name t := by
    intro index after t h name
    rw [h name, Option.some.injEq, eq_comm]
    refine or_congr_right (and_congr_right ?_)
    rintro rfl
    exact Iff.rfl
  cases call with
  | write index id hash contentType fields =>
    cases index with
    | str index =>
      obtain ⟨hasks, hkept⟩ := (goes_remoteWrite he index id hash contentType fields c).perform
        answer w .value
      refine ⟨?_, hremembers hkept⟩
      rintro _ ⟨⟩
      exact hasks.trans (by simp [lacksParameter, trusts])
    | _ =>
      refine ⟨fun _ h => (nomatch h), hother .value ?_⟩
      exact sameNames_require_bind (sameNames_require_bind
        (sameNames_lowered_bind _ fun _ h => nomatch h))
  | createIndex index =>
    cases index with
    | str index =>
      obtain ⟨hasks, hkept⟩ := (goes_remoteCreateIndex he index c).perform answer w
        fun _ => .nothing
      refine ⟨?_, hremembers hkept⟩
      rintro _ ⟨⟩
      exact hasks.trans (by simp [lacksParameter, trusts])
    | _ =>
      refine ⟨fun _ h => (nomatch h), hother _ ?_⟩
      exact sameNames_require_bind (sameNames_lowered_bind _ fun _ h => nomatch h)
  | lookUp index id =>
    exact ⟨fun _ h => (nomatch h), hother _ (sameNames_remoteLookUp s index id)⟩
  | search index query pageable =>
    exact ⟨fun _ h => (nomatch h), hother _ (sameNames_remoteSearch s pageable index query)⟩
  | count index query =>
    exact ⟨fun _ h => (nomatch h), hother _ (sameNames_remoteCount s index query)⟩
  | healthy => exact ⟨fun _ h => (nomatch h), hother _ (sameNames_remoteHealthy s)⟩

/-- Calls one after the other, each with what it sends and what it is answered. -/
def history (i : MetadataIndex) {ω : Type} (answer : Request → ω → Reply × ω) :
    List IndexCall → Context → ω → List (IndexCall × Traffic)
  | [], _, _ => []
  | call :: calls, c, w =>
    (call, (call.perform i).traffic answer c w) ::
      history i answer calls ((call.perform i).run answer c w).2.1
        ((call.perform i).run answer c w).2.2

/-- A name is confirmed in the course of calls: by an answer to one that creates its index. -/
def Confirmed (e : Endpoint) (name : String) (calls : List (IndexCall × Traffic)) : Prop :=
  ∃ m ∈ calls, m.1.created? = some name ∧ Confirms e name m.2

end IndexCall

section Histories

variable {s : Settings} {ω : Type} {answer : Request → ω → Reply × ω}

/-- After calls one after the other the names are kept that were kept before them and those that
were confirmed, and the next call begins with these. -/
theorem IndexCall.goes_history (he : s.endpoint? .engine = some e) {calls : List IndexCall}
    {c : Context} {w : ω} {before after : List (IndexCall × Traffic)} {call : IndexCall}
    {t : Traffic}
    (h : history (.remote s) answer calls c w = before ++ (call, t) :: after) :
    ∃ c' w', t = (call.perform (.remote s)).traffic answer c' w' ∧
      ∀ name, name ∈ c'.mapped ↔ name ∈ c.mapped ∨ Confirmed e name before := by
  induction before generalizing calls c w with
  | nil =>
    cases calls with
    | nil => cases h
    | cons first calls =>
      cases h
      refine ⟨c, w, rfl, fun name => ⟨.inl, fun h => h.elim id ?_⟩⟩
      rintro ⟨m, hm, -⟩
      cases hm
  | cons m before ih =>
    cases calls with
    | nil => cases h
    | cons first calls =>
      obtain ⟨rfl, hrest⟩ := List.cons.inj h
      obtain ⟨c', w', ht, hkept⟩ := ih hrest
      refine ⟨c', w', ht, fun name => ?_⟩
      rw [hkept name, (goes_perform he first answer c w).2 name, or_assoc]
      refine or_congr_right ?_
      unfold Confirmed
      simp only [List.mem_cons, exists_eq_or_imp]

end Histories

/-- An engine that has every index and says of every write that it has written the document a. -/
def havingAll (_ : Request) (w : Unit) : Reply × Unit :=
  (.response ⟨200, .json (.obj [("_id", .str "a")])⟩, w)

end ContentDepot
