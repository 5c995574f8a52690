import ContentDepot.Proofs.Entries
import ContentDepot.Proofs.Session.Orderly

/-!
# What a talk adds to the log

While a talk is carried out, what every event carries may be looked at for each event
that is logged (`Exchange.logged`). A talk is modest if no change that it makes to the
context touches what is bound, and every event that it logs carries the request
identifier that is bound (`Exchange.Modest`).

* `Exchange.Modest.carried`: so it is when the talk is carried out, whatever is answered;
* `Exchange.IsOrderly.modest`: every orderly talk is modest.
-/

namespace ContentDepot

namespace Context

/-- A later context in which the same is bound: the log has grown by events that carry the request
identifier that is bound, and identifiers may have been handed out. -/
structure GoesOn (c c' : Context) : Prop where
  bound : c'.bound = c.bound
  issued : c.issued ≤ c'.issued
  log : ∃ events, c'.log = c.log ++ events ∧
    ∀ e ∈ events, e.requestId = Entries.get? c.bound requestIdKey

namespace GoesOn

theorem refl (c : Context) : c.GoesOn c := ⟨rfl, Nat.le_refl _, [], by simp, by simp⟩

theorem trans {c c' c'' : Context} (h : c.GoesOn c') (h' : c'.GoesOn c'') : c.GoesOn c'' := by
  obtain ⟨events, hlog, hall⟩ := h.log
  obtain ⟨events', hlog', hall'⟩ := h'.log
  refine ⟨h'.bound.trans h.bound, h.issued.trans h'.issued, events ++ events', ?_, fun e he => ?_⟩
  · rw [hlog', hlog, List.append_assoc]
  · rcases List.mem_append.1 he with he | he
    · exact hall e he
    · rw [hall' e he, h.bound]

/-- An event without a request identifier of its own carries the one that is bound. -/
theorem record (c : Context) {e : Event} (he : e.IsPlain) : c.GoesOn (c.record e) := by
  refine ⟨rfl, Nat.le_refl _, _, rfl, fun logged hlogged => ?_⟩
  rw [List.mem_singleton.1 hlogged]
  show Entries.get? (Entries.putAll c.bound e.fields) requestIdKey = _
  rw [Entries.get?_putAll, Entries.last?_of_not_mem he, Option.none_or]

/-- A change of what is neither bound nor logged nor counted. -/
theorem of_eq {c c' : Context} (hbound : c'.bound = c.bound) (hlog : c'.log = c.log)
    (hissued : c'.issued = c.issued) : c.GoesOn c' :=
  ⟨hbound, hissued.ge, [], by simp [hlog], by simp⟩

theorem markMapped (c : Context) (index : String) : c.GoesOn (c.markMapped index) := by
  unfold Context.markMapped
  split
  · exact refl c
  · exact of_eq rfl rfl rfl

theorem openTo (c : Context) (b : Backend) : c.GoesOn (c.openTo b) := by
  cases b <;> exact of_eq rfl rfl rfl

end GoesOn

end Context

namespace Exchange

variable {ω α β : Type}

/-- The events that are logged while a talk is carried out, each with what every event carries at
that time. -/
def logged (answer : Request → ω → Reply × ω) :
    Exchange α → Context → ω → List (LoggedEvent × Entries Json)
  | .done _, _, _ => []
  | .send r next, c, w => logged answer (next (answer r w).1) c (answer r w).2
  | .look next, c, w => logged answer (next c) c w
  | .change f next, c, w =>
    ((f c).log.drop c.log.length).map (·, c.bound) ++ logged answer next (f c) w

/-- Whatever is answered, every change to the context lets it go on, and at the end `post` holds of
the result. -/
def Modest (post : α → Prop) : Exchange α → Prop
  | .done a => post a
  | .send _ next => ∀ reply, Modest post (next reply)
  | .look next => ∀ c, Modest post (next c)
  | .change f next => (∀ c : Context, c.GoesOn (f c)) ∧ Modest post next

theorem logged_bind (answer : Request → ω → Reply × ω) (x : Exchange α) (f : α → Exchange β)
    (c : Context) (w : ω) :
    (x >>= f).logged answer c w =
      x.logged answer c w ++
        (f (x.run answer c w).1).logged answer (x.run answer c w).2.1 (x.run answer c w).2.2 := by
  show (x.andThen f).logged answer c w = _
  induction x generalizing c w with
  | done a => rfl
  | send r next ih => exact ih (answer r w).1 c (answer r w).2
  | look next ih => exact ih c c w
  | change g next ih =>
    show _ ++ (next.andThen f).logged answer (g c) w = _
    rw [ih (g c) w, ← List.append_assoc]
    rfl

/-- A change that leaves the log as it is logs nothing. -/
theorem logged_modify {f : Context → Context} {c : Context} (h : (f c).log = c.log)
    (answer : Request → ω → Reply × ω) (w : ω) : (modify f).logged answer c w = [] := by
  show ((f c).log.drop c.log.length).map (·, c.bound) ++ [] = []
  rw [h, List.drop_length]
  rfl

theorem logged_rebound (answer : Request → ω → Reply × ω) (bound : Entries Json) (c : Context)
    (w : ω) : (modify fun c => { c with bound := bound }).logged answer c w = [] :=
  logged_modify rfl answer w

theorem logged_freshId (answer : Request → ω → Reply × ω) (c : Context) (w : ω) :
    freshId.logged answer c w = [] :=
  logged_modify (f := fun c => { c with issued := c.issued + 1 }) rfl answer w

namespace Modest

variable {post post' : α → Prop} {x : Exchange α}

theorem mono (h : Modest post x) (hp : ∀ a, post a → post' a) : Modest post' x := by
  induction x with
  | done a => exact hp a h
  | send r next ih => exact fun reply => ih reply (h reply)
  | look next ih => exact fun c => ih c (h c)
  | change f next ih => exact ⟨h.1, ih h.2⟩

theorem bind {post : β → Prop} {m : α → Prop} {f : α → Exchange β} (hx : Modest m x)
    (hf : ∀ a, m a → Modest post (f a)) : Modest post (x >>= f) := by
  show Modest post (x.andThen f)
  induction x with
  | done a => exact hf a hx
  | send r next ih => exact fun reply => ih reply (hx reply)
  | look next ih => exact fun c => ih c (hx c)
  | change g next ih => exact ⟨hx.1, ih hx.2⟩

theorem pure {a : α} (h : post a) : Modest post (Pure.pure a : Exchange α) := h

theorem modify {f : Context → Context} (h : ∀ c : Context, c.GoesOn (f c)) :
    Modest (fun _ => True) (Exchange.modify f) := ⟨h, trivial⟩

theorem emit (level : Level) (name : String) : Modest (fun _ => True) (Exchange.emit level name) :=
  modify fun c => .record c fun _ h => by cases h

/-- A connection is opened where it is not open; that fails as the settings give no endpoint. -/
theorem connect (s : Settings) (b : Backend) :
    Modest (fun result => ∀ f, result = .error f → s.endpointOf b = .error f)
      (ContentDepot.connect s b).run := by
  have hplain : Event.IsPlain ⟨.info, connectingEvent b, []⟩ := fun _ h => by cases h
  unfold ContentDepot.connect Settings.endpointOf
  intro c
  simp only [andThen, Function.comp, ExceptT.bindCont]
  cases c.isOpen b with
  | true => exact fun _ h => by cases h
  | false =>
    refine ⟨fun c => .record c hplain, ?_⟩
    cases s.endpoint? b with
    | none => exact fun _ h => by cases h; rfl
    | some e => exact ⟨fun c => .openTo c b, fun _ h => by cases h⟩

theorem connected (s : Settings) (b : Backend) :
    Modest (· = s.endpointOf b) (ContentDepot.connected s b).run := by
  unfold ContentDepot.connected
  rw [ExceptT.run_bind]
  refine (connect s b).bind fun result hresult => ?_
  cases result with
  | ok _ =>
    unfold Settings.endpointOf
    cases s.endpoint? b <;> exact rfl
  | error f => exact (hresult f rfl).symm

theorem connectAll (s : Settings) : Modest (fun _ => True) (ContentDepot.connectAll s).run := by
  unfold ContentDepot.connectAll
  rw [ExceptT.run_bind]
  refine (connect s .content).bind fun result _ => ?_
  cases result with
  | ok _ => exact (connect s .engine).mono fun _ _ => trivial
  | error f => exact trivial

/-- A modest talk leaves the same bound; what it logs is what the log has grown by, and every event
carries just that, with the request identifier in it. -/
theorem carried (h : Modest post x) (answer : Request → ω → Reply × ω) (c : Context) (w : ω) :
    post (x.run answer c w).1 ∧ c.GoesOn (x.run answer c w).2.1 ∧
      (x.run answer c w).2.1.log = c.log ++ (x.logged answer c w).map Prod.fst ∧
      ∀ p ∈ x.logged answer c w,
        p.2 = c.bound ∧ p.1.requestId = Entries.get? c.bound Context.requestIdKey := by
  induction x generalizing c w with
  | done a => exact ⟨h, .refl c, (List.append_nil _).symm, fun _ hp => by cases hp⟩
  | send r next ih => exact ih (answer r w).1 (h (answer r w).1) c (answer r w).2
  | look next ih => exact ih c (h c) c w
  | change f next ih =>
    obtain ⟨hpost, hgoes, hlog, hall⟩ := ih h.2 (f c) w
    obtain ⟨events, hevents, hcarry⟩ := (h.1 c).log
    have hdrop : (f c).log.drop c.log.length = events := by
      rw [hevents, List.drop_left]
    refine ⟨hpost, (h.1 c).trans hgoes, ?_, fun p hp => ?_⟩
    · show (next.run answer (f c) w).2.1.log =
        c.log ++ (((f c).log.drop c.log.length).map (·, c.bound) ++ _).map Prod.fst
      rw [hlog, hdrop, hevents, List.map_append, List.map_map, List.append_assoc]
      congr 2
      exact (List.map_id events).symm
    · rcases List.mem_append.1 hp with hp | hp
      · obtain ⟨e, he, rfl⟩ := List.mem_map.1 hp
        exact ⟨rfl, hcarry e (hdrop ▸ he)⟩
      · rw [← (h.1 c).bound]
        exact hall p hp

end Modest

/-- Every orderly talk is modest, step by step. -/
theorem IsOrderly.modest {post : α → Prop} {x : Exchange α} (h : x.IsOrderly post) :
    Modest post x := by
  induction h with
  | done h => exact h
  | send _ ih => exact ih
  | record he _ ih => exact ⟨fun c => .record c he, ih⟩
  | remember _ ih => exact ⟨fun c => .markMapped c _, ih⟩
  | consult _ _ ih => exact ih
  | issue _ ih => exact fun n => ⟨fun c => ⟨rfl, Nat.le_succ _, [], by simp, by simp⟩, ih n.issued⟩
  | connect _ ih => exact (Modest.connected _ _).bind fun _ hresult => hresult ▸ ih
  | close _ ih => exact ⟨fun c => .of_eq rfl rfl rfl, ih⟩

end Exchange

end ContentDepot
