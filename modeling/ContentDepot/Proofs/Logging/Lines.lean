import ContentDepot.Logging.Output
import ContentDepot.Proofs.Entries
import ContentDepot.Proofs.Session.Live

/-!
# The lines of a log

In production every event that is due is written as one object. What a line holds is
read off the call that it is written for and the steps before it: the last of these
that binds or clears decides what is bound (`LogStep.bindings`), and the value under a
key is the call's own, else the one that is bound, else the service's
(`LogStep.shown`). A step may also be refused, for names that the log takes for
itself (`LogStep.IsRefused`).

* `Threshold.ofSettings_of_name`, `Threshold.admits_iff`: which events are written;
* `get?_lineOf`, `isLineOf_lineOf`: what the object of an event holds;
* `LogState.step_of_bindings`, `LogState.step_of_refused`: one step, after steps of which
  nothing but their bindings is left;
* `LogState.foldlM_of_accepted`, `LogState.foldlM_of_not_accepted`: steps one after the
  other, by induction on them;
* `LogState.lines_in_production`: so the lines of a run are those of its steps.
-/

namespace ContentDepot

open Entries

/-! ## Thresholds -/

/-- The names that the levels go by, in capitals, with their ranks. -/
def levelNames : List (String × Nat) :=
  [("NOTSET", 0), ("DEBUG", 10), ("INFO", 20), ("WARNING", 30), ("WARN", 30), ("ERROR", 40),
    ("CRITICAL", 50), ("FATAL", 50)]

/-- A logger of the HTTP client, or one below it. -/
def IsClientLogger (logger : String) : Prop :=
  ∃ name ∈ clientLoggers, logger = name ∨ ∃ rest, logger = name ++ "." ++ rest

namespace Threshold

/-- The thresholds where events are written from a rank on. -/
def ofRank (rank : Nat) : Threshold := ⟨rank, max rank Level.warning.rank⟩

theorem ofSettings_of_name {s : Settings} {rank : Nat}
    (h : (Text.upperName s.logLevel, rank) ∈ levelNames) : ofSettings s = .ok (ofRank rank) := by
  unfold ofSettings rankOfName
  generalize Text.upperName s.logLevel = name at h ⊢
  simp only [levelNames, List.mem_cons, Prod.mk.injEq, List.not_mem_nil, or_false] at h
  rcases h with ⟨rfl, rfl⟩ | ⟨rfl, rfl⟩ | ⟨rfl, rfl⟩ | ⟨rfl, rfl⟩ | ⟨rfl, rfl⟩ | ⟨rfl, rfl⟩ |
    ⟨rfl, rfl⟩ | ⟨rfl, rfl⟩ <;> rfl

theorem enables_iff {rank : Nat} {level : Level} :
    (ofRank rank).enables level = true ↔ rank ≤ level.rank := decide_eq_true_iff

theorem isClient_iff {logger : String} : isClient logger = true ↔ IsClientLogger logger := by
  unfold isClient IsClientLogger
  rw [List.any_eq_true]
  refine exists_congr fun name => and_congr_right fun _ => ?_
  rw [Bool.or_eq_true, beq_iff_eq, String.startsWith_string_iff]
  refine or_congr_right ⟨fun ⟨rest, hrest⟩ => ⟨String.ofList rest, ?_⟩, ?_⟩
  · rw [← String.toList_inj, String.toList_append, ← hrest, @String.toList_ofList rest]
  · rintro ⟨rest, rfl⟩
    exact ⟨rest.toList, (String.toList_append ..).symm⟩

/-- Of the HTTP client only what matters at least as much as a warning is written. -/
theorem admits_iff {rank : Nat} {logger : String} {level : Level} :
    (ofRank rank).admits logger level = true ↔
      rank ≤ level.rank ∧ (IsClientLogger logger → Level.warning.rank ≤ level.rank) := by
  unfold admits
  rw [Bool.and_eq_true, enables_iff, Bool.or_eq_true, Bool.not_eq_true', decide_eq_true_iff,
    ← isClient_iff, ofRank]
  refine and_congr_right fun hrank => ?_
  rw [max_le_iff, and_iff_right hrank]
  cases isClient logger <;> simp

end Threshold

/-! ## What a line holds -/

/-- What every event carries of the service, if nothing else is under these keys. -/
def serviceEntries (s : Settings) : Entries Json :=
  [("service", .str s.appName), ("env", .str s.environment)]

namespace LogStep

/-- The names that stand for something else than a field. -/
def reservedNames : List String :=
  ["event", "level", "logger", "timestamp", "exc_info", "stack_info"]

/-- The names of what a step brings. -/
def names : LogStep → List String
  | .bind _ values => keys values
  | .clear => []
  | .log _ _ _ fields => keys fields

/-- A step that brings nothing under a reserved name. -/
def IsPlain (step : LogStep) : Prop := ∀ name ∈ step.names, name ∉ reservedNames

/-- What is bound after steps, the latest of which comes first: what the last bind has given,
unless the context was cleared after it. -/
def bindings : List LogStep → Entries Json
  | [] => []
  | .bind requestId values :: _ => ("request_id", requestId) :: values
  | .clear :: _ => []
  | .log .. :: past => bindings past

/-- The value of a key that a call gives, or else that is bound. -/
def given (past : List LogStep) (fields : Entries Json) (key : String) : Option Json :=
  (last? fields key).or (last? (bindings past) key)

/-- The value under a key of a line: the call's own, else the one that is bound, else that of the
service. -/
def shown (s : Settings) (past : List LogStep) (fields : Entries Json) (key : String) :
    Option Json :=
  (given past fields key).or (get? (serviceEntries s) key)

/-- A line that is written for a call, after other steps. -/
structure IsLineOf (s : Settings) (past : List LogStep) (level : Level) (logger : String)
    (event : Json) (fields line : Entries Json) : Prop where
  nodup : (keys line).Nodup
  level : get? line "level" = some (.str level.label)
  logger : get? line "logger" = some (.str logger)
  event : get? line "event" = if event = .null then none else some event
  others : ∀ key ∉ ["event", "level", "logger"], get? line key = shown s past fields key

/-- Nothing plain is bound under a reserved name. -/
theorem last?_bindings {past : List LogStep} (h : ∀ step ∈ past, step.IsPlain) {key : String}
    (hkey : key ∈ reservedNames) : last? (bindings past) key = none := by
  induction past with
  | nil => rfl
  | cons step past ih =>
    cases step with
    | bind requestId values =>
      refine last?_of_not_mem fun e he => ?_
      rcases List.mem_cons.1 he with rfl | he
      · rintro rfl
        exact absurd hkey (show "request_id" ∉ reservedNames by decide)
      · rintro rfl
        exact h _ (List.mem_cons_self ..) e.1 (List.mem_map_of_mem he) hkey
    | clear => rfl
    | log => exact ih fun step' hstep => h step' (List.mem_cons_of_mem _ hstep)

/-- A plain call after plain steps gives nothing under a reserved name. -/
theorem given_reserved {past : List LogStep} {level : Level} {logger event : Json}
    {fields : Entries Json}
    (h : ∀ step ∈ .log level logger event fields :: past, step.IsPlain) {key : String}
    (hkey : key ∈ reservedNames) : given past fields key = none := by
  have hown : last? fields key = none := last?_of_not_mem fun e he heq =>
    h _ (List.mem_cons_self ..) e.1 (List.mem_map_of_mem he) (heq ▸ hkey)
  rw [given, hown, last?_bindings (fun step hstep => h step (List.mem_cons_of_mem _ hstep)) hkey]
  rfl

end LogStep

open LogStep

/-- A key that is there keeps its value. -/
theorem get?_putMissing (m : Entries Json) (k : String) (v : Json) (key : String) :
    get? (if has m k then m else put m k v) key =
      (get? m key).or (if k = key then some v else none) := by
  split
  · rename_i hhas
    obtain ⟨w, hw⟩ := Option.isSome_iff_exists.1 hhas
    split
    · rename_i hkey
      rw [← hkey, hw]
      rfl
    · rw [Option.or_none]
  · rename_i hhas
    rw [has, Bool.not_eq_true, Option.isSome_eq_false_iff, Option.isNone_iff_eq_none] at hhas
    rw [get?_put]
    split
    · rename_i hkey
      rw [← hkey, hhas]
      rfl
    · rw [Option.or_none]

theorem get?_withService (s : Settings) (m : Entries Json) (key : String) :
    get? (withService s m) key = (get? m key).or (get? (serviceEntries s) key) := by
  unfold withService
  rw [get?_putMissing, get?_putMissing, Option.or_assoc, serviceEntries, get?_cons, get?_cons,
    get?_nil]
  congr 1
  split <;> rfl

theorem nodup_putMissing {m : Entries Json} (h : (keys m).Nodup) (k : String) (v : Json) :
    (keys (if has m k then m else put m k v)).Nodup := by
  split
  · exact h
  · exact nodup_put h k v

theorem nodup_withService (s : Settings) {m : Entries Json} (h : (keys m).Nodup) :
    (keys (withService s m)).Nodup := nodup_putMissing (nodup_putMissing h ..) ..

/-- The fields of an event over what is bound, before its level and its logger are put. -/
def merged (s : Settings) (bound : Entries Json) (event : Json) (fields : Entries Json) :
    Entries Json :=
  withService s (putAll bound
    (if event = .null then ofList fields else put (ofList fields) "event" event))

/-- The line of an event, which goes under a logger's name. -/
def lineOf (s : Settings) (bound : Entries Json) (level : Level) (name : String) (event : Json)
    (fields : Entries Json) : Entries Json :=
  (put (put (merged s bound event fields) "level" (.str level.label)) "logger" (.str name)).filter
    fun e => !takenKeys.contains e.1

theorem recordOf_eq (s : Settings) (bound : Entries Json) (level : Level) (name : String)
    (event : Json) (fields : Entries Json) :
    recordOf s bound level name event fields =
      if (get? (merged s bound event fields) foreignRecordKey).getD .null ≠ .null then
        .error .noSuchMember
      else .ok (lineOf s bound level name event fields) := rfl

theorem get?_merged (s : Settings) (bound : List (String × Json)) (event : Json)
    (fields : Entries Json) (key : String) :
    get? (merged s (ofList bound) event fields) key =
      if event ≠ .null ∧ key = "event" then some event
      else ((last? fields key).or (last? bound key)).or (get? (serviceEntries s) key) := by
  have hnodup : (keys (if event = .null then ofList fields
      else put (ofList fields) "event" event)).Nodup := by
    split
    · exact nodup_ofList fields
    · exact nodup_put (nodup_ofList fields) ..
  rw [merged, get?_withService, get?_putAll, last?_of_nodup hnodup, get?_ofList]
  by_cases hevent : event = .null
  · rw [if_pos hevent, if_neg fun h => h.1 hevent, get?_ofList]
  · rw [if_neg hevent, get?_put, get?_ofList]
    by_cases hkey : key = "event"
    · rw [if_pos hkey.symm, if_pos ⟨hevent, hkey⟩]
      rfl
    · rw [if_neg (Ne.symm hkey), if_neg fun h => hkey h.2]

theorem nodup_lineOf (s : Settings) (bound : List (String × Json)) (level : Level)
    (name : String) (event : Json) (fields : Entries Json) :
    (keys (lineOf s (ofList bound) level name event fields)).Nodup := by
  have hmerged : (keys (merged s (ofList bound) event fields)).Nodup :=
    nodup_withService s (nodup_putAll (nodup_ofList bound) _)
  exact (nodup_put (nodup_put hmerged ..) ..).sublist (List.filter_sublist.map Prod.fst)

theorem get?_lineOf (s : Settings) (past : List LogStep) (level : Level) (name : String)
    (event : Json) (fields : Entries Json) (key : String) :
    get? (lineOf s (ofList (bindings past)) level name event fields) key =
      if key ∈ takenKeys then none
      else if key = "logger" then some (.str name)
      else if key = "level" then some (.str level.label)
      else if event ≠ .null ∧ key = "event" then some event
      else shown s past fields key := by
  rw [lineOf, get?_filter fun key => !takenKeys.contains key, get?_put, get?_put, get?_merged]
  simp only [Bool.not_eq_true', List.contains_eq_mem, decide_eq_false_iff_not, ite_not,
    eq_comm (a := key)]
  rfl

/-- A plain call after plain steps shows nothing under a reserved name. -/
theorem LogStep.shown_reserved (s : Settings) {past : List LogStep} {level : Level}
    {logger event : Json} {fields : Entries Json}
    (h : ∀ step ∈ .log level logger event fields :: past, step.IsPlain) {key : String}
    (hkey : key ∈ reservedNames) : shown s past fields key = none := by
  have hservice : ∀ name ∈ reservedNames, get? (serviceEntries s) name = none := by
    simp [reservedNames, serviceEntries, get?_cons]
  rw [shown, given_reserved h hkey, hservice key hkey]
  rfl

theorem isLineOf_lineOf (s : Settings) {past : List LogStep} {level : Level}
    {logger event : Json} {fields : Entries Json}
    (h : ∀ step ∈ .log level logger event fields :: past, step.IsPlain) (name : String) :
    IsLineOf s past level name event fields
      (lineOf s (ofList (bindings past)) level name event fields) where
  nodup := nodup_lineOf ..
  level := by rw [get?_lineOf, if_neg (by decide), if_neg (by decide), if_pos rfl]
  logger := by rw [get?_lineOf, if_neg (by decide), if_pos rfl]
  event := by
    rw [get?_lineOf, if_neg (by decide), if_neg (by decide), if_neg (by decide),
      shown_reserved s h (by decide)]
    by_cases hevent : event = .null
    · rw [if_neg fun h => h.1 hevent, if_pos hevent]
    · rw [if_pos ⟨hevent, rfl⟩, if_neg hevent]
  others key hkey := by
    simp only [List.mem_cons, List.not_mem_nil, or_false, not_or] at hkey
    rw [get?_lineOf]
    split
    · -- what the log takes for itself is reserved, so that nothing plain is lost
      rename_i htaken
      have htakes : ∀ name ∈ takenKeys, name ∈ reservedNames := by decide
      rw [shown_reserved s h (htakes key htaken)]
    · rw [if_neg hkey.2.2, if_neg hkey.2.1, if_neg fun h => hkey.1 h.2]

theorem getD_ne_null_iff {o : Option Json} : o.getD .null ≠ .null ↔ ∃ v ≠ .null, o = some v := by
  cases o with
  | none => exact ⟨fun h => absurd rfl h, fun ⟨_, _, h⟩ => nomatch h⟩
  | some v => exact ⟨fun h => ⟨v, h, rfl⟩, fun ⟨_, hw, h⟩ => Option.some.inj h ▸ hw⟩

/-- A record holds what is shown, unless another log's record stands among it. -/
theorem recordOf_of_bindings (s : Settings) (past : List LogStep) (level : Level) (name : String)
    (event : Json) (fields : Entries Json) :
    recordOf s (ofList (bindings past)) level name event fields =
      if (given past fields "_record").getD .null ≠ .null then .error .noSuchMember
      else .ok (lineOf s (ofList (bindings past)) level name event fields) := by
  have hforeign : get? (merged s (ofList (bindings past)) event fields) foreignRecordKey =
      given past fields "_record" := by
    rw [get?_merged, if_neg fun h => absurd h.2 (by decide)]
    exact Option.or_none
  rw [recordOf_eq, hforeign]

/-! ## Steps -/

/-- The name that a logger goes by: its own, or the root's where it has none. -/
def NamedBy (logger : Json) (name : String) : Prop :=
  logger = .str name ∧ name ≠ "" ∨ logger.truthy = false ∧ name = rootLogger

/-- Whether a call of a level is written where events are written from a rank on: one that goes
under the name of the HTTP client only if it is a warning at least. -/
def IsDue (rank : Nat) (level : Level) (name : String) : Prop :=
  rank ≤ level.rank ∧ (IsClientLogger name → Level.warning.rank ≤ level.rank)

namespace LogStep

/-- The steps that are refused for what they name, after other steps: a bind may not give the
name of the request twice, a logger has to be named by a text, and a call may not give `self`; nor
may it, where its level is looked at, give `method_name` or have another log's record. -/
def IsRefused (rank : Nat) (past : List LogStep) : LogStep → Prop
  | .bind _ values => "request_id" ∈ keys values
  | .clear => False
  | .log level logger _ fields =>
    (∀ name, ¬ NamedBy logger name) ∨ "self" ∈ keys fields ∨
      rank ≤ level.rank ∧
        ("method_name" ∈ keys fields ∨ ∃ v ≠ .null, given past fields "_record" = some v)

/-- What a step writes, after other steps. -/
inductive Writes (s : Settings) (rank : Nat) (past : List LogStep) : LogStep → List LogLine → Prop
  | bind {requestId : Json} {values : Entries Json} : Writes s rank past (.bind requestId values) []
  | clear : Writes s rank past .clear []
  | due {level : Level} {logger event : Json} {fields line : Entries Json} {name : String} :
    NamedBy logger name → IsDue rank level name → IsLineOf s past level name event fields line →
      Writes s rank past (.log level logger event fields) [.record line]
  | undue {level : Level} {logger event : Json} {fields : Entries Json} {name : String} :
    NamedBy logger name → ¬ IsDue rank level name →
      Writes s rank past (.log level logger event fields) []

end LogStep

theorem loggerName_of_named {logger : Json} {name : String} (h : NamedBy logger name) :
    loggerName logger = .ok name := by
  unfold loggerName
  rcases h with ⟨rfl, hname⟩ | ⟨hfalsy, rfl⟩
  · have htruthy : (Json.str name).truthy = true := by
      rwa [Json.truthy, Bool.not_eq_true', Bool.eq_false_iff, ne_eq, String.isEmpty_iff]
    rw [if_neg (by rw [htruthy]; decide)]
  · rw [if_pos (by rw [hfalsy]; rfl)]

theorem loggerName_of_not_named {logger : Json} (h : ∀ name, ¬ NamedBy logger name) :
    loggerName logger = .error .wrongType := by
  unfold loggerName
  split
  · rename_i hfalsy
    exact absurd (.inr ⟨by simpa using hfalsy, rfl⟩) (h rootLogger)
  · rename_i htruthy
    split
    · rename_i name
      exact absurd (.inl ⟨rfl, by simpa [Json.truthy] using htruthy⟩) (h name)
    · rfl

namespace LogState

variable {s : Settings} {rank : Nat} {past : List LogStep}

/-- What a call comes to in production, where its logger has a name. -/
theorem step_log {level : Level} {logger event : Json} {fields : Entries Json} {name : String}
    (hs : s.environment = productionEnvironment) (hname : NamedBy logger name)
    (state : LogState) :
    step s (.ofRank rank) state (.log level logger event fields) =
      if "self" ∈ keys fields ∨ "event" ∈ keys fields then .error .wrongType
      else if ¬ rank ≤ level.rank then .ok state
      else if "method_name" ∈ keys fields then .error .wrongType
      else (recordOf s state.context level name event fields).map fun line =>
        if (Threshold.ofRank rank).admits name level then
          { state with lines := state.lines ++ [.record line] }
        else state := by
  have hfixed :
      fixedNames.any (has fields) = true ↔ "self" ∈ keys fields ∨ "event" ∈ keys fields := by
    rw [List.any_eq_true]
    simp [fixedNames, has_iff]
  have henables : (!(Threshold.ofRank rank).enables level) = true ↔ ¬ rank ≤ level.rank := by
    rw [Bool.not_eq_true', ← Bool.not_eq_true, Threshold.enables_iff]
  simp only [step, loggerName_of_named hname, Bind.bind, Except.bind, pure, Except.pure, throw,
    throwThe, MonadExceptOf.throw, hfixed, henables, has_iff, LogLine.ofRecord, hs, if_true,
    methodKey]
  split
  · rfl
  · split
    · rfl
    · split
      · rfl
      · cases recordOf s state.context level name event fields <;> rfl

/-- A step that is not refused, after steps that have left nothing but their bindings. -/
theorem step_of_bindings (hs : s.environment = productionEnvironment) {next : LogStep}
    (hplain : ∀ step ∈ next :: past, step.IsPlain) (h : ¬ next.IsRefused rank past)
    (lines : List LogLine) :
    ∃ new, Writes s rank past next new ∧
      step s (.ofRank rank) ⟨ofList (bindings past), lines⟩ next =
        .ok ⟨ofList (bindings (next :: past)), lines ++ new⟩ := by
  cases next with
  | bind requestId values =>
    refine ⟨[], .bind, ?_⟩
    have hvalues : ¬ has values "request_id" = true := fun hhas => h (has_iff.1 hhas)
    rw [step, if_neg hvalues, List.append_nil]
    rfl
  | clear => exact ⟨[], .clear, by rw [List.append_nil]; rfl⟩
  | log level logger event fields =>
    rw [IsRefused, not_or, not_or, not_forall] at h
    obtain ⟨⟨name, hname⟩, hself, hlooked⟩ := h
    rw [not_not] at hname
    -- `event` is reserved, so of the fixed names only `self` can be refused
    have hfixed : ¬ ("self" ∈ keys fields ∨ "event" ∈ keys fields) := fun hfixed =>
      hfixed.elim hself fun hevent => hplain _ (List.mem_cons_self ..) "event" hevent (by decide)
    rw [step_log hs hname, if_neg hfixed]
    by_cases hrank : rank ≤ level.rank
    · rw [and_iff_right hrank, not_or] at hlooked
      rw [if_neg (not_not_intro hrank), if_neg hlooked.1, recordOf_of_bindings,
        if_neg (getD_ne_null_iff.not.2 hlooked.2)]
      by_cases hdue : IsDue rank level name
      · refine ⟨[.record _], .due hname hdue (isLineOf_lineOf s hplain name), ?_⟩
        rw [Except.map, if_pos (Threshold.admits_iff.2 hdue)]
        rfl
      · refine ⟨[], .undue hname hdue, ?_⟩
        rw [Except.map, if_neg fun hadmits => hdue (Threshold.admits_iff.1 hadmits),
          List.append_nil]
        rfl
    · refine ⟨[], .undue hname fun hdue => hrank hdue.1, ?_⟩
      rw [if_pos hrank, List.append_nil]
      rfl

theorem step_of_refused (hs : s.environment = productionEnvironment) {next : LogStep}
    (h : next.IsRefused rank past) (lines : List LogLine) :
    ∃ fault, step s (.ofRank rank) ⟨ofList (bindings past), lines⟩ next = .error fault := by
  cases next with
  | bind requestId values => exact ⟨.wrongType, if_pos (has_iff.2 h)⟩
  | clear => exact h.elim
  | log level logger event fields =>
    by_cases hnamed : ∃ name, NamedBy logger name
    · obtain ⟨name, hname⟩ := hnamed
      rw [step_log hs hname]
      split
      · exact ⟨_, rfl⟩
      · rename_i hfixed
        obtain ⟨hrank, hlooked⟩ := (h.resolve_left fun h => h name hname).resolve_left
          fun hself => hfixed (.inl hself)
        rw [if_neg (not_not_intro hrank)]
        split
        · exact ⟨_, rfl⟩
        · rename_i hmethod
          have hforeign := getD_ne_null_iff.2 (hlooked.resolve_left hmethod)
          rw [recordOf_of_bindings, if_pos hforeign]
          exact ⟨_, rfl⟩
    · refine ⟨.wrongType, ?_⟩
      rw [step, loggerName_of_not_named (not_exists.1 hnamed)]
      rfl

end LogState

/-! ## Runs -/

/-- None of the steps is refused, after steps the latest of which comes first. -/
def LogStep.Accepted (rank : Nat) : List LogStep → List LogStep → Prop
  | _, [] => True
  | past, next :: rest => ¬ next.IsRefused rank past ∧ Accepted rank (next :: past) rest

/-- What steps write one after the other, after steps the latest of which comes first. -/
inductive LogStep.Writing (s : Settings) (rank : Nat) :
    List LogStep → List LogStep → List LogLine → Prop
  | nil {past : List LogStep} : Writing s rank past [] []
  | cons {past rest : List LogStep} {next : LogStep} {lines more : List LogLine} :
    Writes s rank past next lines → Writing s rank (next :: past) rest more →
      Writing s rank past (next :: rest) (lines ++ more)

namespace LogState

variable {s : Settings} {rank : Nat}

/-- Steps that are accepted go through, and add to the lines what they write. -/
theorem foldlM_of_accepted (hs : s.environment = productionEnvironment) {past steps : List LogStep}
    (hpast : ∀ step ∈ past, step.IsPlain) (hsteps : ∀ step ∈ steps, step.IsPlain)
    (h : Accepted rank past steps) (lines : List LogLine) :
    ∃ new, Writing s rank past steps new ∧ ∃ context,
      steps.foldlM (step s (.ofRank rank)) ⟨ofList (bindings past), lines⟩ =
        .ok ⟨context, lines ++ new⟩ := by
  -- each step leaves the bindings of the steps up to it, which is what the next one starts from
  induction steps generalizing past lines with
  | nil => exact ⟨[], .nil, _, by rw [List.append_nil]; rfl⟩
  | cons next rest ih =>
    have hplain : ∀ step ∈ next :: past, step.IsPlain :=
      List.forall_mem_cons.2 ⟨hsteps next (List.mem_cons_self ..), hpast⟩
    obtain ⟨first, hfirst, hstep⟩ := step_of_bindings hs hplain h.1 lines
    obtain ⟨more, hmore, context, hrun⟩ :=
      ih hplain (fun step hmem => hsteps step (List.mem_cons_of_mem _ hmem)) h.2 (lines ++ first)
    refine ⟨first ++ more, .cons hfirst hmore, context, ?_⟩
    rw [List.foldlM_cons, hstep, ← List.append_assoc, ← hrun]
    rfl

/-- Steps one of which is refused do not go through. -/
theorem foldlM_of_not_accepted (hs : s.environment = productionEnvironment)
    {past steps : List LogStep} (hpast : ∀ step ∈ past, step.IsPlain)
    (hsteps : ∀ step ∈ steps, step.IsPlain) (h : ¬ Accepted rank past steps)
    (lines : List LogLine) :
    ∃ fault,
      steps.foldlM (step s (.ofRank rank)) ⟨ofList (bindings past), lines⟩ = .error fault := by
  induction steps generalizing past lines with
  | nil => exact absurd trivial h
  | cons next rest ih =>
    rw [List.foldlM_cons]
    by_cases hrefused : next.IsRefused rank past
    · obtain ⟨fault, hstep⟩ := step_of_refused hs hrefused lines
      rw [hstep]
      exact ⟨fault, rfl⟩
    · have hplain : ∀ step ∈ next :: past, step.IsPlain :=
        List.forall_mem_cons.2 ⟨hsteps next (List.mem_cons_self ..), hpast⟩
      obtain ⟨first, -, hstep⟩ := step_of_bindings hs hplain hrefused lines
      rw [hstep]
      exact ih hplain (fun step hmem => hsteps step (List.mem_cons_of_mem _ hmem))
        (fun hrest => h ⟨hrefused, hrest⟩) (lines ++ first)

end LogState

end ContentDepot
