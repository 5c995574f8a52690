import ContentDepot.Proofs.Checks
import ContentDepot.Query.Wire

/-!
# The grammar of queries

Which values are queries is written down here without the reader: an object is a
clause by what stands under four of its keys (`Json.IsClause`), and a value is a
query if it is null, a list of clauses, or an object whose list of clauses, if it has
one, holds nothing else (`Json.IsQuery`). What such a value stands for is written
down along the same lines (`Json.MeansClause`, `Json.MeansQuery`).

The reader accepts this grammar and nothing more, and gives the query that the value
stands for (`Query.fromWire_iff_isQuery`).
-/

namespace ContentDepot

namespace Json

/-- The operation that a value names: a known one by its name; any other value names itself, by
its text. -/
inductive NamesOperation (v : Json) : ClauseOperation → Prop where
  | known {op : Operation} (h : v = .str op.label) : NamesOperation v (.known op)
  | other (h : ∀ op : Operation, v ≠ .str op.label) : NamesOperation v (.other v.text)

/-- The fields that an object names: the texts listed under `names`, of which there is at least
one, or without that key the text under `name`. -/
inductive NamesFields (members : Entries Json) : List String → Prop where
  | several {names : List String} (hne : names ≠ [])
      (h : Entries.get? members "names" = some (.arr (names.map .str))) :
      NamesFields members names
  | single {name : String} (habsent : Entries.get? members "names" = none)
      (h : Entries.get? members "name" = some (.str name)) : NamesFields members [name]

/-- Whether the value is a clause: an object that names fields and has an operation. -/
inductive IsClause : Json → Prop where
  | obj {members : Entries Json} {names : List String} {operation : Json}
      (hnames : NamesFields members names)
      (hoperation : Entries.get? members "operation" = some operation) :
      IsClause (.obj members)

/-- The clause that an object stands for. -/
inductive MeansClause : Json → Clause → Prop where
  | obj {members : Entries Json} {c : Clause} {operation : Json}
      (hnames : NamesFields members c.names)
      (hthere : Entries.get? members "operation" = some operation)
      (hoperation : NamesOperation operation c.operation)
      (hvalue : c.value = (Entries.get? members "value").getD .null) :
      MeansClause (.obj members) c

/-- What an object has as its list of clauses: what stands under `query`, or under
`filter_clauses` if there is no `query`. -/
def clauseList? (members : Entries Json) : Option Json :=
  (Entries.get? members "query").or (Entries.get? members "filter_clauses")

/-- Whether the value is a query. -/
inductive IsQuery : Json → Prop where
  | null : IsQuery .null
  | bare {items : List Json} (h : ∀ v ∈ items, IsClause v) : IsQuery (.arr items)
  | absent {members : Entries Json} (habsent : clauseList? members = none) :
      IsQuery (.obj members)
  | listed {members : Entries Json} {items : List Json}
      (hlist : clauseList? members = some (.arr items)) (h : ∀ v ∈ items, IsClause v) :
      IsQuery (.obj members)

/-- The query that a value stands for. -/
inductive MeansQuery : Json → Query → Prop where
  | null : MeansQuery .null ⟨[]⟩
  | bare {items : List Json} {clauses : List Clause}
      (h : List.Forall₂ MeansClause items clauses) : MeansQuery (.arr items) ⟨clauses⟩
  | absent {members : Entries Json} (habsent : clauseList? members = none) :
      MeansQuery (.obj members) ⟨[]⟩
  | listed {members : Entries Json} {items : List Json} {clauses : List Clause}
      (hlist : clauseList? members = some (.arr items))
      (h : List.Forall₂ MeansClause items clauses) : MeansQuery (.obj members) ⟨clauses⟩

end Json

/-! ## Clauses -/

theorem ClauseOperation.ofJson_label (op : Operation) : ofJson (.str op.label) = .known op := by
  rw [ofJson, ofLabel, Operation.ofLabel?_label]

/-- A value that is the name of no known operation is kept as its text. -/
theorem ClauseOperation.ofJson_of_ne {v : Json} (h : ∀ op : Operation, v ≠ .str op.label) :
    ofJson v = .other v.text := by
  cases v with
  | str s =>
    rw [ofJson, ofLabel]
    rcases hs : Operation.ofLabel? s with _ | op
    · rfl
    · have hname := List.find?_some hs
      exact absurd (congrArg Json.str (eq_of_beq hname).symm) (h op)
  | _ => rfl

namespace Json

variable {members : Entries Json} {v : Json} {c : Clause}

theorem namesOperation_iff {op : ClauseOperation} :
    v.NamesOperation op ↔ .ofJson v = op := by
  constructor
  · rintro (⟨rfl⟩ | ⟨h⟩)
    · exact ClauseOperation.ofJson_label _
    · exact ClauseOperation.ofJson_of_ne h
  · rintro rfl
    by_cases h : ∀ op : Operation, v ≠ .str op.label
    · rw [ClauseOperation.ofJson_of_ne h]
      exact .other h
    · obtain ⟨op, hop⟩ := not_forall.1 h
      rw [not_not.1 hop, ClauseOperation.ofJson_label]
      exact .known rfl

theorem NamesFields.ne_nil {names : List String} (h : NamesFields members names) :
    names ≠ [] := by
  cases h with
  | several hne _ => exact hne
  | single _ _ => exact List.cons_ne_nil _ _

/-- An object that is a clause stands for one. -/
theorem isClause_iff : v.IsClause ↔ ∃ c, v.MeansClause c := by
  constructor
  · rintro @⟨members, names, operation, hnames, hoperation⟩
    cases names with
    | nil => exact absurd rfl hnames.ne_nil
    | cons name moreNames =>
      exact ⟨⟨name, moreNames, .ofJson operation, (Entries.get? members "value").getD .null⟩,
        .obj hnames hoperation (namesOperation_iff.2 rfl) rfl⟩
  · rintro ⟨c, hnames, hthere, -, -⟩
    exact .obj hnames hthere

end Json

namespace Clause

variable {members : Entries Json} {names : List String}

theorem listOf_string_eq_ok {v : Json} :
    Schema.listOf Schema.string v = .ok names ↔ v = .arr (names.map .str) := by
  have hitems : ∀ items, List.Forall₂ (fun v s => Schema.string v = .ok s) items names ↔
      items = names.map .str := fun items => by
    simp only [Schema.string_eq_ok, List.forall₂_eq_eq_eq, ← List.forall₂_map_right_iff]
  simp only [Schema.listOf_eq_ok, hitems, exists_eq_right]

theorem checkNames_eq_ok : checkNames members = .ok names ↔ Json.NamesFields members names := by
  rw [checkNames]
  rcases hnames : Entries.get? members "names" with _ | several
  · rcases hname : Entries.get? members "name" with _ | single
    · constructor
      · intro h
        cases h
      · rintro (⟨-, h⟩ | ⟨-, h⟩)
        · rw [hnames] at h
          cases h
        · rw [hname] at h
          cases h
    dsimp only
    rw [Checked.inside_eq_ok, Schema.nonEmptyListOf_eq_ok, listOf_string_eq_ok]
    constructor
    · rintro ⟨h, -⟩
      obtain ⟨name, hsingle, rfl⟩ : ∃ name, single = .str name ∧ names = [name] := by
        obtain _ | ⟨name, _ | ⟨other, others⟩⟩ := names <;> cases h
        exact ⟨name, rfl, rfl⟩
      exact .single hnames (hname.trans (congrArg some hsingle))
    · rintro (⟨-, h⟩ | ⟨-, h⟩)
      · rw [hnames] at h
        cases h
      · rw [hname] at h
        cases h
        exact ⟨rfl, List.cons_ne_nil _ _⟩
  · dsimp only
    rw [Checked.inside_eq_ok, Schema.nonEmptyListOf_eq_ok, listOf_string_eq_ok]
    constructor
    · rintro ⟨rfl, hne⟩
      exact .several hne hnames
    · rintro (⟨hne, h⟩ | ⟨h, -⟩)
      · rw [hnames] at h
        cases h
        exact ⟨rfl, hne⟩
      · rw [hnames] at h
        cases h

theorem value_eq_ok {value : Json} :
    Schema.optionalField members ["value"] .null .ok = .ok value ↔
      value = (Entries.get? members "value").getD .null := by
  have hone : ["value"].findSome? (Entries.get? members) = Entries.get? members "value" :=
    List.findSome?_singleton
  rw [Schema.optionalField_eq_ok, hone]
  rcases Entries.get? members "value" with _ | v <;> simp [eq_comm]

/-- A clause is made of the fields, the operation and the value that were found. -/
theorem check_obj_eq_ok {notAnObject : IssueKind} {c : Clause} :
    check notAnObject (.obj members) = .ok c ↔
      ∃ names operation value, checkNames members = .ok names ∧
        Entries.get? members "operation" = some operation ∧
        Schema.optionalField members ["value"] .null .ok = .ok value ∧
        ofParts names (.ofJson operation) value = c := by
  have hone : ["operation"].findSome? (Entries.get? members) = Entries.get? members "operation" :=
    List.findSome?_singleton
  constructor
  · intro h
    obtain ⟨make, value, hmake, hvalue, rfl⟩ := Checked.apply_eq_ok.1 h
    obtain ⟨make', op, hmake', hop, rfl⟩ := Checked.apply_eq_ok.1 hmake
    obtain ⟨_, names, hparts, hnames, rfl⟩ := Checked.apply_eq_ok.1 hmake'
    obtain ⟨operation, hoperation, hop⟩ := Schema.field_eq_ok.1 hop
    cases hparts
    cases hop
    exact ⟨names, operation, value, hnames, hone ▸ hoperation, hvalue, rfl⟩
  · rintro ⟨names, operation, value, hnames, hoperation, hvalue, rfl⟩
    exact Checked.apply_eq_ok.2 ⟨_, value,
      Checked.apply_eq_ok.2 ⟨_, _, Checked.apply_eq_ok.2 ⟨_, names, rfl, hnames, rfl⟩,
        Schema.field_eq_ok.2 ⟨operation, hone.trans hoperation, rfl⟩, rfl⟩, hvalue, rfl⟩

/-- A value passes as a clause if it stands for one, and gives that one. -/
theorem check_eq_ok {notAnObject : IssueKind} {v : Json} {c : Clause} :
    check notAnObject v = .ok c ↔ v.MeansClause c := by
  cases v with
  | obj members =>
    rw [check_obj_eq_ok]
    constructor
    · rintro ⟨names, operation, value, hnames, hoperation, hvalue, rfl⟩
      have hfields := checkNames_eq_ok.1 hnames
      obtain ⟨name, moreNames, rfl⟩ := List.exists_cons_of_ne_nil hfields.ne_nil
      exact .obj hfields hoperation (Json.namesOperation_iff.2 rfl) (value_eq_ok.1 hvalue)
    · rintro @⟨_, _, operation, hnames, hthere, hoperation, hvalue⟩
      refine ⟨c.names, operation, c.value, checkNames_eq_ok.2 hnames, hthere,
        value_eq_ok.2 hvalue, ?_⟩
      rw [Json.namesOperation_iff.1 hoperation]
      rfl
  | _ =>
    constructor
    · intro h
      cases h
    · rintro ⟨⟩

end Clause

/-! ## Queries -/

namespace Json

/-- A value that is a query stands for one. -/
theorem isQuery_iff {payload : Json} : payload.IsQuery ↔ ∃ q, payload.MeansQuery q := by
  have hitems : ∀ items : List Json, (∀ v ∈ items, IsClause v) ↔
      ∃ clauses, List.Forall₂ MeansClause items clauses := fun items => by
    simp only [isClause_iff]
    induction items with
    | nil => exact ⟨fun _ => ⟨[], .nil⟩, fun _ v hv => by cases hv⟩
    | cons v items ih =>
      rw [List.forall_mem_cons, ih]
      constructor
      · rintro ⟨⟨c, hc⟩, clauses, hclauses⟩
        exact ⟨c :: clauses, .cons hc hclauses⟩
      · rintro ⟨_, hall⟩
        cases hall with
        | cons hc hclauses => exact ⟨⟨_, hc⟩, _, hclauses⟩
  constructor
  · rintro (_ | h | habsent | ⟨hlist, h⟩)
    · exact ⟨_, .null⟩
    · obtain ⟨clauses, hall⟩ := (hitems _).1 h
      exact ⟨_, .bare hall⟩
    · exact ⟨_, .absent habsent⟩
    · obtain ⟨clauses, hall⟩ := (hitems _).1 h
      exact ⟨_, .listed hlist hall⟩
  · rintro ⟨q, _ | h | habsent | ⟨hlist, h⟩⟩
    · exact .null
    · exact .bare ((hitems _).2 ⟨_, h⟩)
    · exact .absent habsent
    · exact .listed hlist ((hitems _).2 ⟨_, h⟩)

end Json

namespace Query

theorem check_obj_eq_ok {notAnObject : IssueKind} {members : Entries Json} {q : Query} :
    check notAnObject (.obj members) = .ok q ↔
      (Json.clauseList? members = none ∧ q = empty) ∨
      ∃ items, Json.clauseList? members = some (.arr items) ∧
        List.Forall₂ Json.MeansClause items q.clauses := by
  have hlist : ["query", "filter_clauses"].findSome? (Entries.get? members) =
      Json.clauseList? members := by
    rw [List.findSome?_cons, List.findSome?_singleton, Json.clauseList?]
    rcases Entries.get? members "query" with _ | v <;> rfl
  rw [check, Checked.map_eq_ok]
  simp only [Schema.optionalField_eq_ok, hlist, Schema.listOf_eq_ok, Clause.check_eq_ok]
  constructor
  · rintro ⟨clauses, ⟨habsent, rfl⟩ | ⟨_, hthere, items, rfl, hall⟩, rfl⟩
    · exact .inl ⟨habsent, rfl⟩
    · exact .inr ⟨items, hthere, hall⟩
  · rintro (⟨habsent, rfl⟩ | ⟨items, hthere, hall⟩)
    · exact ⟨[], .inl ⟨habsent, rfl⟩, rfl⟩
    · exact ⟨q.clauses, .inr ⟨_, hthere, items, rfl, hall⟩, rfl⟩

/-- A value is read as the query that it stands for. -/
theorem fromWire_eq_ok {payload : Json} {q : Query} :
    fromWire payload = .ok q ↔ payload.MeansQuery q := by
  cases payload with
  | null =>
    constructor
    · intro h
      cases h
      exact .null
    · rintro ⟨⟩
      rfl
  | arr items =>
    -- A bare list is read as an object with that list under `query`.
    have hlist : Json.clauseList? [("query", .arr items)] = some (.arr items) := rfl
    rw [fromWire, check_obj_eq_ok, hlist]
    constructor
    · rintro (⟨h, -⟩ | ⟨_, h, hall⟩)
      · cases h
      · cases h
        exact .bare hall
    · rintro (_ | hall)
      exact .inr ⟨items, rfl, hall⟩
  | obj members =>
    show check .modelType (.obj members) = .ok q ↔ _
    rw [check_obj_eq_ok]
    constructor
    · rintro (⟨habsent, rfl⟩ | ⟨items, hthere, hall⟩)
      · exact .absent habsent
      · exact .listed hthere hall
    · rintro (_ | _ | habsent | ⟨hthere, hall⟩)
      · exact .inl ⟨habsent, rfl⟩
      · exact .inr ⟨_, hthere, hall⟩
  | _ =>
    constructor
    · intro h
      cases h
    · rintro ⟨⟩

end Query

end ContentDepot
