import ContentDepot.Proofs.Search.Meaning

/-!
# Searching for absent values

A field that was written as null or as the empty text holds the placeholder, and a
clause that is to ask for such a value (`Json.IsAbsent`) has it filled in the same way
before it becomes a test. Whatever the mapping knows of the field:

* `matching_equals_absent`: the search that asks for an absent value keeps the documents
  whose field holds the placeholder, however large the numbers of the others are;
* `matching_notEquals_absent`: the search that asks for any other value keeps none of them;
* `fulfils_isAmong`: a search for one of several values keeps them only if one of these,
  written in lower case, is the placeholder. The values of a list are not filled in.
-/

namespace ContentDepot

open Search InMemory

/-- What is indexed as the placeholder: null and the empty text. -/
def Json.IsAbsent (v : Json) : Prop := v = .null ∨ v = .str ""

theorem fillAbsent_of_isAbsent {v : Json} (h : v.IsAbsent) :
    fillAbsent true v = .str placeholder := by
  rcases h with rfl | rfl <;> rfl

namespace InMemory

/-! ## Predicates of one test -/

section OneTest

variable {keywords : List String} {d : Document} {t : Test} {b : Bool}

theorem fulfils_must (h : passes keywords d t = .ok b) :
    fulfils keywords d (.slots [t] [] []) = .ok b := by
  simp only [fulfils, passesAll, passesSome, h]
  cases b <;> rfl

theorem fulfils_mustNot (h : passes keywords d t = .ok b) :
    fulfils keywords d (.slots [] [t] []) = .ok !b := by
  simp only [fulfils, passesAll, passesSome, h]
  cases b <;> rfl

theorem fulfils_filter (h : passes keywords d t = .ok b) :
    fulfils keywords d (.slots [] [] [t]) = .ok b := by
  simp only [fulfils, passesAll, passesSome, h]
  cases b <;> rfl

end OneTest

/-! ## The placeholder as a term -/

mutual

/-- Whether a value has a term that reads as no number can always be told. -/
theorem hasTerm_of_word (keyword : Bool) {t : String} (ht : Numeral.float? t = none)
    (found : Json) : ∃ b, hasTerm keyword (.str t) found = .ok b := by
  have hnumber : asNumber? (.str t) = .ok none := congrArg Except.ok ht
  cases found with
  | arr items => exact someHasTerm_of_word keyword ht items
  | int n =>
    refine ⟨false, ?_⟩
    show (asNumber? (.str t) >>= _) = _
    rw [hnumber]
    rfl
  | float x =>
    refine ⟨false, ?_⟩
    show (asNumber? (.str t) >>= _) = _
    rw [hnumber]
    rfl
  | _ => exact ⟨_, rfl⟩

theorem someHasTerm_of_word (keyword : Bool) {t : String} (ht : Numeral.float? t = none)
    (items : List Json) : ∃ b, someHasTerm keyword (.str t) items = .ok b := by
  cases items with
  | nil => exact ⟨_, rfl⟩
  | cons x xs =>
    obtain ⟨b, hb⟩ := hasTerm_of_word keyword ht x
    rw [someHasTerm, hb]
    cases b with
    | true => exact ⟨_, rfl⟩
    | false => exact someHasTerm_of_word keyword ht xs

end

theorem float?_placeholder : Numeral.float? placeholder = none := by decide

/-- The placeholder is one word in lower case, so a field has it as a term in whichever way it is
matched. -/
theorem hasTerm_placeholder (keyword : Bool) (t : String) :
    hasTerm keyword (.str t) (.str placeholder) = .ok (t == placeholder) := by
  have hwords : words (.str placeholder) = [placeholder] := by decide
  show Except.ok (if keyword then placeholder == t else (words (.str placeholder)).contains t) = _
  rw [hwords, List.contains_cons, List.contains_nil, Bool.or_false, Bool.beq_comm, ite_self]

theorem hasSomeTerm_placeholder (keyword : Bool) (ts : List String) :
    hasSomeTerm keyword (.str placeholder) ts = .ok (ts.contains placeholder) := by
  induction ts with
  | nil => rfl
  | cons t ts ih =>
    rw [hasSomeTerm, hasTerm_placeholder, List.contains_cons, Bool.beq_comm]
    cases placeholder == t with
    | true => rfl
    | false => exact ih

/-- Whether the placeholder is a term of a field of a document. -/
def hasPlaceholder (keywords : List String) (field : String) (d : Document) : Bool :=
  passed keywords d (.term field (.str placeholder))

theorem passes_placeholder (keywords : List String) (field : String) (d : Document) :
    passes keywords d (.term field (.str placeholder)) =
      .ok (hasPlaceholder keywords field d) := by
  obtain ⟨b, hb⟩ := hasTerm_of_word (isKeyword keywords field) float?_placeholder
    (fieldValue d field)
  have hpasses : passes keywords d (.term field (.str placeholder)) = .ok b := hb
  rw [hasPlaceholder, passed, hpasses]

/-- A field that holds the placeholder has it as a term. -/
theorem hasPlaceholder_of_get? {keywords : List String} {field : String} {d : Document}
    (hname : bareName field = field) (h : Entries.get? d field = some (.str placeholder)) :
    hasPlaceholder keywords field d = true := by
  have hvalue : fieldValue d field = .str placeholder := by
    rw [fieldValue, hname, h]
    rfl
  have hpasses : passes keywords d (.term field (.str placeholder)) = .ok true := by
    show hasTerm _ _ (fieldValue d field) = _
    rw [hvalue, hasTerm_placeholder, beq_self_eq_true]
  rw [passes_placeholder] at hpasses
  exact Except.ok.inj hpasses

end InMemory

/-! ## Clauses that ask for an absent value -/

section Clauses

variable {field : String} {more : List String} {v : Json}

theorem predicate_equals_absent (hv : v.IsAbsent) :
    Query.predicate true ⟨[⟨field, more, .known .equals, v⟩]⟩ =
      .slots [.term field (.str placeholder)] [] [] := by
  rcases hv with rfl | rfl <;> rfl

theorem predicate_notEquals_absent (hv : v.IsAbsent) :
    Query.predicate true ⟨[⟨field, more, .known .notEquals, v⟩]⟩ =
      .slots [] [.term field (.str placeholder)] [] := by
  rcases hv with rfl | rfl <;> rfl

theorem predicate_isAmong (vs : List Json) :
    Query.predicate true ⟨[⟨field, more, .known .isAmong, .arr vs⟩]⟩ =
      .slots [] [] [.terms field (vs.map fun v => Text.lower v.text)] := rfl

variable (e : Engine) (index : String)

/-- The search for an absent value keeps the documents that have the placeholder as a term. -/
theorem matching_equals_absent (hv : v.IsAbsent) :
    e.matching index (countBody true (some ⟨[⟨field, more, .known .equals, v⟩]⟩)) =
      .ok ((e.documents index).filter fun d =>
        hasPlaceholder (e.keywordFields index) field d.2) := by
  exact matching_of_fulfils (p := .slots [.term field (.str placeholder)] [] []) _
    (fun d _ => fulfils_must (passes_placeholder ..))
    (congrArg (fun p => some (Predicate.toJson p)) (predicate_equals_absent hv))

/-- The search for any other value keeps the documents that do not. -/
theorem matching_notEquals_absent (hv : v.IsAbsent) :
    e.matching index (countBody true (some ⟨[⟨field, more, .known .notEquals, v⟩]⟩)) =
      .ok ((e.documents index).filter fun d =>
        !hasPlaceholder (e.keywordFields index) field d.2) := by
  exact matching_of_fulfils (p := .slots [] [.term field (.str placeholder)] [])
    (fun d => !hasPlaceholder (e.keywordFields index) field d)
    (fun d _ => fulfils_mustNot (passes_placeholder ..))
    (congrArg (fun p => some (Predicate.toJson p)) (predicate_notEquals_absent hv))

/-- A search for one of several values keeps a document whose field holds the placeholder exactly
if the text of one of them is the placeholder in lower case. -/
theorem fulfils_isAmong {keywords : List String} {d : Document} (hname : bareName field = field)
    (h : Entries.get? d field = some (.str placeholder)) (vs : List Json) :
    fulfils keywords d (Query.predicate true ⟨[⟨field, more, .known .isAmong, .arr vs⟩]⟩) =
      .ok (vs.any fun v => Text.lower v.text == placeholder) := by
  have hvalue : fieldValue d field = .str placeholder := by
    rw [fieldValue, hname, h]
    rfl
  have hcontains : (vs.map fun v => Text.lower v.text).contains placeholder =
      vs.any fun v => Text.lower v.text == placeholder := by
    rw [List.contains_eq_any_beq, List.any_map]
    exact congrArg vs.any (funext fun v => Bool.beq_comm)
  rw [predicate_isAmong]
  refine fulfils_filter ?_
  rw [passes, hvalue, hasSomeTerm_placeholder, hcontains]

end Clauses

end ContentDepot
