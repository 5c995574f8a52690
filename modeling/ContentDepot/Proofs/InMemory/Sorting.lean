import ContentDepot.InMemory.Sorting
import Mathlib.Data.List.Basic

/-!
# Documents that can be sorted

Documents can be sorted by a field under which all values are numbers or all are
texts, wherever there is a value (`Sortable`). Sorting them by such fields puts
the same documents in an order:

* `pass_ok`: one pass;
* `sortBy_ok`: all keys.
-/

namespace ContentDepot

namespace Json

theorem comparable_of_order? {vs : List Json}
    (h : ∀ v ∈ vs, ∀ w ∈ vs, (order? v w).isSome = true) : comparable vs = true := by
  induction vs with
  | nil => rfl
  | cons v vs ih =>
    rw [comparable, Bool.and_eq_true, List.all_eq_true]
    exact ⟨fun w hw => h v (List.mem_cons_self ..) w (List.mem_cons_of_mem _ hw),
      ih fun v' hv w hw => h v' (List.mem_cons_of_mem _ hv) w (List.mem_cons_of_mem _ hw)⟩

/-- Numbers and truth values can be compared with each other. -/
theorem order?_of_numbers {v w : Json} (hv : (number? v).isSome = true)
    (hw : (number? w).isSome = true) : (order? v w).isSome = true := by
  obtain ⟨p, hp⟩ := Option.isSome_iff_exists.1 hv
  obtain ⟨q, hq⟩ := Option.isSome_iff_exists.1 hw
  have horder : order? v w = orderNumbers? v w := by
    cases v with
    | str s => cases hv
    | arr items => cases hv
    | _ => rw [order?] <;> simp
  rw [horder, orderNumbers?, hp, hq]
  rfl

/-- Texts can be compared with each other. -/
theorem order?_of_texts (s t : String) : (order? (.str s) (.str t)).isSome = true := by
  rw [order?]
  rfl

end Json

namespace InMemory

/-- Under a field all documents have numbers or truth values, or all of them have texts, as far as
they have a value there. -/
def Sortable (field : String) (ds : List (String × Document)) : Prop :=
  (∀ d ∈ ds, fieldValue d.2 field = .null ∨
    (Json.number? (fieldValue d.2 field)).isSome = true) ∨
  ∀ d ∈ ds, fieldValue d.2 field = .null ∨ ∃ t, fieldValue d.2 field = .str t

variable {ds ds' : List (String × Document)} {key : Key}

theorem Sortable.perm {field : String} (h : Sortable field ds) (hp : ds'.Perm ds) :
    Sortable field ds' :=
  h.imp (fun h d hd => h d (hp.mem_iff.1 hd)) fun h d hd => h d (hp.mem_iff.1 hd)

theorem ne_null_of_hasValue {field : String} {d : String × Document}
    (h : hasValue field d = true) : fieldValue d.2 field ≠ .null := by
  intro hn
  rw [hasValue, hn] at h
  cases h

/-- The values that a pass compares can be compared. -/
theorem comparable_present (h : Sortable key.field ds) :
    Json.comparable ((ds.filter (hasValue key.field)).map fun d => fieldValue d.2 key.field) =
      true := by
  refine Json.comparable_of_order? fun v hv w hw => ?_
  obtain ⟨d, hd, rfl⟩ := List.mem_map.1 hv
  obtain ⟨d', hd', rfl⟩ := List.mem_map.1 hw
  obtain ⟨hd, hn⟩ := List.mem_filter.1 hd
  obtain ⟨hd', hn'⟩ := List.mem_filter.1 hd'
  rcases h with h | h
  · exact Json.order?_of_numbers ((h d hd).resolve_left (ne_null_of_hasValue hn))
      ((h d' hd').resolve_left (ne_null_of_hasValue hn'))
  · obtain ⟨s, hs⟩ := (h d hd).resolve_left (ne_null_of_hasValue hn)
    obtain ⟨t, ht⟩ := (h d' hd').resolve_left (ne_null_of_hasValue hn')
    rw [hs, ht]
    exact Json.order?_of_texts s t

/-- A pass over documents that can be sorted puts them in another order. -/
theorem pass_ok (h : Sortable key.field ds) : ∃ sorted, pass key ds = .ok sorted ∧
    sorted.Perm ds := by
  unfold pass
  dsimp only
  rw [if_pos (comparable_present h)]
  exact ⟨_, rfl, ((List.mergeSort_perm _ _).append_right _).trans (List.filter_append_perm _ ds)⟩

/-- Sorting documents that can be sorted puts them in an order. -/
theorem sortBy_ok {keys : List Key} (h : ∀ k ∈ keys, Sortable k.field ds) :
    ∃ sorted, sortBy keys ds = .ok sorted ∧ sorted.Perm ds := by
  induction keys with
  | nil => exact ⟨ds, rfl, .refl _⟩
  | cons k ks ih =>
    obtain ⟨sorted, hs, hp⟩ := ih fun k' hk => h k' (List.mem_cons_of_mem _ hk)
    obtain ⟨sorted', hs', hp'⟩ := pass_ok ((h k (List.mem_cons_self ..)).perm hp)
    refine ⟨sorted', ?_, hp'.trans hp⟩
    rw [sortBy, hs]
    exact hs'

end InMemory

end ContentDepot
