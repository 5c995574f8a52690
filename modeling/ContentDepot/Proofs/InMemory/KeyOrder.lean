import ContentDepot.Proofs.InMemory.Sorting
import Mathlib.Data.List.Sort

/-!
# The order of sorted documents

A key puts a document with a value before one without, and orders values as they
compare, or the other way round (`Key.order`). Several keys order by the first of
them that tells two documents apart (`orderBy`).

Sorted documents stand in this order, and those that no key tells apart stand as
they stood before (`sortBy_inOrder`); there is no other way to arrange them so
(`eq_of_inOrder`). One pass orders by its own key and leaves
what the key does not tell apart as it was (`pass_inOrder`); the passes for the
later keys come before, so what is left as it was is in the order of these.
-/

namespace ContentDepot

/-! ## Sorting keeps what is equal as it stood -/

section

variable {α : Type} {le : α → α → Bool} {xs : List α}

/-- An item stands before those at later positions. -/
theorem pair_sublist_of_lt {i j : Nat} (hij : i < j) (hj : j < xs.length) :
    [xs[i], xs[j]].Sublist xs := by
  have hleft : [xs[i]].Sublist (xs.take j) := by
    refine List.singleton_sublist.2 (List.mem_take_iff_getElem.2 ⟨i, ?_, rfl⟩)
    omega
  have hright : [xs[j]].Sublist (xs.drop j) := by
    refine List.singleton_sublist.2 (List.mem_drop_iff_getElem.2 ⟨0, ?_, rfl⟩)
    omega
  simpa using hleft.append hright

/-- Of two items of a sorted list the first is not after the second, and if the second is not after
the first either then they stood so before. -/
theorem pairwise_mergeSort_stable (htrans : ∀ a b c, le a b = true → le b c = true → le a c = true)
    (htotal : ∀ a b, (le a b || le b a) = true) :
    (xs.mergeSort le).Pairwise fun a b => le a b = true ∧ (le b a = true → [a, b].Sublist xs) := by
  have hperm := List.mergeSort_perm xs.zipIdx (List.zipIdxLE le)
  have hindices : (xs.zipIdx.mergeSort (List.zipIdxLE le)).Pairwise fun x y => x.2 ≠ y.2 := by
    refine (hperm.pairwise_iff fun {x y} h => Ne.symm h).2 ?_
    have hnodup : (xs.zipIdx.map Prod.snd).Nodup := by
      rw [List.zipIdx_map_snd]
      exact List.nodup_range'
    exact List.pairwise_map.1 hnodup
  have hsorted := List.pairwise_mergeSort (List.zipIdxLE_trans htrans)
    (List.zipIdxLE_total htotal) xs.zipIdx
  rw [← List.mergeSort_zipIdx, List.pairwise_map]
  refine (hsorted.and hindices).imp_of_mem fun {x y} hx hy hxy => ?_
  obtain ⟨hle, hne⟩ := hxy
  obtain ⟨-, hi, hxi⟩ := List.mem_zipIdx (hperm.mem_iff.1 hx)
  obtain ⟨-, hj, hyj⟩ := List.mem_zipIdx (hperm.mem_iff.1 hy)
  unfold List.zipIdxLE at hle
  split at hle
  · rename_i hfirst
    refine ⟨hfirst, fun hback => ?_⟩
    rw [if_pos hback, decide_eq_true_iff] at hle
    have hlt : x.2 < y.2 := Nat.lt_of_le_of_ne hle hne
    rw [hxi, hyj]
    exact pair_sublist_of_lt (by omega) (by omega)
  · cases hle

/-- Items that occur once do not stand before each other. -/
theorem not_pair_sublist_of_nodup {a b : α} (hxs : xs.Nodup) (hab : [a, b].Sublist xs) :
    ¬[b, a].Sublist xs := by
  induction xs with
  | nil => cases hab
  | cons x xs ih =>
    obtain ⟨hx, hxs⟩ := List.nodup_cons.1 hxs
    intro hba
    rcases List.cons_sublist_cons'.1 hab with hlater | ⟨rfl, hb⟩ <;>
      rcases List.cons_sublist_cons'.1 hba with hlater' | ⟨rfl, ha⟩
    · exact ih hxs hlater hlater'
    · exact hx (hlater.subset (List.mem_cons_of_mem _ (List.mem_cons_self ..)))
    · exact hx (hlater'.subset (List.mem_cons_of_mem _ (List.mem_cons_self ..)))
    · exact hx (List.singleton_sublist.1 hb)

/-- Only the comparisons of the items matter. -/
theorem mergeSort_congr {r s : α → α → Bool} (h : ∀ a ∈ xs, ∀ b ∈ xs, r a b = s a b) :
    xs.mergeSort r = xs.mergeSort s := by
  simpa using List.map_mergeSort (f := id) h

end

/-! ## The orders of values -/

namespace Binary64

instance : Ord Place := ⟨fun p q => if p.lt q then .lt else if q.lt p then .gt else .eq⟩

/-- Places are ordered. -/
instance : Std.TransOrd Place where
  eq_swap := by
    rintro (_ | a | _) (_ | b | _) <;>
      simp only [compare, Place.lt, decide_eq_true_iff] <;> grind [Ordering.swap]
  isLE_trans := by
    rintro (_ | a | _) (_ | b | _) (_ | c | _) <;>
      simp only [compare, Place.lt, decide_eq_true_iff] <;> grind [Ordering.isLE]

end Binary64

namespace Json

/-- Numbers compare as their places do. -/
theorem order?_eq_of_numbers {v w : Json} (hv : (number? v).isSome = true)
    (hw : (number? w).isSome = true) :
    order? v w = some (compareOn (fun u => (number? u).getD .bottom) v w) := by
  obtain ⟨p, hp⟩ := Option.isSome_iff_exists.1 hv
  obtain ⟨q, hq⟩ := Option.isSome_iff_exists.1 hw
  have horder : order? v w = orderNumbers? v w := by
    cases v with
    | str s => cases hv
    | arr items => cases hv
    | _ => rw [order?] <;> simp
  rw [horder, orderNumbers?, compareOn, hp, hq]
  rfl

end Json

namespace InMemory

open Json (order?)

/-- The order of two documents under a key: a value comes before none, whatever the direction. -/
def Key.order (key : Key) (a b : String × Document) : Ordering :=
  match hasValue key.field a, hasValue key.field b with
  | true, true =>
    let values := (order? (fieldValue a.2 key.field) (fieldValue b.2 key.field)).getD .eq
    if key.descending then values.swap else values
  | true, false => .lt
  | false, true => .gt
  | false, false => .eq

/-- The order of two documents under several keys, the first of which counts most. -/
def orderBy : List Key → String × Document → String × Document → Ordering
  | [], _, _ => .eq
  | key :: keys, a, b => (key.order a b).then (orderBy keys a b)

/-- The first document comes before the second in the order, or the order does not tell them apart
and it stood before it among others. -/
def ComesBefore (order : String × Document → String × Document → Ordering)
    (among : List (String × Document)) (a b : String × Document) : Prop :=
  order a b = .lt ∨ order a b = .eq ∧ [a, b].Sublist among

instance (order : String × Document → String × Document → Ordering)
    (among : List (String × Document)) (a b : String × Document) :
    Decidable (ComesBefore order among a b) :=
  inferInstanceAs (Decidable (_ ∨ _ ∧ _))

variable {ds sorted : List (String × Document)} {key : Key} {a b : String × Document}

/-- The order of two documents that have values. -/
theorem Key.order_of_values {o : Ordering} (ha : hasValue key.field a = true)
    (hb : hasValue key.field b = true)
    (h : order? (fieldValue a.2 key.field) (fieldValue b.2 key.field) = some o) :
    key.order a b = if key.descending then o.swap else o := by
  rw [Key.order, ha, hb, h]
  rfl

/-- A document may precede another exactly if it does not come after it in the direction asked
for. -/
theorem mayPrecede_eq {descending : Bool} {v w : Json} {o : Ordering} (h : order? v w = some o) :
    mayPrecede descending v w = (if descending then o.swap else o).isLE := by
  rw [mayPrecede, h]
  cases o <;> cases descending <;> rfl

/-- The values of documents that can be sorted compare as in one order of all documents. -/
theorem exists_comparison (h : Sortable key.field ds) :
    ∃ cmp : String × Document → String × Document → Ordering, Std.TransCmp cmp ∧
      ∀ a ∈ ds, ∀ b ∈ ds, hasValue key.field a = true → hasValue key.field b = true →
        order? (fieldValue a.2 key.field) (fieldValue b.2 key.field) = some (cmp a b) := by
  rcases h with h | h
  · refine ⟨compareOn fun d => (Json.number? (fieldValue d.2 key.field)).getD .bottom,
      inferInstance, fun a ha b hb hva hvb => ?_⟩
    exact Json.order?_eq_of_numbers ((h a ha).resolve_left (ne_null_of_hasValue hva))
      ((h b hb).resolve_left (ne_null_of_hasValue hvb))
  · refine ⟨compareOn fun d => (fieldValue d.2 key.field).text, inferInstance,
      fun a ha b hb hva hvb => ?_⟩
    obtain ⟨s, hs⟩ := (h a ha).resolve_left (ne_null_of_hasValue hva)
    obtain ⟨t, ht⟩ := (h b hb).resolve_left (ne_null_of_hasValue hvb)
    rw [compareOn, hs, ht, order?]
    rfl

/-- The order of a key, of documents that have values, is one order of all documents. -/
theorem exists_order (h : Sortable key.field ds) :
    ∃ cmp : String × Document → String × Document → Ordering, Std.TransCmp cmp ∧
      ∀ a ∈ ds.filter (hasValue key.field), ∀ b ∈ ds.filter (hasValue key.field),
        key.order a b = cmp a b ∧ mayPrecede key.descending (fieldValue a.2 key.field)
          (fieldValue b.2 key.field) = (cmp a b).isLE := by
  obtain ⟨cmp, htrans, hcmp⟩ := exists_comparison h
  have hswap : ∀ a b, cmp a b = (cmp b a).swap := fun _ _ => Std.OrientedCmp.eq_swap
  refine ⟨fun a b => if key.descending then (cmp a b).swap else cmp a b, ?_,
    fun a ha b hb => ?_⟩
  · cases key.descending with
    | false => exact htrans
    | true =>
      refine { eq_swap := fun {a b} => ?_, isLE_trans := fun {a b c} hab hbc => ?_ }
      · exact congrArg Ordering.swap Std.OrientedCmp.eq_swap
      · simp only [if_true, ← hswap] at hab hbc ⊢
        exact Std.TransCmp.isLE_trans hbc hab
  · obtain ⟨ha, hva⟩ := List.mem_filter.1 ha
    obtain ⟨hb, hvb⟩ := List.mem_filter.1 hb
    have horder := hcmp a ha b hb hva hvb
    exact ⟨Key.order_of_values hva hvb horder, mayPrecede_eq horder⟩

/-- A pass puts the documents in the order of its key, and leaves those that the key does not tell
apart as they stood. -/
theorem pass_inOrder (h : Sortable key.field ds) (hp : pass key ds = .ok sorted) :
    sorted.Pairwise (ComesBefore key.order ds) := by
  obtain ⟨cmp, htrans, hcmp⟩ := exists_order h
  have hswap : ∀ a b, cmp a b = (cmp b a).swap := fun _ _ => Std.OrientedCmp.eq_swap
  unfold pass at hp
  dsimp only at hp
  rw [if_pos (comparable_present h), Except.ok.injEq,
    mergeSort_congr fun a ha b hb => (hcmp a ha b hb).2] at hp
  subst hp
  have hstable : ((ds.filter (hasValue key.field)).mergeSort fun a b => (cmp a b).isLE).Pairwise
      fun a b => (cmp a b).isLE = true ∧
        ((cmp b a).isLE = true → [a, b].Sublist (ds.filter (hasValue key.field))) := by
    refine pairwise_mergeSort_stable (fun a b c => Std.TransCmp.isLE_trans) fun a b => ?_
    rw [hswap b a]
    cases cmp a b <;> rfl
  have habsent : ∀ d ∈ ds.filter (fun d => !hasValue key.field d), hasValue key.field d = false :=
    fun d hd => by simpa using (List.mem_filter.1 hd).2
  refine List.pairwise_append.2 ⟨?_, ?_, fun a ha b hb => ?_⟩
  · refine hstable.imp_of_mem fun {a b} ha hb hab => ?_
    obtain ⟨hle, hback⟩ := hab
    rw [ComesBefore, (hcmp a (List.mem_mergeSort.1 ha) b (List.mem_mergeSort.1 hb)).1]
    rcases hab : cmp a b with _ | _ | _
    · exact .inl rfl
    · refine .inr ⟨rfl, (hback ?_).trans List.filter_sublist⟩
      rw [hswap, hab]
      rfl
    · rw [hab] at hle
      cases hle
  · -- The key does not tell those without a value apart.
    refine List.pairwise_iff_forall_sublist.2 fun {a b} hab => .inr ⟨?_, ?_⟩
    · have ha := habsent a (hab.subset (List.mem_cons_self ..))
      have hb := habsent b (hab.subset (List.mem_cons_of_mem _ (List.mem_cons_self ..)))
      rw [Key.order, ha, hb]
    · exact hab.trans List.filter_sublist
  · have ha' : hasValue key.field a = true := (List.mem_filter.1 (List.mem_mergeSort.1 ha)).2
    rw [ComesBefore, Key.order, ha', habsent b hb]
    exact .inl rfl

/-- Sorted documents stand in the order of the keys, and those that no key tells apart as they stood
before. -/
theorem sortBy_inOrder {keys : List Key} (h : ∀ key ∈ keys, Sortable key.field ds)
    (hs : sortBy keys ds = .ok sorted) : sorted.Pairwise (ComesBefore (orderBy keys) ds) := by
  induction keys generalizing sorted with
  | nil =>
    cases hs
    exact List.pairwise_iff_forall_sublist.2 fun hab => .inr ⟨rfl, hab⟩
  | cons key keys ih =>
    obtain ⟨before, hbefore, hperm⟩ := sortBy_ok fun k hk => h k (List.mem_cons_of_mem _ hk)
    have hordered := ih (fun k hk => h k (List.mem_cons_of_mem _ hk)) hbefore
    rw [sortBy, hbefore] at hs
    have hsortable := (h key (List.mem_cons_self ..)).perm hperm
    refine (pass_inOrder hsortable hs).imp fun {a b} hab => ?_
    unfold ComesBefore orderBy
    rcases hab with hlt | ⟨heq, hstood⟩
    · rw [hlt]
      exact .inl rfl
    · -- What this key leaves as it stood is in the order of the others.
      rw [heq]
      exact List.pairwise_iff_forall_sublist.1 hordered hstood

/-! ## The order leaves no choice -/

theorem Key.order_swap (h : Sortable key.field ds) (ha : a ∈ ds) (hb : b ∈ ds) :
    key.order b a = (key.order a b).swap := by
  obtain ⟨cmp, htrans, hcmp⟩ := exists_order h
  rcases hva : hasValue key.field a <;> rcases hvb : hasValue key.field b
  · rw [Key.order, Key.order, hva, hvb]
    rfl
  · rw [Key.order, Key.order, hva, hvb]
    rfl
  · rw [Key.order, Key.order, hva, hvb]
    rfl
  · have hpa := List.mem_filter.2 ⟨ha, hva⟩
    have hpb := List.mem_filter.2 ⟨hb, hvb⟩
    rw [(hcmp a hpa b hpb).1, (hcmp b hpb a hpa).1]
    exact Std.OrientedCmp.eq_swap

theorem orderBy_swap {keys : List Key} (h : ∀ key ∈ keys, Sortable key.field ds) (ha : a ∈ ds)
    (hb : b ∈ ds) : orderBy keys b a = (orderBy keys a b).swap := by
  induction keys with
  | nil => rfl
  | cons key keys ih =>
    rw [orderBy, orderBy, Key.order_swap (h key (List.mem_cons_self ..)) ha hb,
      ih fun k hk => h k (List.mem_cons_of_mem _ hk), Ordering.swap_then]

/-- Documents that occur once are arranged in only one way. -/
theorem eq_of_inOrder {keys : List Key} {xs ys : List (String × Document)}
    (h : ∀ key ∈ keys, Sortable key.field ds) (hds : ds.Nodup) (hx : xs.Perm ds) (hy : ys.Perm ds)
    (hxs : xs.Pairwise (ComesBefore (orderBy keys) ds))
    (hys : ys.Pairwise (ComesBefore (orderBy keys) ds)) : xs = ys := by
  refine List.Perm.eq_of_pairwise (fun a b ha hb hab hba => ?_) hxs hys (hx.trans hy.symm)
  have hswap := orderBy_swap h (hx.mem_iff.1 ha) (hy.mem_iff.1 hb)
  rcases hab with hlt | ⟨heq, hbefore⟩
  · rw [hlt] at hswap
    rcases hba with hlt' | ⟨heq', -⟩
    · cases hswap.symm.trans hlt'
    · cases hswap.symm.trans heq'
  · rw [heq] at hswap
    rcases hba with hlt' | ⟨-, hafter⟩
    · cases hswap.symm.trans hlt'
    · exact absurd hafter (not_pair_sublist_of_nodup hds hbefore)

end InMemory

end ContentDepot
