import ContentDepot.Entries
import ContentDepot.Proofs.Lists
import Mathlib.Data.Finset.Card
import Mathlib.Data.List.Nodup

/-!
# Entries put over entries

What is left of a key after a run of entries has been put is the last entry of
that key (`get?_putAll`). Putting entries that were put together before is
putting them one after the other (`putAll_putAll`), and leaving a key out
commutes with putting others (`erase_putAll`). A map that was put together has every
key once, at the place where it came first (`keys_ofList`), so as many entries as
there were different keys (`length_ofList`).
-/

namespace ContentDepot.Entries

variable {α β : Type}

/-- The last value of a key in a list of entries. -/
def last? : List (String × α) → String → Option α
  | [], _ => none
  | (k, v) :: rest, key => (last? rest key).or (if k = key then some v else none)

theorem get?_putAll (m updates : Entries α) (key : String) :
    get? (putAll m updates) key = (last? updates key).or (get? m key) := by
  induction updates generalizing m with
  | nil => rfl
  | cons e es ih =>
    obtain ⟨k, v⟩ := e
    have hstep : putAll m ((k, v) :: es) = putAll (put m k v) es := rfl
    rw [hstep, ih, get?_put, last?, Option.or_assoc]
    congr 1
    split <;> rfl

theorem get?_ofList (entries : List (String × α)) (key : String) :
    get? (ofList entries) key = last? entries key :=
  (get?_putAll [] entries key).trans Option.or_none

theorem last?_of_not_mem {entries : List (String × α)} {key : String}
    (h : ∀ e ∈ entries, e.1 ≠ key) : last? entries key = none := by
  induction entries with
  | nil => rfl
  | cons e es ih =>
    rw [last?, ih fun e' he => h e' (List.mem_cons_of_mem _ he),
      if_neg (h e (List.mem_cons_self ..))]
    rfl

theorem last?_map (f : α → β) (entries : List (String × α)) (key : String) :
    last? (entries.map fun e => (e.1, f e.2)) key = (last? entries key).map f := by
  induction entries with
  | nil => rfl
  | cons e es ih =>
    rw [List.map_cons, last?, last?, ih]
    rcases last? es key with _ | v
    · split <;> rfl
    · rfl

/-! ## Membership -/

theorem mem_put {m : Entries α} {k : String} {v : α} {e : String × α} (h : e ∈ put m k v) :
    e ∈ m ∨ e = (k, v) := by
  induction m with
  | nil => exact .inr (List.mem_singleton.1 h)
  | cons e' es ih =>
    obtain ⟨k', v'⟩ := e'
    rw [put] at h
    split at h
    · rcases List.mem_cons.1 h with rfl | h
      · exact .inr rfl
      · exact .inl (List.mem_cons_of_mem _ h)
    · rcases List.mem_cons.1 h with rfl | h
      · exact .inl (List.mem_cons_self ..)
      · exact (ih h).imp_left (List.mem_cons_of_mem _)

theorem mem_of_get? {m : Entries α} {k : String} {v : α} (h : get? m k = some v) : (k, v) ∈ m := by
  induction m with
  | nil => cases h
  | cons e es ih =>
    obtain ⟨k', v'⟩ := e
    rw [get?_cons] at h
    split at h
    · rename_i hk
      cases h
      exact hk ▸ List.mem_cons_self ..
    · exact List.mem_cons_of_mem _ (ih h)

theorem mem_putAll {m updates : Entries α} {e : String × α} (h : e ∈ putAll m updates) :
    e ∈ m ∨ e ∈ updates := by
  induction updates generalizing m with
  | nil => exact .inl h
  | cons e' es ih =>
    rcases ih (m := put m e'.1 e'.2) h with h | h
    · rcases mem_put h with h | rfl
      · exact .inl h
      · exact .inr (List.mem_cons_self ..)
    · exact .inr (List.mem_cons_of_mem _ h)

theorem mem_ofList {entries : List (String × α)} {e : String × α} (h : e ∈ ofList entries) :
    e ∈ entries := (mem_putAll h).resolve_left List.not_mem_nil

/-! ## Keys -/

theorem keys_cons (e : String × α) (m : Entries α) : keys (e :: m) = e.1 :: keys m := rfl

theorem put_of_not_mem {m : Entries α} {k : String} (h : k ∉ keys m) (v : α) :
    put m k v = m ++ [(k, v)] := by
  induction m with
  | nil => rfl
  | cons e es ih =>
    rw [keys_cons, List.mem_cons, not_or] at h
    rw [put, if_neg (Ne.symm h.1), ih h.2, List.cons_append]

theorem nodup_put {m : Entries α} (h : (keys m).Nodup) (k : String) (v : α) :
    (keys (put m k v)).Nodup := by
  rw [keys_put]
  split
  · exact h
  · rename_i hk
    exact List.Nodup.append h (List.nodup_singleton k) (by simpa using hk)

theorem nodup_putAll {m : Entries α} (h : (keys m).Nodup) (updates : Entries α) :
    (keys (putAll m updates)).Nodup := by
  induction updates generalizing m with
  | nil => exact h
  | cons e es ih => exact ih (nodup_put h e.1 e.2)

theorem nodup_ofList (entries : List (String × α)) : (keys (ofList entries)).Nodup :=
  nodup_putAll (show (keys ([] : Entries α)).Nodup from List.nodup_nil) entries

theorem mem_keys_put_iff {m : Entries α} {k k' : String} {v : α} :
    k ∈ keys (put m k' v) ↔ k ∈ keys m ∨ k = k' := by
  rw [keys_put]
  split
  · rename_i hk
    exact ⟨.inl, fun h => h.elim id fun h => h ▸ hk⟩
  · rw [List.mem_append, List.mem_singleton]

theorem mem_keys_putAll {m updates : Entries α} {k : String} :
    k ∈ keys (putAll m updates) ↔ k ∈ keys m ∨ k ∈ keys updates := by
  induction updates generalizing m with
  | nil => simp [putAll, keys]
  | cons e es ih =>
    show k ∈ keys (putAll (put m e.1 e.2) es) ↔ _
    rw [ih, mem_keys_put_iff, keys_cons, List.mem_cons, or_assoc]

theorem mem_keys_ofList {entries : List (String × α)} {k : String} :
    k ∈ keys (ofList entries) ↔ k ∈ keys entries :=
  mem_keys_putAll.trans (or_iff_right List.not_mem_nil)

/-- There are as many entries as there were different keys. -/
theorem length_ofList (entries : List (String × α)) :
    (ofList entries).length = (keys entries).toFinset.card := by
  have hkeys : (keys (ofList entries)).toFinset = (keys entries).toFinset := by
    ext k
    rw [List.mem_toFinset, List.mem_toFinset, mem_keys_ofList]
  rw [← hkeys, List.toFinset_card_of_nodup (nodup_ofList entries), keys, List.length_map]

theorem ofList_concat (entries : List (String × α)) (e : String × α) :
    ofList (entries ++ [e]) = put (ofList entries) e.1 e.2 := List.foldl_concat ..

/-- The keys are those that were put, in the order in which they came first. -/
theorem keys_ofList (entries : List (String × α)) :
    keys (ofList entries) = (keys entries).eraseDups := by
  induction entries using List.reverseRecOn with
  | nil => rfl
  | append_singleton entries e ih =>
    have hkeys : keys (entries ++ [e]) = keys entries ++ [e.1] := List.map_append
    rw [ofList_concat, keys_put, hkeys, eraseDups_concat, ih]
    simp only [List.mem_eraseDups]

theorem get?_of_not_mem {m : Entries α} {key : String} (h : key ∉ keys m) : get? m key = none := by
  have := get?_isSome m key
  rw [List.contains_eq_mem, decide_eq_false h] at this
  simpa using this

theorem has_iff {m : Entries α} {key : String} : has m key = true ↔ key ∈ keys m := by
  rw [has, get?_isSome, List.contains_iff_mem]

/-- Where no key comes twice, every entry is the one that is found. -/
theorem get?_of_mem {m : Entries α} (h : (keys m).Nodup) {e : String × α} (he : e ∈ m) :
    get? m e.1 = some e.2 := by
  induction m with
  | nil => cases he
  | cons e' es ih =>
    rw [keys_cons, List.nodup_cons] at h
    rcases List.mem_cons.1 he with rfl | he
    · exact if_pos rfl
    · have hne : e'.1 ≠ e.1 := fun heq => h.1 (heq ▸ List.mem_map_of_mem he)
      exact (if_neg hne).trans (ih h.2 he)

/-- Where no key comes twice, the last value of a key is the one that is found. -/
theorem last?_of_nodup {m : Entries α} (h : (keys m).Nodup) (key : String) :
    last? m key = get? m key := by
  induction m with
  | nil => rfl
  | cons e es ih =>
    obtain ⟨k, v⟩ := e
    rw [keys_cons, List.nodup_cons] at h
    rw [last?, ih h.2, get?_cons]
    split
    · rename_i hk
      subst hk
      rw [get?_of_not_mem h.1]
      rfl
    · exact Option.or_none

theorem putAll_of_nodup {m updates : Entries α} (h : (keys (m ++ updates)).Nodup) :
    putAll m updates = m ++ updates := by
  induction updates generalizing m with
  | nil => exact (List.append_nil m).symm
  | cons e es ih =>
    have hsplit : (keys m ++ keys (e :: es)).Nodup := by rwa [keys, List.map_append] at h
    have hkey : e.1 ∉ keys m := fun hk =>
      (List.nodup_append.1 hsplit).2.2 e.1 hk e.1 (List.mem_cons_self ..) rfl
    show putAll (put m e.1 e.2) es = _
    rw [put_of_not_mem hkey, ih (by rwa [List.append_assoc]), List.append_assoc]
    rfl

/-- Entries of which no key comes twice are a map as they are. -/
theorem ofList_of_nodup {entries : List (String × α)} (h : (keys entries).Nodup) :
    ofList entries = entries := putAll_of_nodup h

theorem put_map (f : α → β) (m : Entries α) (k : String) (v : α) :
    put (m.map fun e => (e.1, f e.2)) k (f v) = (put m k v).map fun e => (e.1, f e.2) := by
  induction m with
  | nil => rfl
  | cons e es ih =>
    rw [List.map_cons, put, put]
    split
    · rfl
    · rw [ih, List.map_cons]

/-- Values may be changed before the entries are put together or after. -/
theorem ofList_map (f : α → β) (entries : List (String × α)) :
    ofList (entries.map fun e => (e.1, f e.2)) = (ofList entries).map fun e => (e.1, f e.2) := by
  induction entries using List.reverseRecOn with
  | nil => rfl
  | append_singleton entries e ih =>
    rw [List.map_append, List.map_singleton, ofList_concat, ofList_concat, ih, put_map]

/-! ## Putting over what was put -/

/-- To put what is there changes nothing. -/
theorem put_of_get? {m : Entries α} {k : String} {v : α} (h : get? m k = some v) :
    put m k v = m := by
  induction m with
  | nil => cases h
  | cons e es ih =>
    obtain ⟨k', v'⟩ := e
    rw [get?_cons] at h
    rw [put]
    split
    · rename_i hkey
      rw [if_pos hkey] at h
      rw [hkey, Option.some.inj h]
    · rename_i hkey
      rw [if_neg hkey] at h
      rw [ih h]

theorem putAll_of_get? {m updates : Entries α} (h : ∀ e ∈ updates, get? m e.1 = some e.2) :
    putAll m updates = m := by
  induction updates with
  | nil => rfl
  | cons e es ih =>
    show putAll (put m e.1 e.2) es = m
    rw [put_of_get? (h e (List.mem_cons_self ..)),
      ih fun e' he => h e' (List.mem_cons_of_mem _ he)]

/-- Entries that change no value leave everything as it is. -/
theorem putAll_eq_self {m updates : Entries α} (hn : (keys updates).Nodup)
    (h : ∀ e ∈ updates, get? (putAll m updates) e.1 = get? m e.1) : putAll m updates = m := by
  refine putAll_of_get? fun e he => ?_
  rw [← h e he, get?_putAll, last?_of_nodup hn, get?_of_mem hn he]
  rfl

theorem put_put_self (m : Entries α) (k : String) (v v' : α) :
    put (put m k v) k v' = put m k v' := by
  induction m with
  | nil => simp [put]
  | cons e es ih =>
    obtain ⟨k', u⟩ := e
    by_cases h : k' = k
    · simp [put, h]
    · simp only [put, h, if_false, ih]

/-- Two keys of which the second is known can be put in either order. -/
theorem put_comm {m : Entries α} {k k' : String} (h : k ≠ k') (hk : k ∈ keys m) (v v' : α) :
    put (put m k' v') k v = put (put m k v) k' v' := by
  induction m with
  | nil => simp [keys] at hk
  | cons e es ih =>
    obtain ⟨k₀, v₀⟩ := e
    rw [keys_cons, List.mem_cons] at hk
    by_cases h₀ : k₀ = k
    · subst h₀
      simp [put, h]
    · by_cases h₁ : k₀ = k'
      · subst h₁
        simp [put, h₀]
      · have hes : k ∈ keys es := hk.resolve_left (Ne.symm h₀)
        simp only [put, h₀, h₁, if_false, ih hes]

/-- A known key can be put before entries of other keys as well as after them. -/
theorem putAll_put_comm {m updates : Entries α} {k : String} (h : k ∉ keys updates)
    (hk : k ∈ keys m) (v : α) : putAll (put m k v) updates = put (putAll m updates) k v := by
  induction updates generalizing m with
  | nil => rfl
  | cons e es ih =>
    obtain ⟨k', v'⟩ := e
    rw [keys_cons, List.mem_cons, not_or] at h
    show putAll (put (put m k v) k' v') es = put (putAll (put m k' v') es) k v
    rw [← put_comm h.1 hk, ih h.2 (mem_keys_put_iff.2 (.inl hk))]

theorem putAll_put {m updates : Entries α} (h : (keys updates).Nodup) (k : String) (v : α) :
    putAll m (put updates k v) = put (putAll m updates) k v := by
  induction updates generalizing m with
  | nil => rfl
  | cons e es ih =>
    obtain ⟨k', v'⟩ := e
    rw [keys_cons, List.nodup_cons] at h
    by_cases hk : k' = k
    · subst hk
      have hput : put ((k', v') :: es) k' v = (k', v) :: es := by simp [put]
      rw [hput]
      show putAll (put m k' v) es = put (putAll (put m k' v') es) k' v
      rw [← putAll_put_comm h.1 (mem_keys_put_iff.2 (.inr rfl)), put_put_self]
    · have hput : put ((k', v') :: es) k v = (k', v') :: put es k v := by simp [put, hk]
      rw [hput]
      exact ih h.2

/-- Entries that were put together are put as if one after the other. -/
theorem putAll_putAll {m base : Entries α} (h : (keys base).Nodup) (updates : Entries α) :
    putAll m (putAll base updates) = putAll (putAll m base) updates := by
  induction updates generalizing base with
  | nil => rfl
  | cons e es ih =>
    show putAll m (putAll (put base e.1 e.2) es) = putAll (put (putAll m base) e.1 e.2) es
    rw [ih (nodup_put h e.1 e.2), putAll_put h]

/-! ## Leaving keys out -/

/-- Entries of which some keys are left out. -/
theorem get?_filter (keep : String → Bool) (m : Entries α) (key : String) :
    get? (m.filter fun e => keep e.1) key = if keep key then get? m key else none := by
  induction m with
  | nil => exact (ite_self _).symm
  | cons e m ih =>
    obtain ⟨k, v⟩ := e
    rw [get?_cons, List.filter_cons]
    by_cases hk : k = key
    · subst hk
      rw [if_pos rfl]
      split
      · exact if_pos rfl
      · rename_i hkeep
        rw [ih, if_neg hkeep]
    · rw [if_neg hk, ← ih]
      split
      · exact if_neg hk
      · rfl

theorem erase_put_self (m : Entries α) (k : String) (v : α) :
    erase (put m k v) k = erase m k := by
  induction m with
  | nil => simp [put, erase]
  | cons e es ih =>
    obtain ⟨k', v'⟩ := e
    simp only [erase] at ih ⊢
    by_cases h : k' = k
    · simp [put, h]
    · simp [put, h, ih]

theorem erase_put_of_ne (m : Entries α) {k key : String} (h : k ≠ key) (v : α) :
    erase (put m k v) key = put (erase m key) k v := by
  induction m with
  | nil => simp [put, erase, h]
  | cons e es ih =>
    obtain ⟨k', v'⟩ := e
    simp only [erase] at ih ⊢
    by_cases hk : k' = k
    · subst hk
      simp [put, h]
    · by_cases hkey : k' = key
      · subst hkey
        simp [put, hk, ih]
      · simp [put, hk, hkey, ih]

/-- Leaving a key out and putting others can be done in either order. -/
theorem erase_putAll (m : Entries α) {updates : Entries α} {key : String}
    (h : ∀ e ∈ updates, e.1 ≠ key) :
    erase (putAll m updates) key = putAll (erase m key) updates := by
  induction updates generalizing m with
  | nil => rfl
  | cons e es ih =>
    show erase (putAll (put m e.1 e.2) es) key = putAll (put (erase m key) e.1 e.2) es
    rw [ih _ fun e he => h e (List.mem_cons_of_mem _ he),
      erase_put_of_ne m (h e (List.mem_cons_self ..))]

end ContentDepot.Entries
