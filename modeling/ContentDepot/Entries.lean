/-!
# Entries in insertion order

A map from texts to values that remembers the order in which its keys came: a
list of pairs. A key that is put again keeps its place and takes the new value.

* `get?_put`: what putting does to look-up.
* `keys_put`: what putting does to the order of the keys.
-/

namespace ContentDepot

/-- A map from texts to values, in the order in which the keys came. -/
abbrev Entries (α : Type) := List (String × α)

namespace Entries

variable {α β : Type}

/-- The value of a key. -/
def get? : Entries α → String → Option α
  | [], _ => none
  | (k, v) :: rest, key => if k = key then some v else get? rest key

/-- Whether the key is there. -/
def has (m : Entries α) (key : String) : Bool := (get? m key).isSome

/-- Gives the key a value: in its place if it is known, and at the end otherwise. -/
def put : Entries α → String → α → Entries α
  | [], key, value => [(key, value)]
  | (k, v) :: rest, key, value =>
    if k = key then (key, value) :: rest else (k, v) :: put rest key value

/-- Puts entries one after the other. -/
def putAll (m updates : Entries α) : Entries α := updates.foldl (fun m e => put m e.1 e.2) m

/-- The map that arises when the entries of a list are put one after the other. -/
def ofList (entries : List (String × α)) : Entries α := putAll [] entries

/-- Takes a key out. -/
def erase (m : Entries α) (key : String) : Entries α := m.filter fun e => e.1 != key

/-- The keys in order. -/
def keys (m : Entries α) : List String := m.map Prod.fst

/-- Changes the value of a known key. -/
def modify (m : Entries α) (key : String) (f : α → α) : Entries α :=
  m.map fun e => if e.1 = key then (e.1, f e.2) else e

@[simp] theorem get?_nil (key : String) : get? ([] : Entries α) key = none := rfl

theorem get?_cons (k : String) (v : α) (m : Entries α) (key : String) :
    get? ((k, v) :: m) key = if k = key then some v else get? m key := rfl

theorem get?_put (m : Entries α) (k key : String) (v : α) :
    get? (put m k v) key = if k = key then some v else get? m key := by
  induction m with
  | nil => simp [put, get?]
  | cons e m ih =>
    obtain ⟨k', v'⟩ := e
    by_cases h : k' = k
    · subst h; simp only [put, get?, if_true]; split <;> rfl
    · by_cases h' : k' = key
      · subst h'; simp [put, get?, h, Ne.symm h]
      · simp [put, get?, h, h', ih]

theorem get?_put_self (m : Entries α) (k : String) (v : α) : get? (put m k v) k = some v := by
  simp [get?_put]

theorem keys_put (m : Entries α) (k : String) (v : α) :
    keys (put m k v) = if k ∈ keys m then keys m else keys m ++ [k] := by
  induction m with
  | nil => simp [put, keys]
  | cons e m ih =>
    obtain ⟨k', v'⟩ := e
    by_cases h : k' = k
    · simp [put, keys, h]
    · have h' : ¬ k = k' := fun e => h e.symm
      simp only [keys, List.map_cons] at ih ⊢
      simp only [put, h, if_false, List.map_cons, List.mem_cons, h', false_or]
      split <;> rename_i hm <;> rw [ih] <;> simp only [hm, if_true, if_false, List.cons_append]

theorem get?_isSome (m : Entries α) (key : String) :
    (get? m key).isSome = (keys m).contains key := by
  induction m with
  | nil => rfl
  | cons e m ih =>
    obtain ⟨k, v⟩ := e
    by_cases h : k = key
    · simp [get?, keys, h]
    · have h' : ¬ key = k := fun e => h e.symm
      simp only [keys] at ih
      simp [get?, keys, h, h', ih]

theorem get?_erase (m : Entries α) (k key : String) :
    get? (erase m k) key = if k = key then none else get? m key := by
  induction m with
  | nil => simp [erase, get?]
  | cons e m ih =>
    obtain ⟨k', v'⟩ := e
    simp only [erase] at ih ⊢
    by_cases h : k' = k
    · subst h
      rw [List.filter_cons_of_neg (by simp), ih, get?_cons]
      split <;> rfl
    · rw [List.filter_cons_of_pos (by simpa using h), get?_cons, get?_cons, ih]
      by_cases h' : k' = key
      · subst h'; simp [Ne.symm h]
      · simp [h']

end Entries

end ContentDepot
