import ContentDepot.Exchange.Url

/-!
# Reading escapes back

What an escaped text stands for. Escaping a path again changes nothing in what
it stands for, and neither moves its slashes; a segment stands for the text it
was made of.

* `unescape_escapeUnless`: escaping that keeps the escapes keeps what is meant.
* `decode_segment`: a segment stands for its text.
* `decode_plain`: a text without a percent sign stands for itself.
* `splitOn_escapeUnless`: the segments of an escaped path are the escaped segments.
-/

namespace ContentDepot.Text

/-- What a check of all characters says of each. -/
theorem forall_mem_of_all {cs : List Char} {p : Char → Prop} [DecidablePred p]
    (h : cs.all (fun c => decide (p c)) = true) : ∀ c ∈ cs, p c :=
  fun c hc => of_decide_eq_true (List.all_eq_true.1 h c hc)

namespace Percent

theorem unescape_cons {c : Char} (hc : c ≠ '%') (rest : List Char) :
    unescape (c :: rest) = Utf8.encodeChar c ++ unescape rest := by
  rw [unescape]
  intro _ _ _ h
  exact absurd h hc

/-- A percent sign that starts no escape stands for itself. -/
theorem unescape_percent {rest : List Char}
    (h : ∀ a b r, rest = a :: b :: r → ¬ ((Hex.value? a).isSome ∧ (Hex.value? b).isSome)) :
    unescape ('%' :: rest) = Utf8.encodeChar '%' ++ unescape rest := by
  match rest with
  | [] => rfl
  | [c] => rfl
  | a :: b :: r =>
    rw [unescape]
    have := h a b r rfl
    cases ha : Hex.value? a <;> cases hb : Hex.value? b <;> simp_all

theorem unescape_escape {a b : Char} {high low : Nat} (ha : Hex.value? a = some high)
    (hb : Hex.value? b = some low) (rest : List Char) :
    unescape ('%' :: a :: b :: rest) = UInt8.ofNat (high * 16 + low) :: unescape rest := by
  rw [unescape, ha, hb]

theorem value?_upperDigit : ∀ n < 16, Hex.value? (Hex.upperDigit n) = some n := by decide

/-- The escape of a byte stands for the byte. -/
theorem unescape_escapeByte (b : UInt8) (rest : List Char) :
    unescape (escapeByte b ++ rest) = b :: unescape rest := by
  have h := b.toNat_lt
  show unescape ('%' :: Hex.upperDigit (b.toNat / 16) :: Hex.upperDigit (b.toNat % 16) :: rest) = _
  rw [unescape_escape (value?_upperDigit _ (by omega)) (value?_upperDigit _ (by omega)),
    show b.toNat / 16 * 16 + b.toNat % 16 = b.toNat by omega, UInt8.ofNat_toNat]

/-- The escape of a character stands for the character. -/
theorem unescape_escapeChar (c : Char) (rest : List Char) :
    unescape (escapeChar c ++ rest) = Utf8.encodeChar c ++ unescape rest := by
  unfold escapeChar
  induction Utf8.encodeChar c with
  | nil => rfl
  | cons b bs ih =>
    rw [List.flatMap_cons, List.append_assoc, unescape_escapeByte, ih, List.cons_append]

variable {keep : Char → Bool}

theorem escapeUnless_cons (c : Char) (cs : List Char) :
    escapeUnless keep (c :: cs) = (if keep c then [c] else escapeChar c) ++ escapeUnless keep cs :=
  rfl

theorem encodeChar_ne_nil (c : Char) : Utf8.encodeChar c ≠ [] := by
  unfold Utf8.encodeChar
  simp only
  repeat' split
  all_goals exact List.cons_ne_nil _ _

/-- The escape of a character begins with a percent sign. -/
theorem escapeChar_eq_cons (c : Char) : ∃ rest, escapeChar c = '%' :: rest := by
  obtain ⟨b, bs, hb⟩ := List.exists_cons_of_ne_nil (encodeChar_ne_nil c)
  exact ⟨_, by rw [escapeChar, hb]; rfl⟩

/-- The characters of an escape: the percent sign and capital hexadecimal digits. -/
theorem mem_escapeChar {c d : Char} (h : d ∈ escapeChar c) : d = '%' ∨ d.isAlphanum = true := by
  have hd : ∀ n < 16, (Hex.upperDigit n).isAlphanum = true := by decide
  simp only [escapeChar, List.mem_flatMap, escapeByte, List.mem_cons, List.not_mem_nil,
    or_false] at h
  obtain ⟨b, -, rfl | rfl | rfl⟩ := h
  · exact .inl rfl
  · have := b.toNat_lt
    exact .inr (hd _ (by omega))
  · exact .inr (hd _ (Nat.mod_lt _ (by decide)))

/-- The characters of an escaped text: those that are kept, percent signs, letters and digits. -/
theorem mem_escapeUnless {cs : List Char} {d : Char} (h : d ∈ escapeUnless keep cs) :
    (d ∈ cs ∧ keep d = true) ∨ d = '%' ∨ d.isAlphanum = true := by
  simp only [escapeUnless, List.mem_flatMap] at h
  obtain ⟨c, hc, hd⟩ := h
  split at hd
  · rename_i hk
    rw [List.mem_singleton] at hd
    exact .inl (hd ▸ ⟨hc, hk⟩)
  · exact .inr (mem_escapeChar hd)

/-- The first character of an escaped text, if it is no percent sign, is kept, and so the
first of the text. -/
theorem escapeUnless_eq_cons {cs r : List Char} {a : Char} (ha : a ≠ '%')
    (h : escapeUnless keep cs = a :: r) : ∃ cs', cs = a :: cs' ∧ escapeUnless keep cs' = r := by
  cases cs with
  | nil => cases h
  | cons c cs =>
    rw [escapeUnless_cons] at h
    split at h
    · rw [List.singleton_append, List.cons.injEq] at h
      exact ⟨cs, by rw [h.1], h.2⟩
    · obtain ⟨rest, hr⟩ := escapeChar_eq_cons c
      rw [hr, List.cons_append, List.cons.injEq] at h
      exact absurd h.1.symm ha

theorem ne_percent_of_value? {c : Char} (h : (Hex.value? c).isSome) : c ≠ '%' := by
  rintro rfl
  exact absurd h (by decide)

/-- Escaping that keeps what escapes consist of keeps what a text stands for. -/
theorem unescape_escapeUnless (hp : keep '%' = true)
    (hx : ∀ c, (Hex.value? c).isSome → keep c = true) (cs : List Char) :
    unescape (escapeUnless keep cs) = unescape cs := by
  -- an escape is passed at once, so the induction is on the length
  induction hn : cs.length using Nat.strongRecOn generalizing cs with
  | _ n ih =>
  match cs, hn with
  | [], _ => rfl
  | c :: rest, hn =>
    rw [List.length_cons] at hn
    have ihr := ih rest.length (by omega) rest rfl
    by_cases hc : c = '%'
    · subst hc
      rw [escapeUnless_cons, if_pos hp, List.singleton_append]
      by_cases he : ∃ a b r, rest = a :: b :: r ∧ (Hex.value? a).isSome ∧ (Hex.value? b).isSome
      · obtain ⟨a, b, r, rfl, ha, hb⟩ := he
        obtain ⟨x, hx'⟩ := Option.isSome_iff_exists.1 ha
        obtain ⟨y, hy'⟩ := Option.isSome_iff_exists.1 hb
        rw [escapeUnless_cons, if_pos (hx a ha), escapeUnless_cons, if_pos (hx b hb)]
        rw [List.singleton_append, List.singleton_append, unescape_escape hx' hy',
          unescape_escape hx' hy', ih r.length (by simp only [List.length_cons] at hn; omega) r rfl]
      · have he' : ∀ a b r, rest = a :: b :: r →
            ¬ ((Hex.value? a).isSome ∧ (Hex.value? b).isSome) := fun a b r h h' =>
          he ⟨a, b, r, h, h'⟩
        rw [unescape_percent he', unescape_percent, ihr]
        rintro a b r h ⟨ha, hb⟩
        obtain ⟨cs', rfl, h'⟩ := escapeUnless_eq_cons (ne_percent_of_value? ha) h
        obtain ⟨cs'', rfl, -⟩ := escapeUnless_eq_cons (ne_percent_of_value? hb) h'
        exact he' _ _ _ rfl ⟨ha, hb⟩
    · rw [escapeUnless_cons, unescape_cons hc]
      split
      · rw [List.singleton_append, unescape_cons hc, ihr]
      · rw [unescape_escapeChar, ihr]

/-- Escaping that escapes percent signs is undone by reading, whatever comes after it. -/
theorem unescape_escapeUnless_append (hp : keep '%' = false) (cs rest : List Char) :
    unescape (escapeUnless keep cs ++ rest) = cs.flatMap Utf8.encodeChar ++ unescape rest := by
  induction cs with
  | nil => rfl
  | cons c cs ih =>
    rw [escapeUnless_cons, List.flatMap_cons, List.append_assoc, List.append_assoc]
    split
    · rename_i hk
      have hc : c ≠ '%' := by rintro rfl; simp [hp] at hk
      rw [List.singleton_append, unescape_cons hc, ih]
    · rw [unescape_escapeChar, ih]

/-- Escaping that escapes percent signs is undone by reading. -/
theorem unescape_escapeUnless_of_percent (hp : keep '%' = false) (cs : List Char) :
    unescape (escapeUnless keep cs) = cs.flatMap Utf8.encodeChar := by
  have h := unescape_escapeUnless_append hp cs []
  rwa [List.append_nil, show unescape [] = [] from rfl, List.append_nil] at h

/-- A segment stands for the text it was made of. -/
theorem decode_segment (s : String) : decode (segment s) = s := by
  rw [decode, segment, String.toList_ofList, unescape_escapeUnless_of_percent (by decide)]
  exact Utf8.decodeLossy_encode s

/-- A text without a percent sign stands for itself. -/
theorem decode_plain {s : String} (h : '%' ∉ s.toList) : decode s = s := by
  have hu : unescape s.toList = Utf8.encode s := by
    unfold Utf8.encode
    generalize s.toList = cs at h
    induction cs with
    | nil => rfl
    | cons c cs ih =>
      rw [List.mem_cons, not_or] at h
      rw [unescape_cons (Ne.symm h.1), ih h.2, List.flatMap_cons]
  rw [decode, hu, Utf8.decodeLossy_encode]

/-! ## Segments of escaped paths -/

/-- Characters before the first slash belong to the first segment. -/
theorem splitOn_append_of_not_mem {xs : List Char} (h : '/' ∉ xs) (ys : List Char) :
    (xs ++ ys).splitOn '/' = (ys.splitOn '/').modifyHead (xs ++ ·) := by
  induction xs with
  | nil =>
    rw [List.nil_append]
    cases ys.splitOn '/' <;> rfl
  | cons x xs ih =>
    rw [List.mem_cons, not_or] at h
    rw [List.cons_append, List.splitOn_cons_eq_if_modifyHead,
      if_neg (by simpa using Ne.symm h.1), ih h.2]
    cases ys.splitOn '/' <;> rfl

theorem splitOn_of_not_mem {cs : List Char} (h : '/' ∉ cs) : cs.splitOn '/' = [cs] := by
  have hsplit := splitOn_append_of_not_mem h []
  rwa [List.append_nil, List.splitOn_nil, List.modifyHead_cons, List.append_nil] at hsplit

/-- The segments of an escaped path are the escaped segments. -/
theorem splitOn_escapeUnless (hk : keep '/' = true) (cs : List Char) :
    (escapeUnless keep cs).splitOn '/' = (cs.splitOn '/').map (escapeUnless keep) := by
  induction cs with
  | nil => rfl
  | cons c cs ih =>
    rw [escapeUnless_cons, List.splitOn_cons_eq_if_modifyHead]
    by_cases hc : c = '/'
    · subst hc
      rw [if_pos hk, List.singleton_append, List.splitOn_cons_eq_if_modifyHead, if_pos (by rfl),
        if_pos (by rfl), ih, List.map_cons]
      rfl
    · have hno : '/' ∉ (if keep c then [c] else escapeChar c) := by
        split
        · simpa using Ne.symm hc
        · intro h
          rcases mem_escapeChar h with h | h
          · cases h
          · exact absurd h (by decide)
      rw [splitOn_append_of_not_mem hno, ih, beq_eq_false_iff_ne.mpr hc]
      simp only [Bool.false_eq_true, if_false]
      obtain ⟨s, ss, h⟩ := List.exists_cons_of_ne_nil (List.splitOn_ne_nil '/' cs)
      rw [h, List.map_cons, List.modifyHead_cons, List.modifyHead_cons, List.map_cons,
        escapeUnless_cons]

/-- Escaping makes no text shorter. -/
theorem length_escapeUnless (cs : List Char) : cs.length ≤ (escapeUnless keep cs).length := by
  induction cs with
  | nil => exact Nat.le_refl _
  | cons c cs ih =>
    obtain ⟨rest, hr⟩ := escapeChar_eq_cons c
    rw [escapeUnless_cons, List.length_append, List.length_cons, hr]
    split <;> simp only [List.length_cons, List.length_nil] <;> omega

/-- A text all of whose characters are kept is its own escaped form. -/
theorem escapeUnless_of_kept {cs : List Char} (h : ∀ c ∈ cs, keep c = true) :
    escapeUnless keep cs = cs := by
  induction cs with
  | nil => rfl
  | cons c cs ih =>
    rw [escapeUnless_cons, if_pos (h c (List.mem_cons_self ..)),
      ih fun d hd => h d (List.mem_cons_of_mem _ hd), List.singleton_append]

/-- Only the empty text has an empty escaped form. -/
theorem escapeUnless_eq_nil {cs : List Char} : escapeUnless keep cs = [] ↔ cs = [] := by
  cases cs with
  | nil => exact Iff.of_eq (by simp [escapeUnless])
  | cons c cs =>
    obtain ⟨rest, hr⟩ := escapeChar_eq_cons c
    rw [escapeUnless_cons, hr]
    split <;> simp

end Percent

end ContentDepot.Text
