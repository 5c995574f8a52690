import ContentDepot.Proofs.Text.Percent
import ContentDepot.Text.Lowering

/-!
# What lowering leaves as it is

The lower case of a text is in lower case, and apart from letters no ASCII
character comes by lowering. Both are read off the table of capital letters,
run against run.

* `lower_lower`: lowering twice is lowering once.
* `mem_lower`: an ASCII character of the lower case that is no letter stands in the text.
* `lower_ne_empty`: only the empty text has an empty lower case.
-/

namespace ContentDepot.Text

/-! ## The table -/

/-- The small letter of a code point of a run. -/
def LowerRun.image (r : LowerRun) (n : Nat) : Nat := (n + r.shift).toNat

/-- Whether no small letter of one run is a capital letter of another: their ranges are apart,
or every second code point is meant and not the same ones. -/
def LowerRun.isApart (r s : LowerRun) : Bool :=
  Nat.blt (r.image r.last) s.first || Nat.blt s.last (r.image r.first) ||
    (Nat.beq s.stride 2 && !Nat.beq (r.image r.first % 2) (s.first % 2) &&
      (Nat.beq (r.stride % 2) 0 || Nat.beq r.first r.last))

/-- Whether the small letters of a run are code points of characters, and letters where they
are ASCII. -/
def LowerRun.isSound (r : LowerRun) : Bool :=
  decide (0 ≤ r.first + r.shift) &&
    (Nat.ble 0x80 (r.image r.first) ||
      Nat.ble 0x61 (r.image r.first) && Nat.ble (r.image r.last) 0x7a)
    && (Nat.blt (r.image r.last) 0xD800 ||
      Nat.blt 0xDFFF (r.image r.first) && Nat.blt (r.image r.last) 0x110000)

theorem lowerRuns_apart : ∀ r ∈ lowerRuns, ∀ s ∈ lowerRuns, r.isApart s = true := by
  have h : (lowerRuns.all fun r => lowerRuns.all r.isApart) = true := by decide +kernel
  simpa only [List.all_eq_true] using h

theorem lowerRuns_sound : ∀ r ∈ lowerRuns, r.isSound = true := by
  have h : lowerRuns.all LowerRun.isSound = true := by decide
  simpa only [List.all_eq_true] using h

/-- No small letter is the dotted capital I. -/
theorem lowerRuns_dotted : ∀ r ∈ lowerRuns, r.isApart ⟨0x130, 0x130, 1, 0⟩ = true := by
  have h : lowerRuns.all (LowerRun.isApart · ⟨0x130, 0x130, 1, 0⟩) = true := by decide
  simpa only [List.all_eq_true] using h

theorem LowerRun.has_iff {r : LowerRun} {n : Nat} :
    r.has n = true ↔ r.first ≤ n ∧ n ≤ r.last ∧ (n - r.first) % r.stride = 0 := by
  simp only [has, Bool.and_eq_true, decide_eq_true_eq, beq_iff_eq, and_assoc]

/-- A small letter of a run is no capital letter of a run that is apart from it. -/
theorem LowerRun.has_image {r s : LowerRun} {n : Nat} (hr : r.isSound = true)
    (hs : r.isApart s = true) (hn : r.has n = true) : ¬ s.has (r.image n) = true := by
  simp only [isSound, isApart, image, Bool.and_eq_true, Bool.or_eq_true, Bool.not_eq_true',
    decide_eq_true_eq, Nat.blt_eq, Nat.beq_eq] at hr hs
  rw [has_iff] at hn ⊢
  obtain ⟨hf, hl, hm⟩ := hn
  rintro ⟨hf', hl', hm'⟩
  simp only [image] at hf' hl' hm'
  rcases hs with (hs | hs) | ⟨⟨h2, hp⟩, he⟩
  · omega
  · omega
  · -- every second code point, and the parities of the two runs differ
    rw [h2] at hm'
    have hp' : ¬ (r.first + r.shift).toNat % 2 = s.first % 2 := fun h => by simp [h] at hp
    have h0 : (n - r.first) % 2 = 0 := by
      rcases he with he | he
      · exact Nat.mod_eq_zero_of_dvd
          (Nat.dvd_trans (Nat.dvd_of_mod_eq_zero he) (Nat.dvd_of_mod_eq_zero hm))
      · omega
    omega

/-- A small letter of a run is the code point of a character. -/
theorem LowerRun.isValidChar_image {r : LowerRun} {n : Nat} (hr : r.isSound = true)
    (hn : r.has n = true) : (r.image n).isValidChar := by
  rw [has_iff] at hn
  simp only [isSound, image, Bool.and_eq_true, Bool.or_eq_true, decide_eq_true_eq,
    Nat.blt_eq] at hr
  simp only [image, Nat.isValidChar]
  omega

/-- A small letter of a run that is ASCII is an ASCII letter. -/
theorem LowerRun.image_ascii {r : LowerRun} {n : Nat} (hr : r.isSound = true)
    (hn : r.has n = true) (ha : r.image n < 0x80) : 0x61 ≤ r.image n ∧ r.image n ≤ 0x7a := by
  rw [has_iff] at hn
  simp only [isSound, image, Bool.and_eq_true, Bool.or_eq_true, decide_eq_true_eq,
    Nat.ble_eq] at hr
  simp only [image] at ha ⊢
  omega

/-! ## Characters -/

/-- The table finds no small letter for a small letter. -/
theorem find?_image {r : LowerRun} {n : Nat} (hr : r ∈ lowerRuns) (hn : r.has n = true) :
    lowerRuns.find? (LowerRun.has · (r.image n)) = none := by
  rw [List.find?_eq_none]
  intro s hs
  exact LowerRun.has_image (lowerRuns_sound r hr) (lowerRuns_apart r hr s hs) hn

/-- What lowering does to a character beyond ASCII: nothing, or it gives a small letter of a run. -/
theorem lowerChar_eq (c : Char) (h : ¬ c.toNat < 0x80) :
    lowerChar c = c ∨
      ∃ r ∈ lowerRuns, r.has c.toNat = true ∧ (lowerChar c).toNat = r.image c.toNat := by
  unfold lowerChar
  rw [if_neg h]
  cases hf : lowerRuns.find? (LowerRun.has · c.toNat) with
  | none => exact .inl rfl
  | some r =>
    have hr := List.mem_of_find?_eq_some hf
    have hn : r.has c.toNat = true := List.find?_some (p := (LowerRun.has · c.toNat)) hf
    refine .inr ⟨r, hr, hn, ?_⟩
    have hv := LowerRun.isValidChar_image (lowerRuns_sound r hr) hn
    show (Char.ofNat (r.image c.toNat)).toNat = _
    rw [Char.ofNat, dif_pos hv]
    rfl

/-- A character that lowering leaves as it is, wherever it stands. -/
def IsSmall (c : Char) : Prop := c ≠ 'Σ' ∧ c ≠ 'İ' ∧ lowerChar c = c

instance (c : Char) : Decidable (IsSmall c) := inferInstanceAs (Decidable (_ ∧ _ ∧ _))

theorem isSmall_lowerChar_ascii : ∀ n < 0x80, IsSmall (lowerChar (Char.ofNat n)) := by
  decide

/-- Apart from letters, an ASCII character comes only from itself. -/
theorem toLower_ascii :
    ∀ n < 0x80, (Char.ofNat n).toLower.isAlpha = false → (Char.ofNat n).toLower = Char.ofNat n := by
  decide

theorem isSmall_letter :
    ∀ n < 0x7b, 0x61 ≤ n → IsSmall (Char.ofNat n) ∧ (Char.ofNat n).isAlpha := by
  decide

/-- What lowering makes of a character is a small letter, or no letter with a small one. -/
theorem isSmall_lowerChar {c : Char} (hi : c ≠ 'İ') (hs : c ≠ 'Σ') : IsSmall (lowerChar c) := by
  by_cases ha : c.toNat < 0x80
  · simpa using isSmall_lowerChar_ascii c.toNat ha
  rcases lowerChar_eq c ha with h | ⟨r, hr, hn, h⟩
  · rw [h]; exact ⟨hs, hi, h⟩
  have hnone := find?_image hr hn
  by_cases hd : (lowerChar c).toNat < 0x80
  · have hl := LowerRun.image_ascii (lowerRuns_sound r hr) hn (h ▸ hd)
    simpa using (isSmall_letter (lowerChar c).toNat (by omega) (by omega)).1
  rw [← h] at hnone
  refine ⟨fun e => ?_, fun e => ?_, ?_⟩
  · rw [e] at hnone
    exact absurd hnone (by decide)
  · have hdot := LowerRun.has_image (lowerRuns_sound r hr) (lowerRuns_dotted r hr) hn
    rw [← h, e] at hdot
    exact hdot (by decide)
  · rw [lowerChar, if_neg hd, hnone]

/-! ## Texts -/

/-- The small letters that are no single image: those of the sigma and of the dotted capital I. -/
theorem isSmall_special : ∀ c ∈ ['ς', 'σ', 'i', '\u0307'], IsSmall c :=
  forall_mem_of_all (by decide)

/-- A character of a lower case is the small letter of a character of the text or one of the
special ones. -/
theorem mem_lowerFrom {b : Bool} {cs : List Char} {d : Char} (h : d ∈ lowerFrom b cs) :
    d ∈ ['ς', 'σ', 'i', '\u0307'] ∨ ∃ c ∈ cs, c ≠ 'İ' ∧ c ≠ 'Σ' ∧ d = lowerChar c := by
  induction cs generalizing b with
  | nil => simp [lowerFrom] at h
  | cons c rest ih =>
    simp only [lowerFrom, List.mem_append] at h
    rcases h with h | h
    · split at h
      · split at h <;> simp_all
      · split at h
        · simp_all
        · rename_i hs hi
          rw [List.mem_singleton] at h
          exact .inr ⟨c, List.mem_cons_self .., by simpa using hi, by simpa using hs, h⟩
    · rcases ih h with h | ⟨c', hc, h⟩
      · exact .inl h
      · exact .inr ⟨c', List.mem_cons_of_mem _ hc, h⟩

theorem isSmall_of_mem_lowerFrom {b : Bool} {cs : List Char} {d : Char}
    (h : d ∈ lowerFrom b cs) : IsSmall d := by
  rcases mem_lowerFrom h with h | ⟨c, _, hi, hs, rfl⟩
  · exact isSmall_special d h
  · exact isSmall_lowerChar hi hs

/-- Small letters at the front are left as they are, whatever follows. -/
theorem lowerFrom_append_of_small {b : Bool} {cs : List Char} (h : ∀ c ∈ cs, IsSmall c)
    (rest : List Char) : ∃ b', lowerFrom b (cs ++ rest) = cs ++ lowerFrom b' rest := by
  induction cs generalizing b with
  | nil => exact ⟨b, rfl⟩
  | cons c cs ih =>
    obtain ⟨hs, hi, hc⟩ := h c (List.mem_cons_self ..)
    obtain ⟨b', hrest⟩ := ih (b := if isCaseIgnorable c then b else isCased c)
      fun c hc => h c (List.mem_cons_of_mem _ hc)
    refine ⟨b', ?_⟩
    simp only [List.cons_append, lowerFrom, beq_eq_false_iff_ne.mpr hs, beq_eq_false_iff_ne.mpr hi,
      hc, hrest, Bool.false_eq_true, if_false, List.nil_append]

theorem lowerFrom_of_small {b : Bool} {cs : List Char} (h : ∀ c ∈ cs, IsSmall c) :
    lowerFrom b cs = cs := by
  obtain ⟨b', hr⟩ := lowerFrom_append_of_small (b := b) h []
  rwa [List.append_nil, lowerFrom, List.append_nil] at hr

/-- Lowering twice is lowering once. -/
theorem lower_lower (s : String) : lower (lower s) = lower s := by
  have h : ∀ c ∈ (lower s).toList, IsSmall c := fun c hc =>
    isSmall_of_mem_lowerFrom (by simpa [lower] using hc)
  rw [lower, lowerFrom_of_small h, String.ofList_toList]

/-- Only itself is lowered to an ASCII character that is no letter. -/
theorem lowerChar_plain {c : Char} (ha : (lowerChar c).toNat < 0x80)
    (hl : (lowerChar c).isAlpha = false) : lowerChar c = c := by
  by_cases hca : c.toNat < 0x80
  · have h := toLower_ascii c.toNat hca
    simp only [Char.ofNat_toNat] at h
    rw [lowerChar, if_pos hca] at hl ⊢
    exact h hl
  rcases lowerChar_eq c hca with h | ⟨r, hr, hn, h⟩
  · exact h
  · have hb := LowerRun.image_ascii (lowerRuns_sound r hr) hn (h ▸ ha)
    have hletter := (isSmall_letter (lowerChar c).toNat (by omega) (by omega)).2
    rw [Char.ofNat_toNat, hl] at hletter
    cases hletter

/-- The special small letters are letters or no ASCII characters. -/
theorem not_plain_special :
    ∀ d ∈ ['ς', 'σ', 'i', '\u0307'], ¬ (d.toNat < 0x80 ∧ d.isAlpha = false) :=
  forall_mem_of_all (by decide)

/-- An ASCII character of the lower case that is no letter stands in the text. -/
theorem mem_lower {s : String} {d : Char} (h : d ∈ (lower s).toList) (ha : d.toNat < 0x80)
    (hl : d.isAlpha = false) : d ∈ s.toList := by
  rw [lower, String.toList_ofList] at h
  rcases mem_lowerFrom h with h | ⟨c, hc, -, -, rfl⟩
  · exact absurd ⟨ha, hl⟩ (not_plain_special d h)
  · rwa [lowerChar_plain ha hl]

/-- A text is lowered to ASCII characters that are no letters only if it is made of them. -/
theorem eq_of_lowerFrom_plain {b : Bool} {cs : List Char}
    (h : ∀ d ∈ lowerFrom b cs, d.toNat < 0x80 ∧ d.isAlpha = false) : lowerFrom b cs = cs := by
  induction cs generalizing b with
  | nil => rfl
  | cons c rest ih =>
    simp only [lowerFrom] at h ⊢
    rw [ih fun d hd => h d (List.mem_append_right _ hd)]
    split
    · rename_i hs
      have := h (if b && !casedFollows rest then 'ς' else 'σ') (by simp [hs])
      split at this <;> exact absurd this (by decide)
    · split
      · rename_i hs hi
        exact absurd (h 'i' (by simp [hs, hi])) (by decide)
      · rename_i hs hi
        have := h (lowerChar c) (by simp [hs, hi])
        rw [lowerChar_plain this.1 this.2, List.singleton_append]

theorem eq_of_lower_plain {s : String}
    (h : ∀ d ∈ (lower s).toList, d.toNat < 0x80 ∧ d.isAlpha = false) : lower s = s := by
  have hs : lowerFrom false s.toList = s.toList := by
    refine eq_of_lowerFrom_plain fun d hd => h d ?_
    rwa [lower, String.toList_ofList]
  rw [lower, hs, String.ofList_toList]

/-- Only the empty text has an empty lower case. -/
theorem lower_ne_empty {s : String} (h : s ≠ "") : lower s ≠ "" := by
  intro hl
  have hs : s.toList ≠ [] := fun e => h (by rw [← String.ofList_toList (s := s), e])
  obtain ⟨c, rest, hc⟩ := List.exists_cons_of_ne_nil hs
  have hnil : lowerFrom false s.toList = [] := by
    rw [← String.toList_ofList (l := lowerFrom false s.toList)]
    exact congrArg String.toList hl
  rw [hc, lowerFrom, List.append_eq_nil_iff] at hnil
  have := hnil.1
  split at this
  · cases this
  · split at this <;> cases this

end ContentDepot.Text
