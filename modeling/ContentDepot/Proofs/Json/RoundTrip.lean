import Mathlib.Algebra.Group.Nat.Defs
import ContentDepot.Json.Printer
import ContentDepot.Json.Reader
import ContentDepot.Proofs.Entries

/-!
# What is printed is read back

A value is printed without blanks and read back as it was (`read_printChars`), as
long as it keeps the bounds of the reader, holds no binary64 number, and no object
in it holds a key twice (`Readable`):

* `readChars?_print`: a text, whatever characters it is made of;
* `readNumber_toDigits`: an integer, as long as its digits are admitted;
* `Readable.reads`: a value, before what may follow one.

An object of such values is not read if one of its members is an integer with too
many digits (`read_oversized`); for records the sign counts as one
(`admitsInt_forRecords`).
-/

namespace ContentDepot.Json

open Text

/-! ## Texts -/

theorem value?_digit : ∀ d < 16, Hex.value? (Hex.digit d) = some d := by decide

theorem padded_control :
    ∀ n < 0x20, Hex.padded 4 n = ['0', '0', Hex.digit (n / 16), Hex.digit (n % 16)] := by decide

/-- The escape of a control character stands for it. -/
theorem unicodeEscape?_padded {n : Nat} (h : n < 0x20) (rest : List Char) :
    unicodeEscape? (Hex.padded 4 n ++ rest) = some (Char.ofNat n, rest) := by
  have hzero : Hex.value? '0' = some 0 := by decide
  have hquad : hexQuad? (Hex.padded 4 n ++ rest) = some (n, rest) := by
    rw [padded_control n h]
    simp only [List.cons_append, List.nil_append, hexQuad?, hzero, value?_digit (n / 16) (by omega),
      value?_digit (n % 16) (by omega), Option.bind_eq_bind, Option.bind_some]
    show some (_, _) = some (_, _)
    congr 2
    omega
  have hlow : ¬ 0xD800 ≤ n ∧ ¬ 0xDC00 ≤ n := by omega
  rw [unicodeEscape?, hquad]
  simp [hlow.1, hlow.2]

section Characters

variable {c e : Char} {fuel : Nat} {rest : List Char}

/-- An escape of one letter stands for its character. -/
theorem readChars?_letter (hu : e ≠ 'u') (h : letterEscape? e = some c) :
    readChars? (fuel + 1) ('\\' :: e :: rest) =
      (readChars? fuel rest).map fun p => (c :: p.1, p.2) := by
  rw [readChars?, h]
  · cases readChars? fuel rest <;> rfl
  · exact hu

/-- Any other character stands for itself. -/
theorem readChars?_plain (hq : c ≠ '"') (hb : c ≠ '\\') (hc : ¬ c.toNat < 0x20) :
    readChars? (fuel + 1) (c :: rest) = (readChars? fuel rest).map fun p => (c :: p.1, p.2) := by
  rw [readChars?]
  · have hno : ¬ (c == '\\' || decide (c.toNat < 0x20)) = true := by
      simpa only [Bool.or_eq_true, beq_iff_eq, decide_eq_true_eq] using fun h => h.elim hb hc
    rw [if_neg hno]
    cases readChars? fuel rest <;> rfl
  · exact hq
  · exact fun _ h _ => hb h
  · exact fun _ _ h _ => hb h

/-- A character of a text is read back, whatever follows it. -/
theorem readChars?_escapeChar (c : Char) (fuel : Nat) (rest : List Char) :
    readChars? (fuel + 1) (escapeChar c ++ rest) =
      (readChars? fuel rest).map fun p => (c :: p.1, p.2) := by
  unfold escapeChar
  split
  · rename_i h
    simp only [Bool.or_eq_true, beq_iff_eq] at h
    rcases h with rfl | rfl <;> exact readChars?_letter (by decide) (by decide)
  rename_i hmark
  simp only [Bool.or_eq_true, beq_iff_eq, not_or] at hmark
  iterate 5
    split
    · rename_i h
      rw [beq_iff_eq.1 h]
      exact readChars?_letter (by decide) (by decide)
  split
  · rename_i h
    rw [List.cons_append, List.cons_append, readChars?, unicodeEscape?_padded h, Char.ofNat_toNat]
    show (readChars? fuel rest >>= fun p => some (c :: p.1, p.2)) = _
    cases readChars? fuel rest <;> rfl
  · rename_i h
    exact readChars?_plain hmark.1 hmark.2 h

end Characters

/-- The characters of a text are read back, up to its closing mark. -/
theorem readChars?_print (cs rest : List Char) {fuel : Nat} (h : cs.length < fuel) :
    readChars? fuel (cs.flatMap escapeChar ++ '"' :: rest) = some (cs, rest) := by
  induction cs generalizing fuel with
  | nil =>
    obtain ⟨fuel, rfl⟩ := Nat.exists_eq_add_one_of_ne_zero (Nat.ne_of_gt h)
    rfl
  | cons c cs ih =>
    obtain ⟨fuel, rfl⟩ := Nat.exists_eq_add_one_of_ne_zero (Nat.ne_of_gt (Nat.zero_lt_of_lt h))
    rw [List.flatMap_cons, List.append_assoc, readChars?_escapeChar,
      ih (Nat.lt_of_succ_lt_succ h)]
    rfl

theorem length_le_flatMap_escapeChar (cs : List Char) :
    cs.length ≤ (cs.flatMap escapeChar).length := by
  induction cs with
  | nil => exact Nat.le_refl _
  | cons c cs ih =>
    have hone : 1 ≤ (escapeChar c).length := by
      unfold escapeChar
      repeat' split
      all_goals simp
    rw [List.flatMap_cons, List.length_append, List.length_cons]
    omega

/-! ## Integers -/

/-- What may follow a value: the end of the text, a comma or a closing bracket. -/
def Closes (rest : List Char) : Prop := ∀ c, rest.head? = some c → c ∈ [',', ']', '\x7d']

theorem asciiDigit?_of_isDigit {c : Char} (h : c.isDigit = true) :
    asciiDigit? c = some (c.toNat - 48) := by
  have hle : ('0' ≤ c && c ≤ '9') = true := h
  rw [asciiDigit?, if_pos hle]

/-- Digits are taken up to what closes a number. -/
theorem takeDigits_append {ds rest : List Char} (hd : ∀ c ∈ ds, c.isDigit = true)
    (hr : Closes rest) :
    Numeral.takeDigits (ds ++ rest) = (ds.map (·.toNat - 48), rest) := by
  induction ds with
  | nil =>
    rcases rest with _ | ⟨c, rest⟩
    · rfl
    · have hnone : asciiDigit? c = none := by
        have hc := hr c rfl
        simp only [List.mem_cons, List.not_mem_nil, or_false] at hc
        rcases hc with rfl | rfl | rfl <;> decide
      rw [List.nil_append, Numeral.takeDigits, hnone]
      rfl
  | cons c ds ih =>
    rw [List.cons_append, Numeral.takeDigits, asciiDigit?_of_isDigit (hd c (List.mem_cons_self ..)),
      ih fun d hd' => hd d (List.mem_cons_of_mem _ hd')]
    rfl

theorem natOfDigits_toDigits (n : Nat) :
    Numeral.natOfDigits ((Nat.toDigits 10 n).map (·.toNat - 48)) = n := by
  rw [Numeral.natOfDigits, List.foldl_map]
  exact (Nat.ofDigitChars_eq_foldl (b := 10)).symm.trans Nat.ofDigitChars_ten_toDigits

/-- Only zero begins with a zero. -/
theorem head?_toDigits {n : Nat} (h : (Nat.toDigits 10 n).head? = some '0') : n = 0 := by
  induction n using Nat.strongRecOn with
  | _ n ih =>
    rcases Nat.lt_or_ge n 10 with hn | hn
    · rw [Nat.toDigits_of_lt_base hn] at h
      exact Nat.digitChar_eq_zero.1 (Option.some.inj h)
    · -- The first digit is that of a tenth of the number, which is not zero.
      rw [Nat.toDigits_of_base_le (by decide) hn,
        List.head?_append_of_ne_nil _ Nat.toDigits_ne_nil] at h
      have := ih (n / 10) (by omega) h
      omega

theorem Closes.readFraction {rest : List Char} (h : Closes rest) :
    readFraction rest = ([], rest) := by
  unfold Json.readFraction
  split
  · exact absurd (h '.' rfl) (by decide)
  · rfl

theorem Closes.readExponent {rest : List Char} (h : Closes rest) :
    readExponent rest = (none, rest) := by
  rcases rest with _ | ⟨c, rest⟩
  · rfl
  · have hno : ¬ (c == 'e' || c == 'E') = true := by
      have hc := h c rfl
      simp only [List.mem_cons, List.not_mem_nil, or_false] at hc
      rcases hc with rfl | rfl | rfl <;> decide
    unfold Json.readExponent
    exact if_neg hno

theorem ne_of_isDigit {c d : Char} (h : c.isDigit = true) (hd : d.isDigit = false) : c ≠ d := by
  rintro rfl
  rw [h] at hd
  cases hd

theorem exists_toDigits (n : Nat) :
    ∃ c cs, Nat.toDigits 10 n = c :: cs ∧ c.isDigit = true := by
  obtain ⟨c, cs, hn⟩ := List.exists_cons_of_ne_nil (Nat.toDigits_ne_nil : Nat.toDigits 10 n ≠ [])
  exact ⟨c, cs, hn, Nat.isDigit_of_mem_toDigits (n := n) (b := 10) (by decide) (by decide)
    (hn ▸ List.mem_cons_self ..)⟩

/-- The digits of a number as numbers: zero comes first only if it is alone. -/
theorem exists_digits (n : Nat) :
    ∃ d ds, (Nat.toDigits 10 n).map (·.toNat - 48) = d :: ds ∧ (d = 0 → ds = []) := by
  obtain ⟨c, cs, hn, hdigit⟩ := exists_toDigits n
  rw [hn]
  refine ⟨_, _, List.map_cons .., fun h0 => ?_⟩
  have hzero : c = '0' := by
    have hle : 48 ≤ c.toNat := (Char.isDigit_iff_toNat.1 hdigit).1
    have h48 : c.toNat = 48 := by omega
    rw [← Char.ofNat_toNat c, h48]
  have hhead : (Nat.toDigits 10 n).head? = some '0' := by rw [hn, List.head?_cons, hzero]
  rw [head?_toDigits hhead, Nat.toDigits_zero] at hn
  cases hn
  rfl

section Numbers

variable {b : Bounds} {n : Nat} {rest : List Char}

/-- The digits of a number are read back, as long as there are not too many. -/
theorem readNumber_toDigits (negative : Bool) (hr : Closes rest) :
    readNumber b negative (Nat.toDigits 10 n ++ rest) =
      if b.admits negative (Nat.toDigits 10 n).length true then
        .ok (.int (if negative then -(n : Int) else n), rest)
      else .error .oversized := by
  have htake : Numeral.takeDigits (Nat.toDigits 10 n ++ rest) =
      ((Nat.toDigits 10 n).map (·.toNat - 48), rest) :=
    takeDigits_append (fun c => Nat.isDigit_of_mem_toDigits (by decide) (by decide)) hr
  obtain ⟨d, ds, hds, hzero⟩ := exists_digits n
  have hvalue : Numeral.natOfDigits (d :: ds) = n := hds ▸ natOfDigits_toDigits n
  have hlength : (d :: ds).length = (Nat.toDigits 10 n).length := hds ▸ List.length_map ..
  rw [readNumber, htake, hds]
  split
  · rename_i heq
    cases heq
  · rename_i heq
    cases heq
    cases hzero rfl
  · rename_i heq
    cases heq
    simp only [hr.readFraction, hr.readExponent, hlength, hvalue, List.isEmpty_nil,
      Option.isNone_none, Bool.and_self, if_true]
    cases b.admits negative (Nat.toDigits 10 n).length true <;> rfl

end Numbers

/-! ## Values -/

/-- Whether a reader admits an integer. -/
def Bounds.admitsInt (b : Bounds) (n : Int) : Bool :=
  b.admits (decide (n < 0)) (Nat.toDigits 10 n.natAbs).length true

/-- A reader of records admits the integers whose digits, and sign, are not too many. -/
theorem admitsInt_forRecords (n : Int) : Bounds.forRecords.admitsInt n = true ↔
    n.natAbs < 10 ^ (if n < 0 then Numeral.maxDigits - 1 else Numeral.maxDigits) := by
  have hfits : ∀ k, 0 < k → ((Nat.toDigits 10 n.natAbs).length ≤ k ↔ n.natAbs < 10 ^ k) :=
    fun k hk => Nat.length_toDigits_le_iff (by decide) hk
  rw [Bounds.admitsInt, Bounds.admits, show Bounds.forRecords.countsAll = true from rfl, if_pos rfl,
    decide_eq_true_iff]
  by_cases hn : n < 0
  · rw [if_pos hn, decide_eq_true hn, if_pos rfl, ← hfits _ (by decide)]
    exact (Nat.le_sub_one_iff_lt (by decide)).symm
  · rw [if_neg hn, decide_eq_false hn, if_neg Bool.false_ne_true, ← hfits _ (by decide)]
    rfl

/-- A value that a reader gives back within its bounds, with so many levels of lists and objects to
go: it holds no binary64 number, and no object in it holds a key twice. -/
inductive Readable (b : Bounds) : Nat → Json → Prop where
  | null {depth : Nat} : Readable b depth .null
  | bool {depth : Nat} (x : Bool) : Readable b depth (.bool x)
  | int {depth : Nat} (n : Int) (h : b.admitsInt n = true) : Readable b depth (.int n)
  | str {depth : Nat} (s : String) : Readable b depth (.str s)
  | arr {depth : Nat} {items : List Json} (h : ∀ v ∈ items, Readable b depth v) :
      Readable b (depth + 1) (.arr items)
  | obj {depth : Nat} {members : Entries Json} (hk : (Entries.keys members).Nodup)
      (h : ∀ m ∈ members, Readable b depth m.2) : Readable b (depth + 1) (.obj members)

theorem printChars_int (n : Int) :
    printChars (.int n) =
      if n < 0 then '-' :: Nat.toDigits 10 n.natAbs else Nat.toDigits 10 n.natAbs := by
  rw [printChars]
  cases n with
  | ofNat m =>
    show (toString m).toList = if (m : Int) < 0 then _ else _
    rw [if_neg (Int.not_lt.2 (Int.natCast_nonneg m)), Nat.toString_eq_repr, Nat.toList_repr]
    rfl
  | negSucc m =>
    show ("-" ++ toString (m + 1)).toList = _
    rw [if_pos (Int.negSucc_lt_zero m), String.toList_append, Nat.toString_eq_repr,
      Nat.toList_repr]
    rfl

theorem skipGaps_cons {c : Char} (h : isGap c = false) (cs : List Char) :
    skipGaps (c :: cs) = c :: cs :=
  List.dropWhile_cons_of_neg (by rw [h]; exact Bool.false_ne_true)

section Values

variable {b : Bounds} {depth fuel : Nat} {v : Json} {rest : List Char}

/-- A printed integer begins with its sign or a digit. -/
theorem exists_printChars_int (n : Int) :
    ∃ c cs, printChars (.int n) = c :: cs ∧ (c = '-' ∨ c.isDigit = true) := by
  rw [printChars_int]
  split
  · exact ⟨_, _, rfl, .inl rfl⟩
  · obtain ⟨c, cs, hn, hc⟩ := exists_toDigits n.natAbs
    exact ⟨c, cs, hn, .inr hc⟩

theorem isGap_of_sign {c : Char} (h : c = '-' ∨ c.isDigit = true) : isGap c = false := by
  rcases h with rfl | hc
  · decide
  · simp only [isGap, Bool.or_eq_false_iff, beq_eq_false_iff_ne]
    exact ⟨⟨⟨ne_of_isDigit hc (by decide), ne_of_isDigit hc (by decide)⟩,
      ne_of_isDigit hc (by decide)⟩, ne_of_isDigit hc (by decide)⟩

theorem ne_of_sign {c d : Char} (h : c = '-' ∨ c.isDigit = true) (hs : d ≠ '-')
    (hd : d.isDigit = false) : c ≠ d := by
  rcases h with rfl | hc
  · exact hs.symm
  · exact ne_of_isDigit hc hd

/-- An integer is read back before what may follow it, as long as it is admitted. -/
theorem readScalar_int (n : Int) (hr : Closes rest) :
    readScalar b (printChars (.int n) ++ rest) =
      if b.admitsInt n then .ok (.int n, rest) else .error .oversized := by
  obtain ⟨c, cs, hn, hc⟩ := exists_toDigits n.natAbs
  rw [printChars_int, Bounds.admitsInt]
  split
  · rename_i hneg
    have hread : readScalar b ('-' :: Nat.toDigits 10 n.natAbs ++ rest) =
        readNumber b true (Nat.toDigits 10 n.natAbs ++ rest) := by
      rw [hn, List.cons_append, List.cons_append, readScalar]
      exact fun _ h => ne_of_isDigit hc (by decide) (List.cons.inj h).1
    have hvalue : -(n.natAbs : Int) = n := by omega
    rw [hread, readNumber_toDigits true hr, decide_eq_true hneg, if_pos rfl, hvalue]
  · rename_i hpos
    have hread : readScalar b (Nat.toDigits 10 n.natAbs ++ rest) =
        readNumber b false (Nat.toDigits 10 n.natAbs ++ rest) := by
      rw [hn, List.cons_append, readScalar]
      all_goals exact fun _ h => ne_of_isDigit hc (by decide) (List.cons.inj h).1
    have hvalue : (n.natAbs : Int) = n := by omega
    rw [hread, readNumber_toDigits false hr, decide_eq_false hpos, if_neg Bool.false_ne_true,
      hvalue]

theorem skipGaps_printInt (n : Int) (rest : List Char) :
    skipGaps (printChars (.int n) ++ rest) = printChars (.int n) ++ rest := by
  obtain ⟨c, cs, hc, hsign⟩ := exists_printChars_int n
  rw [hc, List.cons_append, skipGaps_cons (isGap_of_sign hsign)]

namespace Readable

/-- A printed value begins neither with a blank nor with a closing bracket. -/
theorem exists_printChars (h : Readable b depth v) :
    ∃ c cs, printChars v = c :: cs ∧ isGap c = false ∧ c ≠ ']' := by
  cases h with
  | null => exact ⟨_, _, rfl, by decide, by decide⟩
  | bool x => cases x <;> exact ⟨_, _, rfl, by decide, by decide⟩
  | str s => exact ⟨_, _, rfl, by decide, by decide⟩
  | arr h => exact ⟨_, _, rfl, by decide, by decide⟩
  | obj hk h => exact ⟨_, _, rfl, by decide, by decide⟩
  | int n h =>
    obtain ⟨c, cs, hc, hsign⟩ := exists_printChars_int n
    exact ⟨c, cs, hc, isGap_of_sign hsign, ne_of_sign hsign (by decide) (by decide)⟩

theorem skipGaps_print (h : Readable b depth v) (rest : List Char) :
    skipGaps (printChars v ++ rest) = printChars v ++ rest := by
  obtain ⟨c, cs, hc, hgap, -⟩ := h.exists_printChars
  rw [hc, List.cons_append, skipGaps_cons hgap]

end Readable

theorem closes_cons {c : Char} (h : c ∈ [',', ']', '\x7d']) (rest : List Char) :
    Closes (c :: rest) := by
  rintro _ ⟨⟩
  exact h

theorem readValue_scalar {c : Char} {cs : List Char} (hq : c ≠ '"') (hl : c ≠ '[')
    (ho : c ≠ '\x7b') :
    readValue b (fuel + 1) depth (c :: cs) = readScalar b (c :: cs) := by
  rw [readValue]
  · exact fun _ h => hq (List.cons.inj h).1
  · exact fun _ h => hl (List.cons.inj h).1
  · exact fun _ h => ho (List.cons.inj h).1

theorem readValue_int (n : Int) (hr : Closes rest) :
    readValue b (fuel + 1) depth (printChars (.int n) ++ rest) =
      if b.admitsInt n then .ok (.int n, rest) else .error .oversized := by
  obtain ⟨c, cs, hc, hsign⟩ := exists_printChars_int n
  rw [hc, List.cons_append, readValue_scalar (ne_of_sign hsign (by decide) (by decide))
    (ne_of_sign hsign (by decide) (by decide)) (ne_of_sign hsign (by decide) (by decide)),
    ← List.cons_append, ← hc, readScalar_int n hr]

theorem readValue_string (s : String) (h : s.toList.length < fuel) :
    readValue b (fuel + 1) depth (printString s ++ rest) = .ok (.str s, rest) := by
  have hprint : printString s ++ rest = '"' :: (s.toList.flatMap escapeChar ++ '"' :: rest) := by
    simp [printString]
  rw [hprint, readValue, readChars?_print _ _ h]
  show Except.ok (Json.str (String.ofList s.toList), rest) = _
  rw [String.ofList_toList]

/-- The reading of a value, before what may follow one. -/
def Reads (b : Bounds) (depth : Nat) (v : Json) : Prop :=
  ∀ fuel rest, 2 * (printChars v).length ≤ fuel → Closes rest →
    readValue b fuel depth (printChars v ++ rest) = .ok (v, rest)

theorem printItems_cons {vs : List Json} (h : vs ≠ []) (v : Json) :
    printItems (v :: vs) = printChars v ++ ',' :: printItems vs := by
  rw [printItems]
  exact h

theorem printMembers_cons {ms : List (String × Json)} (h : ms ≠ []) (m : String × Json) :
    printMembers (m :: ms) = printMember m ++ ',' :: printMembers ms := by
  rw [printMembers]
  exact h

/-- The items of a list are read back if each of them is. -/
theorem readItems_print {items : List Json} (hne : items ≠ [])
    (h : ∀ v ∈ items, Readable b depth v) (hv : ∀ v ∈ items, Reads b depth v)
    (hf : 2 * (printItems items).length < fuel) :
    readItems b fuel depth (printItems items ++ ']' :: rest) = .ok (items, rest) := by
  induction items generalizing fuel with
  | nil => exact absurd rfl hne
  | cons v vs ih =>
    obtain ⟨fuel, rfl⟩ := Nat.exists_eq_add_one_of_ne_zero (Nat.ne_of_gt (Nat.zero_lt_of_lt hf))
    have hfirst := h v (List.mem_cons_self ..)
    have hread := hv v (List.mem_cons_self ..)
    by_cases hvs : vs = []
    · subst hvs
      rw [printItems] at hf ⊢
      rw [readItems, hfirst.skipGaps_print, hread _ _ (by omega) (closes_cons (by decide) _)]
      rfl
    · rw [printItems_cons hvs, List.length_append, List.length_cons] at hf
      rw [printItems_cons hvs, List.append_assoc, List.cons_append, readItems,
        hfirst.skipGaps_print, hread _ _ (by omega) (closes_cons (by decide) _)]
      show (readItems b fuel depth (printItems vs ++ ']' :: rest) >>=
        fun p => Except.ok (v :: p.1, p.2)) = _
      rw [ih hvs (fun w hw => h w (List.mem_cons_of_mem _ hw))
        (fun w hw => hv w (List.mem_cons_of_mem _ hw)) (by omega)]
      rfl

theorem length_printMember (k : String) (v : Json) :
    (printMember (k, v)).length =
      (k.toList.flatMap escapeChar).length + (printChars v).length + 3 := by
  simp only [printMember, printString, List.length_append, List.length_cons, List.length_nil]
  omega

/-- After the value of a member comes what says whether there are others. -/
theorem readMembers_member {k : String} (hk : k.toList.length < fuel)
    (hv : skipGaps (printChars v ++ rest) = printChars v ++ rest) :
    readMembers b (fuel + 1) depth (printMember (k, v) ++ rest) =
      readValue b fuel depth (printChars v ++ rest) >>= fun p =>
        match skipGaps p.2 with
        | ',' :: rest => readMembers b fuel depth rest >>= fun q => .ok ((k, p.1) :: q.1, q.2)
        | '\x7d' :: rest => .ok ([(k, p.1)], rest)
        | _ => .error .malformed := by
  have hmember : printMember (k, v) ++ rest =
      '"' :: (k.toList.flatMap escapeChar ++ '"' :: ':' :: (printChars v ++ rest)) := by
    simp [printMember, printString]
  rw [hmember, readMembers, skipGaps_cons (by decide)]
  show (orMalformed (readChars? fuel (k.toList.flatMap escapeChar ++
    '"' :: ':' :: (printChars v ++ rest))) >>= _) = _
  rw [readChars?_print _ _ hk]
  show (readValue b fuel depth (skipGaps (printChars v ++ rest)) >>= fun p =>
      match skipGaps p.2 with
      | ',' :: rest => readMembers b fuel depth rest >>= fun q =>
          .ok ((String.ofList k.toList, p.1) :: q.1, q.2)
      | '\x7d' :: rest => .ok ([(String.ofList k.toList, p.1)], rest)
      | _ => .error .malformed) = _
  rw [hv, String.ofList_toList]

/-- The members of an object are read back if the value of each of them is. -/
theorem readMembers_print {members : List (String × Json)} (hne : members ≠ [])
    (h : ∀ m ∈ members, Readable b depth m.2) (hv : ∀ m ∈ members, Reads b depth m.2)
    (hf : 2 * (printMembers members).length < fuel) :
    readMembers b fuel depth (printMembers members ++ '\x7d' :: rest) = .ok (members, rest) := by
  induction members generalizing fuel with
  | nil => exact absurd rfl hne
  | cons m ms ih =>
    obtain ⟨fuel, rfl⟩ := Nat.exists_eq_add_one_of_ne_zero (Nat.ne_of_gt (Nat.zero_lt_of_lt hf))
    obtain ⟨k, v⟩ := m
    have hfirst : Readable b depth v := h (k, v) (List.mem_cons_self ..)
    have hread : Reads b depth v := hv (k, v) (List.mem_cons_self ..)
    have hkey := length_le_flatMap_escapeChar k.toList
    by_cases hms : ms = []
    · subst hms
      rw [printMembers, length_printMember] at hf
      rw [printMembers, readMembers_member (by omega) (hfirst.skipGaps_print _),
        hread _ _ (by omega) (closes_cons (by decide) _)]
      rfl
    · rw [printMembers_cons hms, List.length_append, List.length_cons, length_printMember] at hf
      rw [printMembers_cons hms, List.append_assoc, List.cons_append,
        readMembers_member (by omega) (hfirst.skipGaps_print _),
        hread _ _ (by omega) (closes_cons (by decide) _)]
      show (readMembers b fuel depth (printMembers ms ++ '\x7d' :: rest) >>=
        fun p => Except.ok ((k, v) :: p.1, p.2)) = _
      rw [ih hms (fun w hw => h w (List.mem_cons_of_mem _ hw))
        (fun w hw => hv w (List.mem_cons_of_mem _ hw)) (by omega)]
      rfl

theorem Readable.exists_fuel (h : Readable b depth v) (hf : 2 * (printChars v).length ≤ fuel) :
    ∃ f, fuel = f + 1 := by
  obtain ⟨c, cs, hc, -⟩ := h.exists_printChars
  rw [hc, List.length_cons] at hf
  exact Nat.exists_eq_add_one_of_ne_zero (by omega)

/-- The items of a list begin neither with a blank nor with a closing bracket. -/
theorem exists_printItems {items : List Json} (hne : items ≠ [])
    (h : ∀ v ∈ items, Readable b depth v) (rest : List Char) :
    ∃ c cs, printItems items ++ rest = c :: cs ∧ isGap c = false ∧ c ≠ ']' := by
  obtain ⟨v, vs, rfl⟩ := List.exists_cons_of_ne_nil hne
  obtain ⟨c, cs, hc, hgap, hclose⟩ := (h v (List.mem_cons_self ..)).exists_printChars
  by_cases hvs : vs = []
  · subst hvs
    exact ⟨c, cs ++ rest, by rw [printItems, hc, List.cons_append], hgap, hclose⟩
  · refine ⟨c, cs ++ ',' :: printItems vs ++ rest, ?_, hgap, hclose⟩
    rw [printItems_cons hvs, hc, List.cons_append, List.cons_append]

/-- The members of an object begin with a quotation mark. -/
theorem exists_printMembers {members : List (String × Json)} (hne : members ≠ [])
    (rest : List Char) : ∃ cs, printMembers members ++ rest = '"' :: cs := by
  obtain ⟨⟨k, v⟩, ms, rfl⟩ := List.exists_cons_of_ne_nil hne
  by_cases hms : ms = []
  · subst hms
    exact ⟨_, rfl⟩
  · rw [printMembers_cons hms]
    exact ⟨_, rfl⟩

theorem readValue_arr {items : List Json} (h : ∀ v ∈ items, Readable b depth v)
    (hv : ∀ v ∈ items, Reads b depth v) (hf : 2 * (printItems items).length < fuel) :
    readValue b (fuel + 1) (depth + 1) (printChars (.arr items) ++ rest) =
      .ok (.arr items, rest) := by
  have hprint : printChars (.arr items) ++ rest = '[' :: (printItems items ++ ']' :: rest) := by
    simp [printChars]
  rw [hprint]
  by_cases hne : items = []
  · subst hne
    rfl
  · obtain ⟨c, cs, hc, hgap, hclose⟩ := exists_printItems hne h (']' :: rest)
    have hopen : readValue b (fuel + 1) (depth + 1) ('[' :: c :: cs) =
        readItems b fuel depth (c :: cs) >>= fun p => .ok (.arr p.1, p.2) := by
      rw [readValue, skipGaps_cons hgap]
      split
      · rename_i heq
        exact absurd (List.cons.inj heq).1 hclose
      · rfl
    rw [hc, hopen, ← hc, readItems_print hne h hv hf]
    rfl

/-- An object that holds something is read member by member. -/
theorem readValue_members {members : Entries Json} (hne : members ≠ []) :
    readValue b (fuel + 1) (depth + 1) (printChars (.obj members) ++ rest) =
      readMembers b fuel depth (printMembers members ++ '\x7d' :: rest) >>= fun p =>
        .ok (.obj (Entries.ofList p.1), p.2) := by
  have hprint : printChars (.obj members) ++ rest =
      '\x7b' :: (printMembers members ++ '\x7d' :: rest) := by
    simp [printChars]
  obtain ⟨cs, hc⟩ := exists_printMembers hne ('\x7d' :: rest)
  rw [hprint, hc, readValue, skipGaps_cons (by decide)]
  rfl

theorem readValue_obj {members : Entries Json} (hk : (Entries.keys members).Nodup)
    (h : ∀ m ∈ members, Readable b depth m.2) (hv : ∀ m ∈ members, Reads b depth m.2)
    (hf : 2 * (printMembers members).length < fuel) :
    readValue b (fuel + 1) (depth + 1) (printChars (.obj members) ++ rest) =
      .ok (.obj members, rest) := by
  by_cases hne : members = []
  · subst hne
    rfl
  · rw [readValue_members hne, readMembers_print hne h hv hf]
    show Except.ok (Json.obj (Entries.ofList members), rest) = _
    rw [Entries.ofList_of_nodup hk]

/-- A value that is readable is read back before what may follow a value. -/
theorem Readable.reads (h : Readable b depth v) : Reads b depth v := by
  -- The reader is structural in its fuel: twice the length of the text is more than it needs.
  induction h with
  | null =>
    intro fuel rest hf _
    obtain ⟨fuel, rfl⟩ := (Readable.null : Readable b 0 .null).exists_fuel hf
    exact readValue_scalar (by decide) (by decide) (by decide)
  | bool x =>
    intro fuel rest hf _
    obtain ⟨fuel, rfl⟩ := (Readable.bool x : Readable b 0 _).exists_fuel hf
    cases x <;> exact readValue_scalar (by decide) (by decide) (by decide)
  | int n h =>
    intro fuel rest hf hr
    obtain ⟨fuel, rfl⟩ := (Readable.int n h : Readable b 0 _).exists_fuel hf
    rw [readValue_int n hr, if_pos h]
  | str s =>
    intro fuel rest hf _
    obtain ⟨fuel, rfl⟩ := (Readable.str s : Readable b 0 _).exists_fuel hf
    rw [printChars] at hf ⊢
    refine readValue_string s ?_
    have hlength := length_le_flatMap_escapeChar s.toList
    simp only [printString, List.length_append, List.length_cons] at hf
    omega
  | arr h ih =>
    intro fuel rest hf _
    obtain ⟨fuel, rfl⟩ := (Readable.arr h).exists_fuel hf
    simp only [printChars, List.length_append, List.length_cons] at hf
    exact readValue_arr h ih (by omega)
  | obj hk h ih =>
    intro fuel rest hf _
    obtain ⟨fuel, rfl⟩ := (Readable.obj hk h).exists_fuel hf
    simp only [printChars, List.length_append, List.length_cons] at hf
    exact readValue_obj hk h ih (by omega)

/-! ## Integers that are too long -/

/-- An integer with more digits than a reader admits. -/
def IsOversized (b : Bounds) (v : Json) : Prop := ∃ n, v = .int n ∧ b.admitsInt n = false

/-- What comes after the first member of an object. -/
theorem exists_tail (m : String × Json) (ms : List (String × Json)) (rest : List Char) :
    ∃ tail, printMembers (m :: ms) ++ '\x7d' :: rest = printMember m ++ tail ∧ Closes tail ∧
      (printMember m).length ≤ (printMembers (m :: ms)).length := by
  by_cases hms : ms = []
  · subst hms
    rw [printMembers]
    exact ⟨_, rfl, closes_cons (by decide) _, Nat.le_refl _⟩
  · rw [printMembers_cons hms, List.append_assoc, List.length_append]
    exact ⟨_, rfl, closes_cons (by decide) _, Nat.le_add_right ..⟩

/-- The members of an object are not read if one of them is an integer that is too long. -/
theorem readMembers_oversized {members : List (String × Json)}
    (h : ∀ m ∈ members, Readable b depth m.2 ∨ IsOversized b m.2)
    (hex : ∃ m ∈ members, IsOversized b m.2) (hf : 2 * (printMembers members).length < fuel) :
    readMembers b fuel depth (printMembers members ++ '\x7d' :: rest) = .error .oversized := by
  induction members generalizing fuel with
  | nil =>
    obtain ⟨m, hm, -⟩ := hex
    cases hm
  | cons m ms ih =>
    obtain ⟨fuel, rfl⟩ := Nat.exists_eq_add_one_of_ne_zero (Nat.ne_of_gt (Nat.zero_lt_of_lt hf))
    obtain ⟨k, v⟩ := m
    have hkey := length_le_flatMap_escapeChar k.toList
    -- The reading stops at the first member that is too long: this one, or one after it.
    by_cases hv : IsOversized b v
    · obtain ⟨n, rfl, hn⟩ := hv
      obtain ⟨tail, hprint, hcloses, hlength⟩ := exists_tail (k, .int n) ms rest
      rw [length_printMember] at hlength
      obtain ⟨fuel, rfl⟩ := Nat.exists_eq_add_one_of_ne_zero (show fuel ≠ 0 by omega)
      rw [hprint, readMembers_member (by omega) (skipGaps_printInt n tail),
        readValue_int n hcloses, hn]
      rfl
    · have hfirst : Readable b depth v := (h (k, v) (List.mem_cons_self ..)).resolve_right hv
      have hms : ∃ m ∈ ms, IsOversized b m.2 := by
        obtain ⟨m, hm, hover⟩ := hex
        rcases List.mem_cons.1 hm with rfl | hm
        · exact absurd hover hv
        · exact ⟨m, hm, hover⟩
      have hne : ms ≠ [] := by
        rintro rfl
        obtain ⟨m, hm, -⟩ := hms
        cases hm
      rw [printMembers_cons hne, List.length_append, List.length_cons, length_printMember] at hf
      rw [printMembers_cons hne, List.append_assoc, List.cons_append,
        readMembers_member (by omega) (hfirst.skipGaps_print _),
        hfirst.reads _ _ (by omega) (closes_cons (by decide) _)]
      show (readMembers b fuel depth (printMembers ms ++ '\x7d' :: rest) >>=
        fun p => Except.ok ((k, v) :: p.1, p.2)) = _
      rw [ih (fun m hm => h m (List.mem_cons_of_mem _ hm)) hms (by omega)]
      rfl

end Values

section Texts

variable {b : Bounds}

/-- A value is read as it was printed. -/
theorem read_printChars {v : Json} (h : Readable b b.depth v) : read b (printChars v) = .ok v := by
  have hv := h.reads (2 * (printChars v).length + 2) [] (by omega) (by rintro _ ⟨⟩)
  have hgap := h.skipGaps_print []
  rw [List.append_nil] at hv hgap
  rw [read, hgap, hv]
  rfl

/-- An object is not read if one of its members is an integer that is too long. -/
theorem read_oversized {depth : Nat} {members : Entries Json} (hdepth : b.depth = depth + 1)
    (h : ∀ m ∈ members, Readable b depth m.2 ∨ IsOversized b m.2)
    (hex : ∃ m ∈ members, IsOversized b m.2) :
    read b (printChars (.obj members)) = .error .oversized := by
  have hne : members ≠ [] := by
    rintro rfl
    obtain ⟨m, hm, -⟩ := hex
    cases hm
  have hgap : skipGaps (printChars (.obj members)) = printChars (.obj members) := by
    rw [printChars, List.cons_append, skipGaps_cons (by decide)]
  have hlength : (printMembers members).length < (printChars (.obj members)).length := by
    simp only [printChars, List.length_append, List.length_cons]
    omega
  have hread : readValue b (2 * (printChars (.obj members)).length + 2) (depth + 1)
      (printChars (.obj members) ++ []) = _ := readValue_members hne
  rw [List.append_nil, readMembers_oversized h hex (by omega)] at hread
  rw [read, hgap, hdepth, hread]
  rfl

end Texts

end ContentDepot.Json
