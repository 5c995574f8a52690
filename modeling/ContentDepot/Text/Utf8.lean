/-!
# UTF-8

Characters as bytes and back. A byte sequence is read as a list of optional
characters: `none` stands for one defect, which spans the longest beginning of
a character that the bytes hold there, and at least one byte.

* `encode`: the bytes of a text.
* `decode?`: the text, unless there is a defect.
* `decodeLossy`: the text, with U+FFFD in place of each defect.
* `scan_encodeChar`: an encoded character reads back as itself.
* `decode?_encode`, `decodeLossy_encode`: so does an encoded text.
-/

namespace ContentDepot

/-- A sequence of bytes: file content, a request or response body. -/
abbrev Bytes := List UInt8

namespace Text.Utf8

/-- The bytes of a character. -/
def encodeChar (c : Char) : Bytes :=
  let n := c.toNat
  if n < 0x80 then [UInt8.ofNat n]
  else if n < 0x800 then [UInt8.ofNat (0xC0 + n / 64), UInt8.ofNat (0x80 + n % 64)]
  else if n < 0x10000 then
    [UInt8.ofNat (0xE0 + n / 4096), UInt8.ofNat (0x80 + n / 64 % 64), UInt8.ofNat (0x80 + n % 64)]
  else
    [UInt8.ofNat (0xF0 + n / 262144), UInt8.ofNat (0x80 + n / 4096 % 64),
      UInt8.ofNat (0x80 + n / 64 % 64), UInt8.ofNat (0x80 + n % 64)]

/-- The bytes of a text. -/
def encode (s : String) : Bytes := s.toList.flatMap encodeChar

/-- What is known within a character: the bits so far, how many bytes are to
come, and the bounds of the next one. -/
structure Pending where
  bits : Nat
  missing : Nat
  low : Nat
  high : Nat

/-- What a first byte says: a whole character, the beginning of a longer one, or a defect. -/
def lead (b : Nat) : Option (Char ⊕ Pending) :=
  if b < 0x80 then some (.inl (Char.ofNat b))
  else if b < 0xC2 then none
  else if b < 0xE0 then some (.inr ⟨b - 0xC0, 1, 0x80, 0xBF⟩)
  else if b < 0xF0 then
    some (.inr ⟨b - 0xE0, 2, if b = 0xE0 then 0xA0 else 0x80, if b = 0xED then 0x9F else 0xBF⟩)
  else if b < 0xF5 then
    some (.inr ⟨b - 0xF0, 3, if b = 0xF0 then 0x90 else 0x80, if b = 0xF4 then 0x8F else 0xBF⟩)
  else none

/-- Reads a byte that starts a character: what is complete, and what is pending. -/
def start (b : UInt8) : List (Option Char) × Option Pending :=
  match lead b.toNat with
  | none => ([none], none)
  | some (.inl c) => ([some c], none)
  | some (.inr p) => ([], some p)

/-- The characters and defects of a byte sequence, within a character or not. -/
def scan : Option Pending → Bytes → List (Option Char)
  | none, [] => []
  | some _, [] => [none]
  | none, b :: rest =>
    let (done, pending) := start b
    done ++ scan pending rest
  | some p, b :: rest =>
    if p.low ≤ b.toNat && b.toNat ≤ p.high then
      let bits := p.bits * 64 + (b.toNat - 0x80)
      if p.missing = 1 then some (Char.ofNat bits) :: scan none rest
      else scan (some ⟨bits, p.missing - 1, 0x80, 0xBF⟩) rest
    else
      let (done, pending) := start b
      none :: done ++ scan pending rest

/-- The text of a byte sequence, unless it has a defect. -/
def decode? (bs : Bytes) : Option (List Char) := (scan none bs).mapM id

/-- The text of a byte sequence, with U+FFFD for each defect. -/
def decodeLossy (bs : Bytes) : String :=
  String.ofList ((scan none bs).map (·.getD '\ufffd'))

/-! ## Reading back -/

/-- A number below 256 is the value of its byte. -/
theorem toNat_byte {n : Nat} (h : n < 256) : (UInt8.ofNat n).toNat = n := by
  simp [Nat.mod_eq_of_lt h]

/-- A byte within the bounds goes on with the pending character. -/
theorem scan_some_cons {p : Pending} {n : Nat} (rest : Bytes) (hn : n < 256) (hl : p.low ≤ n)
    (hh : n ≤ p.high) :
    scan (some p) (UInt8.ofNat n :: rest) =
      if p.missing = 1 then some (Char.ofNat (p.bits * 64 + (n - 0x80))) :: scan none rest
      else scan (some ⟨p.bits * 64 + (n - 0x80), p.missing - 1, 0x80, 0xBF⟩) rest := by
  rw [scan, toNat_byte hn]; simp [hl, hh]

/-- The first byte of a character decides what follows. -/
theorem scan_none_cons {n : Nat} (rest : Bytes) (hn : n < 256) :
    scan none (UInt8.ofNat n :: rest) = match lead n with
      | none => none :: scan none rest
      | some (.inl c) => some c :: scan none rest
      | some (.inr p) => scan (some p) rest := by
  rw [scan, start, toNat_byte hn]
  cases lead n with
  | none => rfl
  | some x => cases x <;> rfl

/-- An encoded character reads back as itself. -/
theorem scan_encodeChar (c : Char) (rest : Bytes) :
    scan none (encodeChar c ++ rest) = some c :: scan none rest := by
  have hv : c.toNat < 0xD800 ∨ (0xDFFF < c.toNat ∧ c.toNat < 0x110000) := c.valid
  have hc : Char.ofNat c.toNat = c := Char.ofNat_toNat c
  generalize hn : c.toNat = n at hv hc
  unfold encodeChar
  simp only [hn]
  split
  · rw [List.singleton_append, scan_none_cons _ (by omega)]
    simp [lead, *]
  · split
    · rw [List.cons_append, scan_none_cons _ (by omega), lead, if_neg (by omega),
      if_neg (by omega), if_pos (by omega)]
      simp only [List.singleton_append]
      rw [scan_some_cons _ (by omega) (by dsimp only; omega) (by dsimp only; omega)]
      simp only [if_true]
      rw [show (0xC0 + n / 64 - 0xC0) * 64 + (0x80 + n % 64 - 0x80) = n by omega, hc]
    · split
      · rw [List.cons_append, scan_none_cons _ (by omega), lead, if_neg (by omega),
        if_neg (by omega), if_neg (by omega), if_pos (by omega)]
        dsimp only
        rw [List.cons_append,
          scan_some_cons _ (by omega) (by dsimp only; split <;> omega)
            (by dsimp only; split <;> omega)]
        simp only [Nat.reduceEqDiff, if_false, List.singleton_append]
        rw [scan_some_cons _ (by omega) (by dsimp only; omega) (by dsimp only; omega)]
        simp only [Nat.add_one_sub_one, if_true]
        rw [show ((0xE0 + n / 4096 - 0xE0) * 64 + (0x80 + n / 64 % 64 - 0x80)) * 64 + (0x80 +
            n % 64 - 0x80) = n by omega, hc]
      · rw [List.cons_append, scan_none_cons _ (by omega), lead, if_neg (by omega),
        if_neg (by omega), if_neg (by omega), if_neg (by omega), if_pos (by omega)]
        dsimp only
        rw [List.cons_append,
          scan_some_cons _ (by omega) (by dsimp only; split <;> omega)
            (by dsimp only; split <;> omega)]
        simp only [Nat.reduceEqDiff, if_false, List.cons_append]
        rw [scan_some_cons _ (by omega) (by dsimp only; omega) (by dsimp only; omega)]
        simp only [Nat.add_one_sub_one, Nat.reduceEqDiff, if_false, List.nil_append]
        rw [scan_some_cons _ (by omega) (by dsimp only; omega) (by dsimp only; omega)]
        simp only [Nat.add_one_sub_one, if_true]
        rw [show (((0xF0 + n / 262144 - 0xF0) * 64 + (0x80 + n / 4096 % 64 - 0x80)) * 64 +
            (0x80 + n / 64 % 64 - 0x80)) * 64 + (0x80 + n % 64 - 0x80) = n by omega, hc]

/-- An encoded text reads back as its characters, whatever follows it. -/
theorem scan_flatMap_encodeChar (cs : List Char) (rest : Bytes) :
    scan none (cs.flatMap encodeChar ++ rest) = cs.map some ++ scan none rest := by
  induction cs with
  | nil => rfl
  | cons c cs ih => simp [List.append_assoc, scan_encodeChar, ih]

theorem scan_encode (s : String) : scan none (encode s) = s.toList.map some := by
  have h := scan_flatMap_encodeChar s.toList []
  rwa [List.append_nil, scan, List.append_nil] at h

theorem decodeLossy_encode (s : String) : decodeLossy (encode s) = s := by
  simp [decodeLossy, scan_encode, List.map_map, Function.comp_def]

theorem decode?_encode (s : String) : decode? (encode s) = some s.toList := by
  rw [decode?, scan_encode]
  induction s.toList with
  | nil => rfl
  | cons c cs ih => simp [ih]

end Text.Utf8

end ContentDepot
