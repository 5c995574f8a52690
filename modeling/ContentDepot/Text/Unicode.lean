import ContentDepot.Text.Utf8

/-!
# Texts in one of the Unicode encodings

The encoding of a text that comes as bytes is known by its byte order mark, and
without one by where the zero bytes of its first four bytes lie.

* `decodeDetected?`: the characters, unless the bytes have a defect.
-/

namespace ContentDepot.Text.Unicode

/-- The encodings that are told apart. -/
inductive Encoding where
  | utf8
  | utf16 (bigEndian : Bool)
  | utf32 (bigEndian : Bool)
  deriving DecidableEq, Repr

/-- The encoding of a byte sequence, and the bytes after the byte order mark. -/
def detect (bs : Bytes) : Encoding × Bytes :=
  match bs with
  | 0x00 :: 0x00 :: 0xFE :: 0xFF :: rest => (.utf32 true, rest)
  | 0xFF :: 0xFE :: 0x00 :: 0x00 :: rest => (.utf32 false, rest)
  | 0xFE :: 0xFF :: rest => (.utf16 true, rest)
  | 0xFF :: 0xFE :: rest => (.utf16 false, rest)
  | 0xEF :: 0xBB :: 0xBF :: rest => (.utf8, rest)
  | [0x00, _] => (.utf16 true, bs)
  | [_, 0x00] => (.utf16 false, bs)
  | a :: b :: c :: d :: _ =>
    if a = 0 then (if b = 0 then .utf32 true else .utf16 true, bs)
    else if b = 0 then (if c = 0 && d = 0 then .utf32 false else .utf16 false, bs)
    else (.utf8, bs)
  | _ => (.utf8, bs)

/-- Code units of two bytes. -/
def units16? (bigEndian : Bool) : Bytes → Option (List Nat)
  | [] => some []
  | a :: b :: rest =>
    let unit := if bigEndian then a.toNat * 256 + b.toNat else b.toNat * 256 + a.toNat
    (units16? bigEndian rest).map (unit :: ·)
  | [_] => none

/-- Code units of four bytes. -/
def units32? (bigEndian : Bool) : Bytes → Option (List Nat)
  | [] => some []
  | a :: b :: c :: d :: rest =>
    let high := if bigEndian then a.toNat * 256 + b.toNat else d.toNat * 256 + c.toNat
    let low := if bigEndian then c.toNat * 256 + d.toNat else b.toNat * 256 + a.toNat
    (units32? bigEndian rest).map ((high * 65536 + low) :: ·)
  | _ => none

/-- The character with a code point. -/
def char? (n : Nat) : Option Char := if n.isValidChar then some (Char.ofNat n) else none

/-- The characters of 16-bit units; a pair of surrogates is one character. -/
def pairs? : List Nat → Option (List Char)
  | [] => some []
  | h :: l :: rest =>
    if 0xD800 ≤ h && h ≤ 0xDBFF then
      if 0xDC00 ≤ l && l ≤ 0xDFFF then
        (pairs? rest).map (Char.ofNat (0x10000 + (h - 0xD800) * 1024 + (l - 0xDC00)) :: ·)
      else none
    else match char? h, pairs? (l :: rest) with
      | some c, some cs => some (c :: cs)
      | _, _ => none
  | [u] => (char? u).map ([·])

/-- The characters of a byte sequence in its encoding. -/
def decodeDetected? (bs : Bytes) : Option (List Char) :=
  match detect bs with
  | (.utf8, rest) => Utf8.decode? rest
  | (.utf16 bigEndian, rest) => units16? bigEndian rest >>= pairs?
  | (.utf32 bigEndian, rest) => units32? bigEndian rest >>= (·.mapM char?)

end ContentDepot.Text.Unicode
