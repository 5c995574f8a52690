import ContentDepot.Text.Hex

/-!
# Percent encoding

A segment keeps its unreserved characters (ASCII letters and digits and
`_ . - ~`) and writes every other byte of its UTF-8 form as `%XX`. Reading is
lenient: a percent sign that starts no escape stands for itself.

* `segment`: a text as one path segment.
* `unescape`: the bytes that an escaped ASCII text stands for.
* `decode`: the text of those bytes, defects replaced.
-/

namespace ContentDepot.Text.Percent

/-- Whether the character needs no escape anywhere. -/
def isUnreserved (c : Char) : Bool :=
  c.isAlphanum || c == '_' || c == '.' || c == '-' || c == '~'

/-- The escape of a byte. -/
def escapeByte (b : UInt8) : List Char :=
  ['%', Hex.upperDigit (b.toNat / 16), Hex.upperDigit (b.toNat % 16)]

/-- The escape of a character: one for each byte of its UTF-8 form. -/
def escapeChar (c : Char) : List Char := (Utf8.encodeChar c).flatMap escapeByte

/-- The characters with all those escaped that are not kept. -/
def escapeUnless (keep : Char → Bool) (cs : List Char) : List Char :=
  cs.flatMap fun c => if keep c then [c] else escapeChar c

/-- A text as a single path segment. -/
def segment (s : String) : String := String.ofList (escapeUnless isUnreserved s.toList)

/-- The bytes that a text stands for, each escape replaced by its byte. -/
def unescape : List Char → Bytes
  | [] => []
  | '%' :: h :: l :: rest =>
    match Hex.value? h, Hex.value? l with
    | some high, some low => UInt8.ofNat (high * 16 + low) :: unescape rest
    | _, _ => Utf8.encodeChar '%' ++ unescape (h :: l :: rest)
  | c :: rest => Utf8.encodeChar c ++ unescape rest

/-- The text that an escaped text stands for. -/
def decode (s : String) : String := Utf8.decodeLossy (unescape s.toList)

end ContentDepot.Text.Percent
