import ContentDepot.Text.CodeSet

/-!
# Blank characters

Two classes of blank characters are in use: the one of the Unicode property
White_Space (`isWhiteSpace`), which may surround a number, and the same with the
four information separators (`isBlank`), which may surround a content type.

* `trim`: a text without its leading and trailing blanks of a class.
-/

namespace ContentDepot.Text

/-- The code points of the Unicode property White_Space. -/
def whiteSpaceRanges : CodeSet :=
  [(0x09, 0x0d), (0x20, 0x20), (0x85, 0x85), (0xa0, 0xa0), (0x1680, 0x1680), (0x2000, 0x200a),
   (0x2028, 0x2029), (0x202f, 0x202f), (0x205f, 0x205f), (0x3000, 0x3000)]

/-- Whether the character has the Unicode property White_Space. -/
def isWhiteSpace (c : Char) : Bool := whiteSpaceRanges.has c.toNat

/-- White space and the four information separators. -/
def isBlank (c : Char) : Bool := isWhiteSpace c || (0x1c ≤ c.toNat && c.toNat ≤ 0x1f)

/-- The characters without the leading and trailing ones of a class. -/
def trim (blank : Char → Bool) (cs : List Char) : List Char :=
  ((cs.dropWhile blank).reverse.dropWhile blank).reverse

end ContentDepot.Text
