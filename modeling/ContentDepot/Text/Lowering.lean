import ContentDepot.Text.LoweringTable

/-!
# Lower case

Lowering of a text after the full rules of Unicode 14. Every capital letter
becomes its small letter; U+0130 becomes `i` with a dot above; and a capital
sigma becomes the final form where a word ends: a cased letter stands before
it and none stands after it, characters that case ignores passed over.

* `lower`: the text in lower case.
* `upperName`: the ASCII letters of a text in upper case, together with the two
  letters whose capital is an ASCII letter (dotless i and long s).
-/

namespace ContentDepot.Text

/-- Whether the character is passed over when case is decided. -/
def isCaseIgnorable (c : Char) : Bool := caseIgnorableRanges.has c.toNat

/-- Whether the character is a letter with case. -/
def isCased (c : Char) : Bool :=
  if c.toNat < 0x80 then c.isAlpha else casedRanges.has c.toNat

/-- The small letter of a character, for characters with one small letter. -/
def lowerChar (c : Char) : Char :=
  if c.toNat < 0x80 then c.toLower
  else match lowerRuns.find? (LowerRun.has · c.toNat) with
    | some r => Char.ofNat (c.toNat + r.shift).toNat
    | none => c

/-- Whether a cased letter follows, characters that case ignores passed over. -/
def casedFollows : List Char → Bool
  | [] => false
  | c :: rest => if isCaseIgnorable c then casedFollows rest else isCased c

/-- The lower case of a text that follows a cased letter or not. -/
def lowerFrom (afterCased : Bool) : List Char → List Char
  | [] => []
  | c :: rest =>
    let small :=
      if c == 'Σ' then [if afterCased && !casedFollows rest then 'ς' else 'σ']
      else if c == 'İ' then ['i', '\u0307']
      else [lowerChar c]
    small ++ lowerFrom (if isCaseIgnorable c then afterCased else isCased c) rest

/-- The text in lower case. -/
def lower (s : String) : String := String.ofList (lowerFrom false s.toList)

/-- The capital of a character, where it is an ASCII letter. -/
def upperChar (c : Char) : Char :=
  if c == 'ı' then 'I' else if c == 'ſ' then 'S' else c.toUpper

/-- A name in capitals; only ASCII capitals are formed. -/
def upperName (s : String) : String := String.ofList (s.toList.map upperChar)

end ContentDepot.Text
