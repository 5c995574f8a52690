import ContentDepot.Decimal.Numeral
import ContentDepot.Json.Basic
import ContentDepot.Text.Hex

/-!
# Reading JSON

A text is read as a whole: one value with nothing but blanks around it. Of a
key that comes twice, the first place and the last value count. The names of
the infinities and of the undefined number are read; an exponent beyond the
range of binary64 gives an infinity. A text may go beyond the bounds of its
reader; of two defects the first counts.

* `Bounds`: what a reader admits.
* `read`: the value of a text within bounds.
* `parse?`: the value of a text, whatever its size.
-/

namespace ContentDepot.Json

/-- Why a text is not read as a value. -/
inductive Defect where
  | malformed
  /-- A number has too many digits. -/
  | oversized
  /-- Lists and objects lie too deep within one another. -/
  | tooDeep
  deriving DecidableEq, Repr, Inhabited

/-- What a reader admits. -/
structure Bounds where
  /-- How deep lists and objects that hold something may lie within one another. -/
  depth : Nat
  /-- The greatest count of digits of an integer. -/
  digits : Nat
  /-- Whether the bound holds for the whole part of every number, sign included. -/
  countsAll : Bool
  deriving Repr, DecidableEq

namespace Bounds

/-- The bounds for a text that is checked against a record. -/
def forRecords : Bounds := ⟨200, Numeral.maxDigits, true⟩

/-- The bounds for the bodies of requests and responses. -/
def forBodies : Bounds := ⟨960, Numeral.maxDigits, false⟩

/-- Bounds that no text of a length exceeds. -/
def forLength (n : Nat) : Bounds := ⟨n, n, false⟩

/-- Whether a number is within the bounds, given its sign, the count of digits of its whole
part and whether it is an integer. -/
def admits (b : Bounds) (negative : Bool) (digits : Nat) (integral : Bool) : Bool :=
  if b.countsAll then digits + (if negative then 1 else 0) ≤ b.digits
  else !integral || digits ≤ b.digits

end Bounds

/-- A reading that fails in one way. -/
def orMalformed {α : Type} : Option α → Except Defect α
  | some a => .ok a
  | none => .error .malformed

/-- Whether the character may stand between tokens. -/
def isGap (c : Char) : Bool := c == ' ' || c == '\n' || c == '\r' || c == '\t'

/-- The text from the next token on. -/
def skipGaps (cs : List Char) : List Char := cs.dropWhile isGap

/-- The rest of a text after a word that it begins with. -/
def afterWord? : List Char → List Char → Option (List Char)
  | [], cs => some cs
  | w :: word, c :: cs => if w == c then afterWord? word cs else none
  | _ :: _, [] => none

/-- Four hexadecimal digits. -/
def hexQuad? : List Char → Option (Nat × List Char)
  | a :: b :: c :: d :: rest => do
    let a ← Text.Hex.value? a
    let b ← Text.Hex.value? b
    let c ← Text.Hex.value? c
    let d ← Text.Hex.value? d
    return (a * 4096 + b * 256 + c * 16 + d, rest)
  | _ => none

/-- The character of a numbered escape, whose letter `u` is past; a high surrogate
is joined with the low one that follows it. -/
def unicodeEscape? (cs : List Char) : Option (Char × List Char) := do
  let (n, rest) ← hexQuad? cs
  if 0xD800 ≤ n && n ≤ 0xDBFF then
    match rest with
    | '\\' :: 'u' :: rest =>
      let (m, rest) ← hexQuad? rest
      if 0xDC00 ≤ m && m ≤ 0xDFFF then
        return (Char.ofNat (0x10000 + (n - 0xD800) * 1024 + (m - 0xDC00)), rest)
      else none
    | _ => none
  else if 0xDC00 ≤ n && n ≤ 0xDFFF then none
  else return (Char.ofNat n, rest)

/-- The character that an escape of one letter stands for. -/
def letterEscape? (c : Char) : Option Char :=
  if c == '"' || c == '\\' || c == '/' then some c
  else if c == 'n' then some '\n'
  else if c == 'r' then some '\r'
  else if c == 't' then some '\t'
  else if c == 'b' then some '\x08'
  else if c == 'f' then some '\x0c'
  else none

/-- The characters of a string up to its closing mark, and the rest after the mark. -/
def readChars? : (fuel : Nat) → List Char → Option (List Char × List Char)
  | 0, _ => none
  | fuel + 1, cs => match cs with
    | [] => none
    | '"' :: rest => some ([], rest)
    | '\\' :: 'u' :: rest => do
      let (c, rest) ← unicodeEscape? rest
      let (s, rest) ← readChars? fuel rest
      return (c :: s, rest)
    | '\\' :: e :: rest => do
      let c ← letterEscape? e
      let (s, rest) ← readChars? fuel rest
      return (c :: s, rest)
    | c :: rest =>
      if c == '\\' || c.toNat < 0x20 then none
      else do
        let (s, rest) ← readChars? fuel rest
        return (c :: s, rest)

/-- The digits of a fraction, if a point with a digit follows. -/
def readFraction (cs : List Char) : List Nat × List Char :=
  match cs with
  | '.' :: rest =>
    match Numeral.takeDigits rest with
    | ([], _) => ([], cs)
    | found => found
  | _ => ([], cs)

/-- The exponent of ten, if a mark with a digit follows. -/
def readExponent (cs : List Char) : Option Int × List Char :=
  match cs with
  | c :: rest =>
    if c == 'e' || c == 'E' then
      let (negative, rest) := Numeral.takeSign rest
      match Numeral.takeDigits rest with
      | ([], _) => (none, cs)
      | (ds, rest) =>
        let n : Int := Numeral.natOfDigits ds
        (some (if negative then -n else n), rest)
    else (none, cs)
  | [] => (none, cs)

/-- A number without its sign: an integer unless a fraction or an exponent follows. -/
def readNumber (b : Bounds) (negative : Bool) (cs : List Char) :
    Except Defect (Json × List Char) :=
  match Numeral.takeDigits cs with
  | ([], _) => .error .malformed
  | (0 :: _ :: _, _) => .error .malformed
  | (ds, rest) =>
    let (fraction, rest) := readFraction rest
    let (exponent, rest) := readExponent rest
    let integral := fraction.isEmpty && exponent.isNone
    if !b.admits negative ds.length integral then .error .oversized
    else if integral then
      let n : Int := Numeral.natOfDigits ds
      .ok (.int (if negative then -n else n), rest)
    else
      let x := Binary64.ofDecimal negative (Numeral.natOfDigits (ds ++ fraction))
        (exponent.getD 0 - fraction.length)
      .ok (.float x, rest)

/-- A word that stands for a value. -/
def readWord (word : String) (v : Json) (cs : List Char) : Except Defect (Json × List Char) :=
  orMalformed ((afterWord? word.toList cs).map (v, ·))

/-- A value that holds no other. -/
def readScalar (b : Bounds) (cs : List Char) : Except Defect (Json × List Char) :=
  match cs with
  | 'n' :: _ => readWord "null" .null cs
  | 't' :: _ => readWord "true" (.bool true) cs
  | 'f' :: _ => readWord "false" (.bool false) cs
  | 'N' :: _ => readWord "NaN" (.float .nan) cs
  | 'I' :: _ => readWord "Infinity" (.float (.infinite false)) cs
  | '-' :: 'I' :: _ => readWord "-Infinity" (.float (.infinite true)) cs
  | '-' :: rest => readNumber b true rest
  | _ => readNumber b false cs

mutual

/-- The value at the beginning of a text, and the rest after it. -/
def readValue (b : Bounds) :
    (fuel depth : Nat) → List Char → Except Defect (Json × List Char)
  | 0, _, _ => .error .malformed
  | fuel + 1, depth, cs => match cs with
    | '"' :: rest => do
      let (s, rest) ← orMalformed (readChars? fuel rest)
      return (.str (String.ofList s), rest)
    | '[' :: rest => match skipGaps rest with
      | ']' :: rest => .ok (.arr [], rest)
      | rest => match depth with
        | 0 => .error .tooDeep
        | depth + 1 => do
          let (items, rest) ← readItems b fuel depth rest
          return (.arr items, rest)
    | '\x7b' :: rest => match skipGaps rest with
      | '\x7d' :: rest => .ok (.obj [], rest)
      | rest => match depth with
        | 0 => .error .tooDeep
        | depth + 1 => do
          let (members, rest) ← readMembers b fuel depth rest
          return (.obj (Entries.ofList members), rest)
    | cs => readScalar b cs

/-- The items of a list up to its closing bracket. -/
def readItems (b : Bounds) :
    (fuel depth : Nat) → List Char → Except Defect (List Json × List Char)
  | 0, _, _ => .error .malformed
  | fuel + 1, depth, cs => do
    let (v, rest) ← readValue b fuel depth (skipGaps cs)
    match skipGaps rest with
    | ',' :: rest =>
      let (vs, rest) ← readItems b fuel depth rest
      return (v :: vs, rest)
    | ']' :: rest => return ([v], rest)
    | _ => .error .malformed

/-- The members of an object up to its closing brace. -/
def readMembers (b : Bounds) :
    (fuel depth : Nat) → List Char → Except Defect (List (String × Json) × List Char)
  | 0, _, _ => .error .malformed
  | fuel + 1, depth, cs => match skipGaps cs with
    | '"' :: rest => do
      let (key, rest) ← orMalformed (readChars? fuel rest)
      match skipGaps rest with
      | ':' :: rest =>
        let (v, rest) ← readValue b fuel depth (skipGaps rest)
        match skipGaps rest with
        | ',' :: rest =>
          let (ms, rest) ← readMembers b fuel depth rest
          return ((String.ofList key, v) :: ms, rest)
        | '\x7d' :: rest => return ([(String.ofList key, v)], rest)
        | _ => .error .malformed
      | _ => .error .malformed
    | _ => .error .malformed

end

/-- The value of a text within bounds. -/
def read (b : Bounds) (cs : List Char) : Except Defect Json := do
  let (v, rest) ← readValue b (2 * cs.length + 2) b.depth (skipGaps cs)
  if (skipGaps rest).isEmpty then return v else .error .malformed

/-- The value of a text. -/
def parse? (cs : List Char) : Option Json := (read (.forLength cs.length) cs).toOption

end ContentDepot.Json
