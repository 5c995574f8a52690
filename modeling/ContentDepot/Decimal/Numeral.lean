import ContentDepot.Decimal.Binary64
import ContentDepot.Text.Blank
import ContentDepot.Text.Digit

/-!
# Numbers in text

Two ways of reading a number from a text.

* `Numeral.int?`, `Numeral.float?`: the wide form. White space around the number
  does not count, digits of every script are read, and a single underscore may
  stand between two digits.
* `Numeral.settingInt`, `Numeral.settingFloat?`: the form of settings and
  request parameters. White space around the number does not count and digits
  are ASCII. An integer may have leading zeros, with or without underscores among
  them, and a fraction of zeros.

An integer has at most `maxDigits` digits, leading zeros included.
-/

namespace ContentDepot.Numeral

open Text

/-- The greatest count of digits with which an integer is read or written. -/
def maxDigits : Nat := 4300

/-- Why a text is not read as a number. -/
inductive Fault where
  | malformed
  | oversized
  deriving DecidableEq, Repr, Inhabited

/-- The number that decimal digits stand for. -/
def natOfDigits (ds : List Nat) : Nat := ds.foldl (fun n d => 10 * n + d) 0

/-- The leading digits of a text, and what follows them. -/
def takeDigits : List Char → List Nat × List Char
  | [] => ([], [])
  | c :: rest =>
    match asciiDigit? c with
    | some d => let (ds, tail) := takeDigits rest; (d :: ds, tail)
    | none => ([], c :: rest)

/-- A sign, if there is one: whether it is a minus, and what follows. -/
def takeSign : List Char → Bool × List Char
  | '-' :: rest => (true, rest)
  | '+' :: rest => (false, rest)
  | cs => (false, cs)

/-- Digits and nothing else, at least one and at most `maxDigits`. -/
def digitsOnly? (cs : List Char) : Option Nat :=
  match takeDigits cs with
  | ([], _) => none
  | (ds, []) => if maxDigits < ds.length then none else some (natOfDigits ds)
  | _ => none

/-- An optional sign and digits. -/
def signedDigits? (cs : List Char) : Option Int :=
  let (negative, rest) := takeSign cs
  (digitsOnly? rest).map fun n => if negative then -(n : Int) else n

/-- An exponent: an optional sign and any number of digits. -/
def exponentDigits? (cs : List Char) : Option Int :=
  let (negative, rest) := takeSign cs
  match takeDigits rest with
  | ([], _) => none
  | (ds, []) => let n : Int := natOfDigits ds; some (if negative then -n else n)
  | _ => none

/-- The exponent part of a decimal: nothing, or `e` with an integer. -/
def exponent? : List Char → Option Int
  | [] => some 0
  | c :: rest => if c == 'e' || c == 'E' then exponentDigits? rest else none

/-- A decimal: digits with an optional point among or beside them, and an
optional exponent. -/
def decimal? (negative : Bool) (cs : List Char) : Option Binary64 := do
  let (whole, rest) := takeDigits cs
  let (fraction, rest) := match rest with
    | '.' :: after => takeDigits after
    | _ => ([], rest)
  if whole.isEmpty && fraction.isEmpty then none
  else
    let e ← exponent? rest
    return .ofDecimal negative (natOfDigits (whole ++ fraction)) (e - fraction.length)

/-- A decimal, infinity or the undefined number, with an optional sign. -/
def floatOfChars? (cs : List Char) : Option Binary64 :=
  let (negative, rest) := takeSign cs
  let word := String.ofList (rest.map Char.toLower)
  if word = "inf" || word = "infinity" then some (.infinite negative)
  else if word = "nan" then some .nan
  else decimal? negative rest

/-- The characters without their underscores, each of which has to stand between
two digits. The flag says whether a digit precedes. -/
def dropSeparators? (afterDigit : Bool) : List Char → Option (List Char)
  | [] => some []
  | '_' :: d :: rest =>
    if afterDigit && d.isDigit then (dropSeparators? true rest).map (d :: ·) else none
  | c :: rest => if c == '_' then none else (dropSeparators? c.isDigit rest).map (c :: ·)

/-- Digits of every script as ASCII digits. -/
def asciiDigits (cs : List Char) : List Char :=
  cs.map fun c => match digitValue? c with
    | some d => Char.ofNat (48 + d)
    | none => c

/-- The characters of a number in the wide form. -/
def wideChars? (s : String) : Option (List Char) :=
  dropSeparators? false (asciiDigits (trim isWhiteSpace s.toList))

/-- An integer in the wide form. -/
def int? (s : String) : Option Int := wideChars? s >>= signedDigits?

/-- A number in the wide form. -/
def float? (s : String) : Option Binary64 := wideChars? s >>= floatOfChars?

/-- The characters without underscores, of which none may stand at an end or
beside another. -/
def dropInnerUnderscores? (cs : List Char) : Option (List Char) :=
  let rec go (after : Bool) : List Char → Option (List Char)
    | [] => if after then none else some []
    | c :: rest =>
      if c == '_' then (if after then none else go true rest)
      else (go false rest).map (c :: ·)
  go true cs

/-- The characters before a fraction of zeros. -/
def dropZeroFraction (cs : List Char) : List Char :=
  match cs.dropWhile (· != '.') with
  | '.' :: '0' :: zeros => if zeros.all (· == '0') then cs.takeWhile (· != '.') else cs
  | _ => cs

/-- Whether the character begins an integer without superfluous zeros. -/
def beginsInteger (c : Char) : Bool := c == '-' || ('1' ≤ c && c ≤ '9')

/-- What remains after leading zeros and the underscores among them, `last` being
the character that precedes: that character stays before a point and at the end. -/
def afterLeadingZeros? (last : Char) : List Char → Option (List Char)
  | [] => some [last]
  | c :: rest =>
    if c == '0' || c == '_' then afterLeadingZeros? c rest
    else if beginsInteger c then some (c :: rest)
    else if c == '.' then some (last :: c :: rest)
    else none

/-- The characters without leading zeros; they have to begin as an integer does. -/
def dropLeadingZeros? : List Char → Option (List Char)
  | [] => none
  | c :: rest =>
    if c == '0' then afterLeadingZeros? c rest
    else if beginsInteger c then some (c :: rest)
    else none

/-- The characters after a plus sign, which no minus may follow. -/
def dropPlus? : List Char → Option (List Char)
  | '+' :: '-' :: _ => none
  | '+' :: rest => some rest
  | cs => some cs

/-- The characters of an integer in its plain form. -/
def plainForm? (cs : List Char) : Option (List Char) := do
  let cs ← dropPlus? cs
  let cs ← match cs with
    | '-' :: rest => (dropLeadingZeros? rest).map ('-' :: ·)
    | cs => dropLeadingZeros? cs
  dropInnerUnderscores? (dropZeroFraction cs)

/-- The integer of a plain form: a minus or none, then digits of which the first is no
superfluous zero. A minus counts as a digit for the length. -/
def plainInt (cs : List Char) : Except Fault Int :=
  let (negative, rest) := match cs with
    | '-' :: rest => (true, rest)
    | cs => (false, cs)
  match takeDigits rest with
  | ([], _) => .error .malformed
  | (0 :: _ :: _, _) => .error .malformed
  | (ds, tail) =>
    if maxDigits < ds.length + (if negative then 1 else 0) then .error .oversized
    else if !tail.isEmpty then .error .malformed
    else .ok (if negative then -(natOfDigits ds : Int) else natOfDigits ds)

/-- An integer as a setting or request parameter. -/
def settingInt (s : String) : Except Fault Int :=
  match plainForm? (trim isWhiteSpace s.toList) with
  | none => .error .malformed
  | some cs => plainInt cs

/-- A number as a setting: with white space around it, or with underscores in it. -/
def settingFloat? (s : String) : Option Binary64 :=
  floatOfChars? (trim isWhiteSpace s.toList) <|>
    (dropInnerUnderscores? s.toList >>= floatOfChars?)

end ContentDepot.Numeral
