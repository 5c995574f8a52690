import ContentDepot.Text.Composition
import ContentDepot.Text.Direction
import ContentDepot.Text.LabelRanges
import ContentDepot.Text.Punycode

/-!
# Labels of domain names

A domain name is a sequence of labels between dots. If it has a character above
ASCII, each label has to be well formed: in the canonical form, without a hyphen
at an end or in the third and fourth place, not begun by a mark, of characters
that may stand where they stand, of directions that go together, and short
enough when it is sent.

* `isWellFormed`: the rule for a label.
* `isDomain`: the rule for a name.
-/

namespace ContentDepot.Text.DomainLabel

/-- Marks that suppress a vowel, after which a joiner may stand. -/
def viramaClass : Nat := 9

/-- Letters that join with the letter before and with the one after. -/
def dualJoining : CodeSet :=
  [(0x620, 0x620), (0x626, 0x626), (0x628, 0x628), (0x62a, 0x62e), (0x633, 0x63f), (0x641, 0x647),
   (0x649, 0x64a), (0x66e, 0x66f), (0x678, 0x687), (0x69a, 0x6bf), (0x6c1, 0x6c2), (0x6cc, 0x6cc),
   (0x6ce, 0x6ce), (0x6d0, 0x6d1), (0x6fa, 0x6fc), (0x6ff, 0x6ff)]

/-- Letters that join with the letter before alone. -/
def rightJoining : CodeSet :=
  [(0x622, 0x625), (0x627, 0x627), (0x629, 0x629), (0x62f, 0x632), (0x648, 0x648), (0x671, 0x673),
   (0x675, 0x677), (0x688, 0x699), (0x6c0, 0x6c0), (0x6c3, 0x6cb), (0x6cd, 0x6cd), (0x6cf, 0x6cf),
   (0x6d2, 0x6d3), (0x6d5, 0x6d5), (0x6ee, 0x6ef)]

/-- The characters of the Greek script. -/
def greek : CodeSet :=
  [(0x370, 0x373), (0x375, 0x377), (0x37a, 0x37d), (0x37f, 0x37f), (0x384, 0x384), (0x386, 0x386),
   (0x388, 0x38a), (0x38c, 0x38c), (0x38e, 0x3a1), (0x3a3, 0x3e1), (0x3f0, 0x3ff),
   (0x1d26, 0x1d2a), (0x1d5d, 0x1d61), (0x1d66, 0x1d6a), (0x1dbf, 0x1dbf), (0x1f00, 0x1f15),
   (0x1f18, 0x1f1d), (0x1f20, 0x1f45), (0x1f48, 0x1f4d), (0x1f50, 0x1f57), (0x1f59, 0x1f59),
   (0x1f5b, 0x1f5b), (0x1f5d, 0x1f5d), (0x1f5f, 0x1f7d), (0x1f80, 0x1fb4), (0x1fb6, 0x1fc4),
   (0x1fc6, 0x1fd3), (0x1fd6, 0x1fdb), (0x1fdd, 0x1fef), (0x1ff2, 0x1ff4), (0x1ff6, 0x1ffe),
   (0x2126, 0x2126), (0xab65, 0xab65), (0x10140, 0x1018e), (0x101a0, 0x101a0),
   (0x1d200, 0x1d245)]

/-- The characters of the Hebrew script. -/
def hebrew : CodeSet := [(0x591, 0x5c7), (0x5d0, 0x5ea), (0x5ef, 0x5f4), (0xfb1d, 0xfb4f)]

/-- The characters of the scripts of Japanese, apart from the dot between words. -/
def japanese : CodeSet :=
  [(0x2e80, 0x2e99), (0x2e9b, 0x2ef3), (0x2f00, 0x2fd5), (0x3005, 0x3005), (0x3007, 0x3007),
   (0x3021, 0x3029), (0x3038, 0x303b), (0x3041, 0x3096), (0x309d, 0x309f), (0x30a1, 0x30fa),
   (0x30fd, 0x30ff), (0x31f0, 0x31ff), (0x32d0, 0x32fe), (0x3300, 0x3357), (0x3400, 0x4dbf),
   (0x4e00, 0x9fff), (0xf900, 0xfa6d), (0xfa70, 0xfad9), (0xff66, 0xff6f), (0xff71, 0xff9d),
   (0x16fe2, 0x16fe3), (0x16ff0, 0x16ff1), (0x1aff0, 0x1affe), (0x1b000, 0x1b122),
   (0x1b150, 0x1b152), (0x1b164, 0x1b167), (0x1f200, 0x1f200), (0x20000, 0x323af)]

/-- The Arabic digits and the extended ones; no label holds both. -/
def arabicDigits : CodeSet := [(0x660, 0x669)]

/-- The extended Arabic digits. -/
def extendedArabicDigits : CodeSet := [(0x6f0, 0x6f9)]

/-- Whether letters join across a place, given what stands before it, last one first, and
what comes after it; marks do not count. -/
def joins (before after : List Nat) : Bool :=
  let letter := fun ns => (ns.dropWhile nonspacingMarks.has).head?
  match letter before, letter after with
  | some a, some b => dualJoining.has a && (dualJoining.has b || rightJoining.has b)
  | _, _ => false

/-- Whether a character may stand between others, given what stands before it, last one
first, and what comes after it. -/
def admits (before : List Nat) (n : Nat) (after : List Nat) : Bool :=
  let hasBefore := fun test => (before.head?.map test).getD false
  let hasAfter := fun test => (after.head?.map test).getD false
  if n == 0x200d then hasBefore fun m => classOf m == viramaClass
  else if n == 0x200c then
    hasBefore (fun m => classOf m == viramaClass) || joins before after
  else if n == 0xb7 then hasBefore (· == 0x6c) && hasAfter (· == 0x6c)
  else if n == 0x375 then hasAfter greek.has
  else if n == 0x5f3 || n == 0x5f4 then hasBefore hebrew.has
  else if n == 0x30fb then (before ++ after).any japanese.has
  else if arabicDigits.has n then !(before ++ after).any extendedArabicDigits.has
  else if extendedArabicDigits.has n then !(before ++ after).any arabicDigits.has
  else labelRanges.has n

/-- Whether every character may stand where it stands. -/
def admitsAll (before : List Nat) : List Nat → Bool
  | [] => true
  | n :: after => admits before n after && admitsAll (n :: before) after

/-- Whether hyphens stand at an end or in the third and fourth place. -/
def hasMisplacedHyphen (ns : List Nat) : Bool :=
  let hyphen := 0x2d
  ns.head? == some hyphen || ns.getLast? == some hyphen || (ns.drop 2).take 2 == [hyphen, hyphen]

/-- Whether the code points make a label. -/
def areLabel (ns : List Nat) : Bool :=
  !ns.isEmpty && isCanonical ns && !hasMisplacedHyphen ns && !(ns.head?.map isMark).getD false &&
    admitsAll [] ns && isDirected (ns.map directionOf)

/-- The greatest length of a label as it is sent. -/
def maxLength : Nat := 63

/-- The mark of a label that is sent in letters and digits. -/
def encodedMark : List Char := ['x', 'n', '-', '-']

/-- A label as it is sent, if it is well formed. -/
def sent? (label : List Char) : Option (List Char) :=
  let result := if label.all (·.toNat < 0x80) then
      if encodedMark.isPrefixOf label then
        let body := label.drop encodedMark.length
        if body.isEmpty || body.getLast? == some '-' then none
        else match Punycode.decode? body with
          | some cs => if areLabel (cs.map Char.toNat) then some label else none
          | none => none
      else if areLabel (label.map Char.toNat) then some label else none
    else if areLabel (label.map Char.toNat) then some (encodedMark ++ Punycode.encode label)
    else none
  match result with
  | some cs => if cs.length ≤ maxLength then some cs else none
  | none => none

/-- Whether a label is well formed. -/
def isWellFormed (label : List Char) : Bool := (sent? label).isSome

/-- The dots that separate labels, one for each way of writing. -/
def isDot (c : Char) : Bool :=
  c == '.' || c == '\u3002' || c == '\uff0e' || c == '\uff61'

/-- The greatest length of a name as it is sent, a dot at its end apart. -/
def maxNameLength : Nat := 253

/-- Whether a text in small letters with a character above ASCII is a domain name. A dot may
stand at its end. -/
def isDomain (name : List Char) : Bool :=
  let labels := name.splitOnP isDot
  let labels := if labels.getLast? == some [] then labels.dropLast else labels
  match labels.mapM sent? with
  | none => false
  | some [] => false
  | some sent => (sent.flatMap (· ++ ['.'])).length ≤ maxNameLength + 1

end ContentDepot.Text.DomainLabel
