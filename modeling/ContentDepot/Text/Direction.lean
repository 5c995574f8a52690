import ContentDepot.Text.Marks

/-!
# Writing directions

The direction in which the characters of a domain label are written, after
Unicode 14, and the rule for labels that hold characters written from right to
left.

* `directionOf`: the class of a code point.
* `isDirected`: the rule.
-/

namespace ContentDepot.Text

/-- The classes of direction that occur in labels. -/
inductive Direction where
  | leftToRight
  | rightToLeft
  | arabicLetter
  | europeanNumber
  | arabicNumber
  | separator
  | neutral
  | boundary
  | nonspacing
  deriving DecidableEq, Repr

/-- Letters written from right to left, other than Arabic ones. -/
def rightToLeftRanges : CodeSet :=
  [(0x5d0, 0x5ea), (0x5ef, 0x5f4), (0x7c0, 0x7ea), (0x7f4, 0x7f5), (0x800, 0x815), (0x81a, 0x81a),
   (0x824, 0x824), (0x828, 0x828), (0x840, 0x858), (0x10800, 0x10805), (0x10808, 0x10808),
   (0x1080a, 0x10835), (0x10837, 0x10838), (0x1083c, 0x1083c), (0x1083f, 0x10855),
   (0x10860, 0x10876), (0x10880, 0x1089e), (0x108e0, 0x108f2), (0x108f4, 0x108f5),
   (0x10900, 0x10915), (0x10920, 0x10939), (0x10980, 0x109b7), (0x109be, 0x109bf),
   (0x10a00, 0x10a00), (0x10a10, 0x10a13), (0x10a15, 0x10a17), (0x10a19, 0x10a35),
   (0x10a60, 0x10a7c), (0x10a80, 0x10a9c), (0x10ac0, 0x10ac7), (0x10ac9, 0x10ae4),
   (0x10b00, 0x10b35), (0x10b40, 0x10b55), (0x10b60, 0x10b72), (0x10b80, 0x10b91),
   (0x10c00, 0x10c48), (0x10cc0, 0x10cf2), (0x10e80, 0x10ea9), (0x10eb0, 0x10eb1),
   (0x10f00, 0x10f1c), (0x10f27, 0x10f27), (0x10f70, 0x10f81), (0x10fb0, 0x10fc4),
   (0x10fe0, 0x10ff6), (0x1e800, 0x1e8c4), (0x1e922, 0x1e943), (0x1e94b, 0x1e94b),
   (0x1e950, 0x1e959)]

/-- Letters of the Arabic kind. -/
def arabicLetterRanges : CodeSet :=
  [(0x620, 0x63f), (0x641, 0x64a), (0x66e, 0x66f), (0x671, 0x674), (0x679, 0x6d3), (0x6d5, 0x6d5),
   (0x6e5, 0x6e6), (0x6ee, 0x6ef), (0x6fa, 0x6ff), (0x710, 0x710), (0x712, 0x72f), (0x74d, 0x7a5),
   (0x7b1, 0x7b1), (0x860, 0x86a), (0x870, 0x887), (0x889, 0x88e), (0x8a0, 0x8c9), (0xfe73, 0xfe73),
   (0x10d00, 0x10d23), (0x10f30, 0x10f45)]

/-- Signs without a direction. -/
def neutralRanges : CodeSet :=
  [(0xb7, 0xb7), (0x2b9, 0x2ba), (0x2c6, 0x2cf), (0x2ec, 0x2ec), (0x375, 0x375), (0x2e2f, 0x2e2f),
   (0x30fb, 0x30fb), (0xa67f, 0xa67f), (0xa717, 0xa71f), (0xa788, 0xa788)]

/-- Nonspacing marks that are written from left to right like letters. -/
def directedMarks : List Nat := [0xcbf, 0xcc6, 0x11a07, 0x11a08, 0x11c3f]

/-- The direction of a code point of a label. -/
def directionOf (n : Nat) : Direction :=
  if n == 0x2d then .separator
  else if (0x30 ≤ n && n ≤ 0x39) || (0x6f0 ≤ n && n ≤ 0x6f9) then .europeanNumber
  else if (0x660 ≤ n && n ≤ 0x669) || (0x10d30 ≤ n && n ≤ 0x10d39) then .arabicNumber
  else if n == 0x200c || n == 0x200d then .boundary
  else if rightToLeftRanges.has n then .rightToLeft
  else if arabicLetterRanges.has n then .arabicLetter
  else if neutralRanges.has n then .neutral
  else if nonspacingMarks.has n && !directedMarks.contains n then .nonspacing
  else .leftToRight

/-- Whether a direction begins a label that is written from right to left. -/
def Direction.beginsRightToLeft : Direction → Bool
  | .rightToLeft | .arabicLetter => true
  | _ => false

/-- Whether a direction puts a label under the rule. -/
def Direction.demandsRule (d : Direction) : Bool := d.beginsRightToLeft || d == .arabicNumber

/-- Whether a label written from right to left may hold the direction. -/
def Direction.admittedRightToLeft : Direction → Bool
  | .leftToRight => false
  | _ => true

/-- Whether a label written from left to right may hold the direction. -/
def Direction.admittedLeftToRight (d : Direction) : Bool := !d.demandsRule

/-- Whether the last direction of a label, marks aside, may end it. -/
def Direction.mayEnd (rightToLeft : Bool) : Direction → Bool
  | .europeanNumber => true
  | .rightToLeft | .arabicLetter | .arabicNumber => rightToLeft
  | .leftToRight => !rightToLeft
  | _ => false

/-- Whether the last direction that is no mark's may end a label. -/
def endsWell (rightToLeft : Bool) (ds : List Direction) : Bool :=
  match (ds.filter (· != .nonspacing)).getLast? with
  | some d => d.mayEnd rightToLeft
  | none => false

/-- Whether the directions of a label go together. A label without characters written from
right to left is under no rule; another begins with a letter, keeps to what its first letter
admits, ends with a letter or a number, and does not mix numbers of two kinds. -/
def isDirected (ds : List Direction) : Bool :=
  if !ds.any Direction.demandsRule then true
  else match ds with
    | [] => true
    | first :: _ =>
      if first.beginsRightToLeft then
        ds.all Direction.admittedRightToLeft && endsWell true ds &&
          !(ds.contains .europeanNumber && ds.contains .arabicNumber)
      else
        first == .leftToRight && ds.all Direction.admittedLeftToRight && endsWell false ds

end ContentDepot.Text
