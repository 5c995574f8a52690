/-!
# Binary64 numbers

The numbers of the 64-bit binary format, exactly. A finite number is measured
in units of `2 ^ -1074`, the least of them: it is a significand below `2 ^ 53`
times a power of two of these units.

* `round`: the number nearest to a quotient of naturals, ties to even.
* `units`: a finite number as an integer count of units; the order and equality
  of numbers are those of the counts.
* `ceil?`: the least integer that is not below a number.
-/

namespace ContentDepot

/-- A number of the 64-bit binary format. The finite number has the value
`± significand * 2 ^ shift` units. -/
inductive Binary64 where
  | finite (negative : Bool) (significand shift : Nat)
  | infinite (negative : Bool)
  | nan
  deriving DecidableEq, Repr, Inhabited

namespace Binary64

/-- A unit is `2 ^ -1074`. -/
def unitExponent : Nat := 1074

/-- Significands lie below this bound. -/
def significandBound : Nat := Nat.pow 2 53

/-- The greatest shift of a finite number. -/
def maxShift : Nat := 2045

/-- How many units one is. -/
def unitsOfOne : Nat := Nat.pow 2 unitExponent

/-- The quotient rounded to the nearest integer, a half to the even neighbour. -/
def roundHalfEven (num den : Nat) : Nat :=
  let q := num / den
  let r := num % den
  if 2 * r < den then q
  else if den < 2 * r then q + 1
  else if q % 2 = 0 then q else q + 1

/-- The shift at which a quotient, counted in units, has a significand below the
bound before rounding. -/
def shiftOf (num den : Nat) : Nat := Nat.log2 (num / den) - 52

/-- The number of a rounded significand. One that has reached the bound is halved; a shift that is
then too great leaves no finite number. -/
def ofRounded (negative : Bool) (m shift : Nat) : Binary64 :=
  let (m, shift) := if m = significandBound then (m / 2, shift + 1) else (m, shift)
  if maxShift < shift then .infinite negative else .finite negative m shift

/-- The number nearest to `num / den`, ties to the even significand. -/
def round (negative : Bool) (num den : Nat) : Binary64 :=
  let scaled := num * unitsOfOne
  let shift := shiftOf scaled den
  ofRounded negative (roundHalfEven scaled (den * Nat.pow 2 shift)) shift

/-- The number nearest to an integer. -/
def ofInt (n : Int) : Binary64 := round (n < 0) n.natAbs 1

/-- The number nearest to `digits * 10 ^ exponent`. Exponents far outside the
range are settled by the count of digits. -/
def ofDecimal (negative : Bool) (digits : Nat) (exponent : Int) : Binary64 :=
  if digits = 0 then .finite negative 0 0
  else
    let top := (Nat.toDigits 10 digits).length + exponent
    if 400 < top then .infinite negative
    else if top < -400 then .finite negative 0 0
    else if 0 ≤ exponent then round negative (digits * Nat.pow 10 exponent.toNat) 1
    else round negative digits (Nat.pow 10 (-exponent).toNat)

/-- A finite number as a count of units. -/
def units (negative : Bool) (significand shift : Nat) : Int :=
  let n : Int := (significand * Nat.pow 2 shift : Nat)
  if negative then -n else n

/-- Whether a number is neither infinite nor undefined. -/
def isFinite : Binary64 → Bool
  | .finite .. => true
  | _ => false

/-- Whether a number is zero, of either sign. -/
def isZero : Binary64 → Bool
  | .finite _ m _ => m == 0
  | _ => false

/-- The place of a number in the order: below, at or above a count of units. -/
inductive Place where
  | bottom
  | at (units : Int)
  | top
  deriving DecidableEq, Repr

/-- The place of a number; the undefined number has none. -/
def place : Binary64 → Option Place
  | .finite s m e => some (.at (units s m e))
  | .infinite true => some .bottom
  | .infinite false => some .top
  | .nan => none

/-- The place of an integer. -/
def placeOfInt (n : Int) : Place := .at (n * unitsOfOne)

/-- The strict order of places. -/
def Place.lt : Place → Place → Bool
  | .bottom, .bottom => false
  | .bottom, _ => true
  | .at _, .bottom => false
  | .at a, .at b => a < b
  | .at _, .top => true
  | .top, _ => false

/-- Whether two numbers are equal: the zeros are, the undefined number is equal to none. -/
def same (x y : Binary64) : Bool :=
  match x.place, y.place with
  | some a, some b => a == b
  | _, _ => false

/-- Whether a number lies below another; the undefined number lies below none. -/
def less (x y : Binary64) : Bool :=
  match x.place, y.place with
  | some a, some b => a.lt b
  | _, _ => false

/-- The integer part of a finite number, toward zero. -/
def truncate? : Binary64 → Option Int
  | .finite s m e => some (Int.tdiv (units s m e) unitsOfOne)
  | _ => none

/-- The least integer that is not below a finite number. -/
def ceil? : Binary64 → Option Int
  | .finite s m e => some (-(Int.fdiv (-units s m e) unitsOfOne))
  | _ => none

/-- Whether a finite number is an integer. -/
def isIntegral : Binary64 → Bool
  | .finite _ m e => m * Nat.pow 2 e % unitsOfOne == 0
  | _ => false

end Binary64

end ContentDepot
