import ContentDepot.Decimal.Binary64

/-!
# Shortest decimal text

A finite number is written with the fewest decimal digits that read back as
the same number, and with the nearest of these to it. The digits are written in
positional form while the decimal point lies within sixteen places, and with
an exponent of at least two digits otherwise.

* `digits`: the digits and the exponent of ten.
* `render`: the text.
-/

namespace ContentDepot.Binary64

/-- How many decimal digits a natural has; zero has none. -/
def countDigits (n : Nat) : Nat := if n = 0 then 0 else (Nat.toDigits 10 n).length

/-- The integer part of the decimal logarithm of a positive quotient. -/
def floorLog10 (num den : Nat) : Int :=
  if den ≤ num then (countDigits (num / den) : Int) - 1
  else -(countDigits ((den + num - 1) / num - 1) : Int)

/-- Where a number is rounded to it, from `low` to `high`, in quarters of its
last binary place; the ends belong to it where `closed` holds. -/
structure Basin where
  low : Nat
  middle : Nat
  high : Nat
  closed : Bool

/-- The quotients that round to a positive number. Below a power of two the
neighbour is half as far. -/
def basin (significand shift : Nat) : Basin :=
  let below := if significand = Nat.pow 2 52 && shift != 0 then 1 else 2
  ⟨4 * significand - below, 4 * significand, 4 * significand + 2, significand % 2 == 0⟩

/-- Whether `k / unit` lies in the basin, all counted over the same denominator. -/
def Basin.has (b : Basin) (scale k unit : Nat) : Bool :=
  if b.closed then b.low * scale ≤ k * unit && k * unit ≤ b.high * scale
  else b.low * scale < k * unit && k * unit < b.high * scale

/-- The candidate with the fewest digits on the decimal grids from `count` digits
upward, as digits and exponent. `num / den` is the number in quarters of its last
binary place times `scale`. -/
def search (b : Basin) (quarterNum quarterDen : Nat) (top : Int) : (fuel count : Nat) → Nat × Int
  | 0, _ => (0, 0)
  | fuel + 1, count =>
    let exponent := top - count + 1
    let up := if 0 ≤ exponent then Nat.pow 10 exponent.toNat else 1
    let down := if 0 ≤ exponent then 1 else Nat.pow 10 (-exponent).toNat
    -- one quarter is `quarterNum / quarterDen`; a grid step is `up / down`
    let scale := quarterNum * down
    let unit := quarterDen * up
    let k := b.middle * scale / unit
    let lowHit := b.has scale k unit
    let highHit := b.has scale (k + 1) unit
    let above := b.middle * scale - k * unit
    let below := (k + 1) * unit - b.middle * scale
    if lowHit && highHit then
      if above < below || (above == below && k % 2 == 0) then (k, exponent) else (k + 1, exponent)
    else if lowHit then (k, exponent)
    else if highHit then (k + 1, exponent)
    else search b quarterNum quarterDen top fuel (count + 1)

/-- The shortest digits of a positive number, with their exponent of ten. -/
def digits (significand shift : Nat) : Nat × Int :=
  -- a quarter of the last place is `2 ^ shift / 2 ^ 1076`
  let quarterNum := Nat.pow 2 shift
  let quarterDen := Nat.pow 2 (unitExponent + 2)
  let top := floorLog10 (4 * significand * quarterNum) quarterDen
  search (basin significand shift) quarterNum quarterDen top 17 1

/-- Digits and the exponent of the first of them as text. -/
def layout (ds : List Char) (exponent : Int) : List Char :=
  if -4 ≤ exponent && exponent < 16 then
    if exponent < 0 then
      '0' :: '.' :: List.replicate (-exponent - 1).toNat '0' ++ ds
    else
      let whole := exponent.toNat + 1
      let padded := ds ++ List.replicate (whole - ds.length) '0'
      let fraction := padded.drop whole
      padded.take whole ++ '.' :: (if fraction.isEmpty then ['0'] else fraction)
  else
    let mantissa := match ds with
      | [] => []
      | [d] => [d]
      | d :: rest => d :: '.' :: rest
    let size := Nat.toDigits 10 exponent.natAbs
    let size := if size.length < 2 then '0' :: size else size
    mantissa ++ 'e' :: (if exponent < 0 then '-' else '+') :: size

/-- The digits without trailing zeros. -/
def dropZeros (ds : List Char) : List Char := (ds.reverse.dropWhile (· == '0')).reverse

/-- The text of a number. -/
def render : Binary64 → String
  | .nan => "nan"
  | .infinite s => if s then "-inf" else "inf"
  | .finite s m e =>
    let sign := if s then ['-'] else []
    if m = 0 then String.ofList (sign ++ ['0', '.', '0'])
    else
      let (k, exponent) := digits m e
      let ds := Nat.toDigits 10 k
      String.ofList (sign ++ layout (dropZeros ds) (exponent + ds.length - 1))

end ContentDepot.Binary64
