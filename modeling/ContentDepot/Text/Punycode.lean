/-!
# Letters and digits for any characters

A label of a domain name with characters above ASCII is sent as one of ASCII
characters: first those that it has, then, for the others, where they stand, as
numbers of variable length in letters and digits.

* `encode`: the ASCII characters for a label.
* `decode?`: the label for ASCII characters.
-/

namespace ContentDepot.Text.Punycode

/-- The character for a digit below 36: letters first. -/
def digitChar (d : Nat) : Char := Char.ofNat (if d < 26 then 97 + d else 22 + d)

/-- The digit that a small letter or a decimal digit stands for. -/
def digitOf? (c : Char) : Option Nat :=
  if 'a' ≤ c && c ≤ 'z' then some (c.toNat - 97)
  else if '0' ≤ c && c ≤ '9' then some (c.toNat - 22)
  else none

/-- The least digit that is followed by another, at a place `k` counted in steps of 36. -/
def threshold (k bias : Nat) : Nat := min 26 (max 1 (k - bias))

/-- Divides by 35 until the number is at most 455, counting places. -/
def settle : (fuel delta k : Nat) → Nat × Nat
  | 0, delta, k => (delta, k)
  | fuel + 1, delta, k => if 455 < delta then settle fuel (delta / 35) (k + 36) else (delta, k)

/-- The bias after a number: it follows the size of the numbers so far. -/
def adapt (delta count : Nat) (first : Bool) : Nat :=
  let delta := if first then delta / 700 else delta / 2
  let delta := delta + delta / count
  let (delta, k) := settle delta delta 0
  k + 36 * delta / (delta + 38)

/-- A number of variable length. -/
def encodeNumber : (fuel bias k n : Nat) → List Char
  | 0, _, _, _ => []
  | fuel + 1, bias, k, n =>
    let t := threshold k bias
    if n < t then [digitChar n]
    else
      digitChar (t + (n - t) % (36 - t)) :: encodeNumber fuel bias (k + 36) ((n - t) / (36 - t))

/-- A number of variable length at the front, `weight` being the weight of its next digit. -/
def decodeNumber? (bias : Nat) : (k weight n : Nat) → List Char → Option (Nat × List Char)
  | _, _, _, [] => none
  | k, weight, n, c :: rest => do
    let d ← digitOf? c
    let t := threshold k bias
    let n := n + d * weight
    if d < t then return (n, rest) else decodeNumber? bias (k + 36) (weight * (36 - t)) n rest

/-- How far a label is encoded. -/
structure Progress where
  written : List Char
  delta : Nat
  bias : Nat
  count : Nat

/-- Passes one character of the label while those with the code point `m` are written. -/
def pass (basic m : Nat) (p : Progress) (c : Char) : Progress :=
  if c.toNat < m then { p with delta := p.delta + 1 }
  else if c.toNat = m then
    { written := p.written ++ encodeNumber (p.delta + 1) p.bias 36 p.delta
      delta := 0
      bias := adapt p.delta (p.count + 1) (p.count == basic)
      count := p.count + 1 }
  else p

/-- Writes the characters with the given code points, `n` being the least code point that is
not written yet. -/
def encodeFrom (label : List Char) (basic : Nat) : List Nat → Nat → Progress → Progress
  | [], _, p => p
  | m :: ms, n, p =>
    let p := { p with delta := p.delta + (m - n) * (p.count + 1) }
    let p := label.foldl (pass basic m) p
    encodeFrom label basic ms (m + 1) { p with delta := p.delta + 1 }

/-- The ASCII characters for a label. -/
def encode (label : List Char) : List Char :=
  let basic := label.filter fun c => c.toNat < 0x80
  let others := (label.filter fun c => 0x80 ≤ c.toNat).map Char.toNat
  let codes := (others.mergeSort (· ≤ ·)).eraseDups
  let p := encodeFrom label basic.length codes 0x80 ⟨[], 0, 72, basic.length⟩
  basic ++ (if basic.isEmpty then [] else ['-']) ++ p.written

/-- Puts characters into a label; `code` and `place` are those of the last one. -/
def decodeFrom? : (fuel code place bias : Nat) → (label : List Char) → (first : Bool) →
    List Char → Option (List Char)
  | _, _, _, _, label, _, [] => some label
  | 0, _, _, _, _, _, _ :: _ => none
  | fuel + 1, code, place, bias, label, first, cs => do
    let (delta, rest) ← decodeNumber? bias 36 1 0 cs
    let count := label.length + 1
    let code := code + (place + delta) / count
    let place := (place + delta) % count
    if !code.isValidChar then none
    else
      let label := label.take place ++ Char.ofNat code :: label.drop place
      decodeFrom? fuel code (place + 1) (adapt delta count first) label false rest

/-- The label for small ASCII characters. -/
def decode? (cs : List Char) : Option (List Char) :=
  let tail := (cs.reverse.takeWhile (· != '-')).reverse
  let basic := (cs.take (cs.length - tail.length)).dropLast
  decodeFrom? tail.length 0x80 0 72 basic true tail

end ContentDepot.Text.Punycode
