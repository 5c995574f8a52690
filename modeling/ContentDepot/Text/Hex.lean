import ContentDepot.Text.Utf8

/-!
# Hexadecimal digits

* `digit`, `upperDigit`: the digit of a number below sixteen.
* `value?`: the number of a digit in either case.
* `ofBytes`, `toBytes?`: two digits per byte, the high one first.
* `padded`: a number with at least so many digits.
-/

namespace ContentDepot.Text.Hex

/-- The hexadecimal digit of a number below sixteen, in lower case. -/
def digit (n : Nat) : Char := Char.ofNat (if n < 10 then 48 + n else 87 + n)

/-- The hexadecimal digit of a number below sixteen, in upper case. -/
def upperDigit (n : Nat) : Char := Char.ofNat (if n < 10 then 48 + n else 55 + n)

/-- The number that a hexadecimal digit stands for. -/
def value? (c : Char) : Option Nat :=
  if '0' ≤ c && c ≤ '9' then some (c.toNat - 48)
  else if 'a' ≤ c && c ≤ 'f' then some (c.toNat - 87)
  else if 'A' ≤ c && c ≤ 'F' then some (c.toNat - 55)
  else none

/-- Two digits for each byte. -/
def ofBytes (bs : Bytes) : String :=
  String.ofList (bs.flatMap fun b => [digit (b.toNat / 16), digit (b.toNat % 16)])

/-- The bytes that pairs of digits stand for. -/
def bytesOfDigits? : List Char → Option Bytes
  | [] => some []
  | h :: l :: rest => do
    let high ← value? h
    let low ← value? l
    return UInt8.ofNat (high * 16 + low) :: (← bytesOfDigits? rest)
  | [_] => none

/-- The bytes of a text of hexadecimal digits. -/
def toBytes? (s : String) : Option Bytes := bytesOfDigits? s.toList

/-- The lowest `width` hexadecimal digits of a number. -/
def padded : (width : Nat) → Nat → List Char
  | 0, _ => []
  | w + 1, n => padded w (n / 16) ++ [digit (n % 16)]

end ContentDepot.Text.Hex
