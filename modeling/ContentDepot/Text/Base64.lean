import ContentDepot.Text.Utf8

/-!
# Base 64

The standard alphabet with padding, as credentials are sent.
-/

namespace ContentDepot.Text.Base64

/-- The digit of a number below 64. -/
def digit (n : Nat) : Char :=
  Char.ofNat (if n < 26 then 65 + n else if n < 52 then 71 + n else if n < 62 then n - 4
    else if n = 62 then 43 else 47)

/-- Four digits for three bytes; a shorter end is padded with `=`. -/
def encodeBytes : Bytes → List Char
  | a :: b :: c :: rest =>
    let n := a.toNat * 65536 + b.toNat * 256 + c.toNat
    digit (n / 262144) :: digit (n / 4096 % 64) :: digit (n / 64 % 64) :: digit (n % 64)
      :: encodeBytes rest
  | [a, b] =>
    let n := a.toNat * 65536 + b.toNat * 256
    [digit (n / 262144), digit (n / 4096 % 64), digit (n / 64 % 64), '=']
  | [a] =>
    let n := a.toNat * 65536
    [digit (n / 262144), digit (n / 4096 % 64), '=', '=']
  | [] => []

/-- The base 64 form of a byte sequence. -/
def encode (bs : Bytes) : String := String.ofList (encodeBytes bs)

end ContentDepot.Text.Base64
