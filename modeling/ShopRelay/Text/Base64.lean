import ShopRelay.Text.Utf8

/-!
Base64 with the standard alphabet. Reading asks for the padding and for zeros in the unused bits,
so every byte string has one written form.
-/

namespace ShopRelay.Text.Base64

def digit (n : Nat) : Char :=
  if n < 26 then Char.ofNat (65 + n)
  else if n < 52 then Char.ofNat (71 + n)
  else if n < 62 then Char.ofNat (n - 4)
  else if n == 62 then '+' else '/'

def value? (c : Char) : Option Nat :=
  if 'A' ≤ c ∧ c ≤ 'Z' then some (c.toNat - 65)
  else if 'a' ≤ c ∧ c ≤ 'z' then some (c.toNat - 71)
  else if '0' ≤ c ∧ c ≤ '9' then some (c.toNat + 4)
  else if c == '+' then some 62
  else if c == '/' then some 63
  else none

def encodeChars : Bytes → List Char
  | [] => []
  | [a] => [digit (a.toNat / 4), digit (a.toNat % 4 * 16), '=', '=']
  | [a, b] =>
    [digit (a.toNat / 4), digit (a.toNat % 4 * 16 + b.toNat / 16), digit (b.toNat % 16 * 4), '=']
  | a :: b :: c :: rest =>
    digit (a.toNat / 4) :: digit (a.toNat % 4 * 16 + b.toNat / 16) ::
      digit (b.toNat % 16 * 4 + c.toNat / 64) :: digit (c.toNat % 64) :: encodeChars rest

/-- The byte of two adjoining digits: the low bits of the first and the high bits of the second. -/
def join (high low : Nat) : UInt8 := UInt8.ofNat (high + low)

def decodeChars? : List Char → Option Bytes
  | [] => some []
  | [w, x, '=', '='] => do
    let w ← value? w
    let x ← value? x
    guard (x % 16 = 0)
    return [join (w * 4) (x / 16)]
  | [w, x, y, '='] => do
    let w ← value? w
    let x ← value? x
    let y ← value? y
    guard (y % 4 = 0)
    return [join (w * 4) (x / 16), join (x % 16 * 16) (y / 4)]
  | w :: x :: y :: z :: rest => do
    let w ← value? w
    let x ← value? x
    let y ← value? y
    let z ← value? z
    return join (w * 4) (x / 16) :: join (x % 16 * 16) (y / 4) :: join (y % 4 * 64) z ::
      (← decodeChars? rest)
  | _ => none

def encode (bs : Bytes) : String := String.ofList (encodeChars bs)

def decode? (s : String) : Option Bytes := decodeChars? s.toList

end ShopRelay.Text.Base64
