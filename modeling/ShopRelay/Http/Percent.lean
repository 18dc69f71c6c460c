import ShopRelay.Text.Hex

/-!
Percent escapes: a byte written as `%` and two hexadecimal digits.
-/

namespace ShopRelay.Http

open Text (Bytes)

def escapeByte (b : UInt8) : List Char :=
  let digit (n : Nat) : Char := (Text.hexDigit n).toUpper
  ['%', digit (b.toNat / 16), digit (b.toNat % 16)]

/-- Escapes the characters that satisfy a test, and all that are not ASCII. -/
def escapeWhere (test : Char → Bool) (cs : List Char) : List Char :=
  cs.flatMap fun c =>
    if test c || c.toNat ≥ 0x80 then (String.utf8EncodeChar c).flatMap escapeByte else [c]

/-- The byte whose escape stands at the front. -/
def escaped? : Bytes → Option UInt8
  | 0x25 :: a :: b :: _ => do
    let high ← Text.hexValue? (Char.ofNat a.toNat)
    let low ← Text.hexValue? (Char.ofNat b.toNat)
    return UInt8.ofNat (high * 16 + low)
  | _ => none

/-- Replaces each escape, from left to right; the first bytes are skipped. -/
def unescapeFrom : Nat → Bytes → Bytes
  | _, [] => []
  | skip + 1, _ :: rest => unescapeFrom skip rest
  | 0, b :: rest =>
    match escaped? (b :: rest) with
    | some x => x :: unescapeFrom 2 rest
    | none => b :: unescapeFrom 0 rest

/-- The bytes that some escaped bytes stand for; a `%` without two digits stands for itself. -/
def unescape (bs : Bytes) : Bytes := unescapeFrom 0 bs

end ShopRelay.Http
