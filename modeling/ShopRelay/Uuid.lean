import ShopRelay.Text.Hex

/-!
Universally unique identifiers: 128 bits, written as hyphenated groups of hexadecimal digits.
-/

namespace ShopRelay

structure Uuid where
  bits : BitVec 128
deriving DecidableEq

namespace Uuid

def ofNat (n : Nat) : Uuid := ⟨BitVec.ofNat 128 n⟩

instance : Inhabited Uuid := ⟨ofNat 0⟩

/-- All 32 digits, most significant first. -/
def hexDigits (u : Uuid) : List Char :=
  (List.range 32).map fun i => Text.hexDigit (u.bits.toNat / Nat.pow 16 (31 - i) % 16)

def hyphenate (ds : List Char) : List Char :=
  ds.take 8 ++ '-' :: (ds.drop 8).take 4 ++ '-' :: (ds.drop 12).take 4 ++
    '-' :: (ds.drop 16).take 4 ++ '-' :: ds.drop 20

def text (u : Uuid) : String := String.ofList (hyphenate u.hexDigits)

def ofHex? (ds : List Char) : Option Uuid := do
  guard (ds.length = 32)
  return ofNat (← Text.hexNumber? ds)

/-- The digits of a hyphenated form. -/
def hyphenated? (cs : List Char) : Option Uuid := do
  let ds := cs.filter (· ≠ '-')
  guard (ds.length = 32 ∧ cs = hyphenate ds)
  ofHex? ds

def urn : List Char := "urn:uuid:".toList

/-- Takes the hyphenated form, in braces or after `urn:uuid:` too, or the bare digits. -/
def readChars? (cs : List Char) : Option Uuid :=
  match cs with
  | '\x7b' :: rest =>
    if rest.getLast? = some '\x7d' then hyphenated? rest.dropLast else none
  | _ =>
    if cs.length = 32 then ofHex? cs
    else if (cs.take urn.length).map Char.toLower = urn then hyphenated? (cs.drop urn.length)
    else hyphenated? cs

def read? (s : String) : Option Uuid := readChars? s.toList

end Uuid

end ShopRelay
