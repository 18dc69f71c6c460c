import ShopRelay.Json.Tree
import ShopRelay.Text.Digits

/-!
Numbers in JSON text. A whole number that fits 64 bits is exact. Any other number is evaluated from
the digits that fit an unsigned 64-bit number and one power of ten, with a rounding at each step.
-/

namespace ShopRelay.Json

open Number

/-- A number as it is written. -/
structure Numeral where
  negative : Bool
  whole : List Char
  fraction : List Char
  exponentNegative : Bool
  exponent : List Char
  /-- Neither a point nor an exponent. -/
  plain : Bool

namespace Numeral

/-- The leading digits that fit, and how far the digits are shifted to the left of the point. -/
structure Leading where
  significand : Nat
  shift : Int
  full : Bool

def Leading.takes (l : Leading) (c : Char) : Bool :=
  !l.full && l.significand * 10 + Text.digitValue c < UInt64.size

/-- A digit before the point counts even when it does not fit. -/
def Leading.addWhole (l : Leading) (c : Char) : Leading :=
  if l.takes c then { l with significand := l.significand * 10 + Text.digitValue c }
  else { l with shift := l.shift + 1, full := true }

/-- A digit after the point is dropped, with all that follow, when it does not fit. -/
def Leading.addFraction (l : Leading) (c : Char) : Leading :=
  if l.takes c then
    { l with significand := l.significand * 10 + Text.digitValue c, shift := l.shift - 1 }
  else { l with full := true }

def leading (n : Numeral) : Leading :=
  let whole := n.whole.foldl Leading.addWhole ⟨0, 0, false⟩
  n.fraction.foldl Leading.addFraction { whole with full := false }

/-- Exponents saturate here; no number that is not zero stays finite so far out. -/
def exponentLimit : Nat := 0x80000000

def powerOfTen? (n : Nat) : Option Binary := Format.double.round? false ⟨Nat.pow 10 n, 1⟩

/-- Divides by the greatest power of ten as long as the exponent lies below every power. -/
def scale? : Nat → Binary → Int → Option Binary
  | 0, x, _ => some x
  | fuel + 1, x, e =>
    if e.natAbs ≤ 308 then do
      let power ← powerOfTen? e.natAbs
      if 0 ≤ e then Format.double.multiply? x power else Format.double.divide? x power
    else if x.isZero then some x
    else if 0 ≤ e then none
    else do scale? fuel (← Format.double.divide? x (← powerOfTen? 308)) (e + 308)

def toFloat? (n : Numeral) : Option Binary := do
  let l := n.leading
  let e := Text.ofDigits n.exponent
  let x ← Format.double.ofInt? l.significand
  let magnitude ←
    if exponentLimit ≤ e then
      if l.significand ≠ 0 ∧ !n.exponentNegative then none else some Binary.zero
    else
      let e := if n.exponentNegative then l.shift - e else l.shift + e
      -- after three divisions by 10^308 any number that fits 64 bits is zero
      scale? 5 x e
  return if n.negative then magnitude.neg else magnitude

def toTree (n : Numeral) : Tree :=
  let value : Int := Text.ofDigits n.whole
  let value := if n.negative then -value else value
  let exact := n.plain && (if n.negative then value != 0 && Text.minInt64 ≤ value
    else value ≤ Text.maxUInt64)
  if exact then .int value
  else match n.toFloat? with
    | some x => .float x
    | none => .unreadable

end Numeral

end ShopRelay.Json
