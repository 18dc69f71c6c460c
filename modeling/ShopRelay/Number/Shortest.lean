import ShopRelay.Number.Binary
import ShopRelay.Text.Digits

/-!
The fewest decimal digits that read back as a given binary number, and of those the nearest ones.
For one digit, two digits and so on the two neighbours of the number on that decimal grid are
tested; the first grid that has one inside the interval of reals that round to the number wins.
-/

namespace ShopRelay.Number

/-- The value `digits * 10 ^ exponent`. -/
structure Scientific where
  digits : Nat
  exponent : Int
deriving DecidableEq, Repr

/-- The reals that round to a number: halfway to each neighbour, the ends included when its
significand is even. All three values are in units of `2 ^ exponent`. -/
structure Neighbourhood where
  low : Nat
  value : Nat
  high : Nat
  exponent : Int
  closed : Bool

/-- Below a power of two the neighbours lie twice as close. -/
def Format.neighbourhood (f : Format) (x : Binary) : Neighbourhood :=
  let m := x.significand
  let isLeast := m = Nat.pow 2 (f.precision - 1) ∧ x.exponent > f.minExponent
  let low := if isLeast then 4 * m - 1 else 4 * m - 2
  ⟨low, 4 * m, 4 * m + 2, x.exponent - 2, m % 2 = 0⟩

/-- Whether `digits * 10 ^ exponent` lies in the neighbourhood. -/
def Neighbourhood.contains (n : Neighbourhood) (s : Scientific) : Bool :=
  let r := (Ratio.timesPowerOfTen ⟨s.digits, 1⟩ s.exponent).timesPowerOfTwo (-n.exponent)
  if n.closed then
    n.low * r.denominator ≤ r.numerator && r.numerator ≤ n.high * r.denominator
  else
    n.low * r.denominator < r.numerator && r.numerator < n.high * r.denominator

/-- Drops zeros at the end of the digits. -/
def Scientific.strip : Nat → Scientific → Scientific
  | 0, s => s
  | fuel + 1, s =>
    if s.digits ≠ 0 ∧ s.digits % 10 = 0 then strip fuel ⟨s.digits / 10, s.exponent + 1⟩ else s

/-- The nearest neighbour on the grid of `10 ^ exponent` that reads back, if one does. -/
def Neighbourhood.onGrid? (n : Neighbourhood) (exponent : Int) : Option Scientific :=
  let r := (Ratio.timesPowerOfTwo ⟨n.value, 1⟩ n.exponent).timesPowerOfTen (-exponent)
  let below := r.numerator / r.denominator
  let nearest := r.round
  let other := if nearest = below then below + 1 else below
  if n.contains ⟨nearest, exponent⟩ then some ⟨nearest, exponent⟩
  else if n.contains ⟨other, exponent⟩ then some ⟨other, exponent⟩
  else none

/-- The exponent of the first decimal digit of a positive ratio. -/
def Ratio.decimalExponent (r : Ratio) : Int :=
  if r.denominator ≤ r.numerator then
    (Text.digits (r.numerator / r.denominator)).length - 1
  else
    -((Text.digits ((r.denominator - 1) / r.numerator)).length : Int)

/-- The shortest digits of a number that is not zero; 17 digits always read back. -/
def Format.shortest (f : Format) (x : Binary) : Scientific :=
  let n := f.neighbourhood x
  let first := x.magnitude.decimalExponent
  let found := (List.range 17).findSome? fun (k : Nat) => n.onGrid? (first - k)
  (found.getD ⟨0, 0⟩).strip 20

/-- The digits with the point at its place and zeros filled in on either side. -/
def Scientific.positional (s : Scientific) (whole : Bool) : List Char :=
  let ds := Text.digits s.digits
  match s.exponent with
  | .ofNat n => ds ++ List.replicate n '0' ++ (if whole then ".0".toList else [])
  | .negSucc n =>
    let places := n + 1
    let ds := List.replicate (places + 1 - ds.length) '0' ++ ds
    ds.take (ds.length - places) ++ '.' :: ds.drop (ds.length - places)

end ShopRelay.Number
