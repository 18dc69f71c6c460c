/-!
Binary floating-point numbers as exact values: a sign and a whole number of units of a power of
two. Every operation rounds once, to the nearest number of the format, a tie to the even one.
-/

namespace ShopRelay.Number

/-- A binary format: the bits of a significand and the least and greatest exponent of its unit. -/
structure Format where
  precision : Nat
  minExponent : Int
  maxExponent : Int
deriving DecidableEq

def Format.double : Format := ⟨53, -1074, 971⟩

def Format.single : Format := ⟨24, -149, 104⟩

/-- The finite number `± significand * 2 ^ exponent`. -/
structure Binary where
  negative : Bool
  significand : Nat
  exponent : Int
deriving DecidableEq, Repr, Inhabited

/-- `numerator / denominator` scaled by a power of two. -/
structure Ratio where
  numerator : Nat
  denominator : Nat

def Ratio.timesPowerOfTwo (r : Ratio) : Int → Ratio
  | .ofNat n => ⟨r.numerator * Nat.pow 2 n, r.denominator⟩
  | .negSucc n => ⟨r.numerator, r.denominator * Nat.pow 2 (n + 1)⟩

def Ratio.timesPowerOfTen (r : Ratio) : Int → Ratio
  | .ofNat n => ⟨r.numerator * Nat.pow 10 n, r.denominator⟩
  | .negSucc n => ⟨r.numerator, r.denominator * Nat.pow 10 (n + 1)⟩

/-- The nearest whole number, the even one of two. -/
def Ratio.round (r : Ratio) : Nat :=
  let q := r.numerator / r.denominator
  let twice := 2 * (r.numerator % r.denominator)
  if twice < r.denominator then q
  else if twice > r.denominator then q + 1
  else if q % 2 = 0 then q else q + 1

/-- The exponent of the unit in which a positive number has as many bits as the format holds. -/
def Format.unit (f : Format) (r : Ratio) : Int :=
  let guess := (Nat.log2 r.numerator : Int) - Nat.log2 r.denominator - f.precision
  let scaled := r.timesPowerOfTwo (-guess)
  let fits := scaled.numerator / scaled.denominator < Nat.pow 2 f.precision
  let exact := if fits then guess else guess + 1
  max exact f.minExponent

/-- The nearest number of the format to a ratio; none when it would exceed the greatest one. -/
def Format.round? (f : Format) (negative : Bool) (r : Ratio) : Option Binary :=
  if r.numerator = 0 then some ⟨negative, 0, f.minExponent⟩
  else
    let e := f.unit r
    let q := (r.timesPowerOfTwo (-e)).round
    let (q, e) := if q = Nat.pow 2 f.precision then (Nat.pow 2 (f.precision - 1), e + 1) else (q, e)
    if e ≤ f.maxExponent then some ⟨negative, q, e⟩ else none

def Binary.zero : Binary := ⟨false, 0, Format.double.minExponent⟩

def Binary.magnitude (x : Binary) : Ratio :=
  Ratio.timesPowerOfTwo ⟨x.significand, 1⟩ x.exponent

def Binary.isZero (x : Binary) : Bool := x.significand == 0

def Binary.neg (x : Binary) : Binary := { x with negative := !x.negative }

/-- The nearest number of the format to a whole number. -/
def Format.ofInt? (f : Format) (n : Int) : Option Binary :=
  f.round? (n < 0) ⟨n.natAbs, 1⟩

/-- The same number in another format. -/
def Format.convert? (f : Format) (x : Binary) : Option Binary :=
  f.round? x.negative x.magnitude

def Format.multiply? (f : Format) (x y : Binary) : Option Binary :=
  let a := x.magnitude
  let b := y.magnitude
  f.round? (x.negative != y.negative)
    ⟨a.numerator * b.numerator, a.denominator * b.denominator⟩

/-- The quotient by a divisor that is not zero. -/
def Format.divide? (f : Format) (x y : Binary) : Option Binary :=
  let a := x.magnitude
  let b := y.magnitude
  f.round? (x.negative != y.negative)
    ⟨a.numerator * b.denominator, a.denominator * b.numerator⟩

/-- A single-precision number, which may have grown past the greatest finite one. -/
inductive Single where
  | finite (x : Binary)
  | infinite (negative : Bool)
deriving DecidableEq, Repr

def Single.ofBinary (x : Binary) : Single :=
  match Format.single.convert? x with
  | some y => .finite y
  | none => .infinite x.negative

def Single.ofInt (n : Int) : Single :=
  match Format.single.ofInt? n with
  | some y => .finite y
  | none => .infinite (n < 0)

end ShopRelay.Number
