/-!
Whole numbers in decimal digits. A reader takes an optional sign and ASCII digits, and names the
first thing that is wrong with a text that it refuses.
-/

namespace ShopRelay.Text

def digitValue (c : Char) : Nat := c.toNat - 48

/-- The digits of a number, most significant first, without leading zeros. -/
def digits (n : Nat) : List Char := Nat.toDigits 10 n

/-- The number written by some digits. -/
def ofDigits (cs : List Char) : Nat := Nat.ofDigitChars 10 cs 0

theorem ofDigits_digits (n : Nat) : ofDigits (digits n) = n :=
  Nat.ofDigitChars_toDigits (by decide) (by decide)

theorem isDigit_of_mem_digits {n : Nat} {c : Char} (h : c ∈ digits n) : c.isDigit = true :=
  Nat.isDigit_of_mem_toDigits (by decide) (by decide) h

/-- A number in at least `width` digits, zeros in front. -/
def paddedDigits (width n : Nat) : List Char :=
  let ds := digits n
  List.replicate (width - ds.length) '0' ++ ds

def intDigits (n : Int) : List Char :=
  if n < 0 then '-' :: digits n.natAbs else digits n.natAbs

/-- Why a text is not a number. -/
inductive NumberError where
  | empty
  | invalidDigit
  | tooLarge
deriving DecidableEq, Repr

def NumberError.message : NumberError → String
  | .empty => "cannot parse integer from empty string"
  | .invalidDigit => "invalid digit found in string"
  | .tooLarge => "number too large to fit in target type"

/-- Adds digits to a number from left to right, as long as it stays below the limit. -/
def addDigits (limit : Nat) : Nat → List Char → Except NumberError Nat
  | n, [] => .ok n
  | n, c :: rest =>
    if !c.isDigit then .error .invalidDigit
    else if n * 10 + digitValue c < limit then addDigits limit (n * 10 + digitValue c) rest
    else .error .tooLarge

/-- A number below `limit`: digits with an optional plus sign. -/
def readNatural (limit : Nat) (s : String) : Except NumberError Nat :=
  match s.toList with
  | [] => .error .empty
  | ['+'] => .error .invalidDigit
  | '+' :: rest => addDigits limit 0 rest
  | cs => addDigits limit 0 cs

def minInt64 : Int := -9223372036854775808

def maxInt64 : Int := 9223372036854775807

def maxUInt64 : Int := 18446744073709551615

def isInt64 (n : Int) : Bool := minInt64 ≤ n && n ≤ maxInt64

/-- A signed 64-bit number: digits with an optional sign. -/
def readInt64? (s : String) : Option Int :=
  let (sign, ds) : Int × List Char := match s.toList with
    | '-' :: rest => (-1, rest)
    | '+' :: rest => (1, rest)
    | cs => (1, cs)
  if ds.isEmpty || !ds.all Char.isDigit then none
  else
    let n := sign * (ofDigits ds : Int)
    if isInt64 n then some n else none

end ShopRelay.Text
