import ShopRelay.Text.Digits
import ShopRelay.Number.Shortest

/-!
Decimal amounts: a whole number below 2^96 and the number of its digits that stand after the point.
The scale is part of the amount, so 12.50 and 12.5 are written differently.
-/

namespace ShopRelay.Number

/-- Two to the 96th. -/
def Decimal.limit : Nat := 79228162514264337593543950336

structure Decimal where
  negative : Bool
  mantissa : Nat
  scale : Nat
  mantissa_lt : mantissa < Decimal.limit := by decide
  scale_le : scale ≤ 28 := by decide
  zero_positive : mantissa = 0 → negative = false := by decide
deriving DecidableEq

namespace Decimal

def zero : Decimal := { negative := false, mantissa := 0, scale := 0 }

/-- The amount with the given parts; a zero loses its sign. -/
def ofParts? (negative : Bool) (mantissa scale : Nat) : Option Decimal :=
  if h : mantissa < limit ∧ scale ≤ 28 then
    some ⟨mantissa != 0 && negative, mantissa, scale, h.1, h.2, fun h0 => by simp [h0]⟩
  else none

/-- The whole part, a point and `scale` digits; no point at scale zero. -/
def chars (d : Decimal) : List Char :=
  let ds := Text.paddedDigits (d.scale + 1) d.mantissa
  let whole := ds.take (ds.length - d.scale)
  let places := ds.drop (ds.length - d.scale)
  (if d.negative then ['-'] else []) ++ whole ++ (if d.scale = 0 then [] else '.' :: places)

def text (d : Decimal) : String := String.ofList d.chars

/-- Rounds up by one when the first digit left out is five or more. A mantissa that grows too long
gives up a digit. -/
def roundUp? (mantissa scale digit : Nat) : Option (Nat × Nat) :=
  if digit < 5 then some (mantissa, scale)
  else if mantissa + 1 < limit then some (mantissa + 1, scale)
  else if scale = 0 then none
  else some ((mantissa + 5) / 10, scale - 1)

/-- What has been read of an amount: its digits, how many stand after the point, whether the point
has been read and whether any digit has. -/
structure Progress where
  mantissa : Nat
  scale : Nat
  point : Bool
  started : Bool

/-- Digits left out after rounding are still digits. -/
def droppable (cs : List Char) : Bool := cs.all fun c => c.isDigit || c == '_'

/-- Reads digits with at most one point, underscores after the first digit. Once the 28 places are
used up, or a place would make the mantissa too long, the next digit rounds. -/
def readDigits? (p : Progress) : List Char → Option (Nat × Nat)
  | [] => if p.started then some (p.mantissa, p.scale) else none
  | c :: rest =>
    let d := if c == '_' then 0 else Text.digitValue c
    if p.point && 28 ≤ p.scale then
      if droppable (c :: rest) then roundUp? p.mantissa p.scale d else none
    else if c.isDigit then
      if p.mantissa * 10 + d < limit then
        readDigits? ⟨p.mantissa * 10 + d, if p.point then p.scale + 1 else 0, p.point, true⟩ rest
      else if p.point && droppable rest then roundUp? p.mantissa p.scale d
      else none
    else if c == '.' && !p.point then readDigits? { p with point := true } rest
    else if c == '_' && p.started then readDigits? p rest
    else none

/-- Takes an optional sign off the front. -/
def splitSign : List Char → Bool × List Char
  | '-' :: rest => (true, rest)
  | '+' :: rest => (false, rest)
  | cs => (false, cs)

/-- Reads plain notation. -/
def readPlain? (cs : List Char) : Option Decimal := do
  let (negative, rest) := splitSign cs
  let (mantissa, scale) ← readDigits? ⟨0, 0, false, false⟩ rest
  ofParts? negative mantissa scale

/-- Divides by ten to the `n`, an exact half upwards. -/
def divideRounding (mantissa n : Nat) : Nat := (mantissa / Nat.pow 10 (n - 1) + 5) / 10

/-- Moves the point to the left; beyond 28 places the digits are rounded off. -/
def moveLeft? (d : Decimal) (n : Nat) : Option Decimal :=
  if 28 < n then none
  else if d.scale + n ≤ 28 then ofParts? d.negative d.mantissa (d.scale + n)
  else ofParts? d.negative (divideRounding d.mantissa (d.scale + n - 28)) 28

/-- Moves the point to the right. -/
def moveRight? (d : Decimal) (n : Nat) : Option Decimal :=
  if n ≤ d.scale then ofParts? d.negative d.mantissa (d.scale - n)
  else if 28 < n then none
  else ofParts? d.negative (d.mantissa * Nat.pow 10 (n - d.scale)) 0

/-- The exponent of scientific notation, below 2^32. -/
def readExponent? (cs : List Char) : Option Nat :=
  (Text.readNatural UInt32.size (String.ofList cs)).toOption

/-- Reads scientific notation: an amount, `e` or `E`, and an exponent. -/
def readScientific? (cs : List Char) : Option Decimal := do
  let isMark := fun c : Char => c == 'e' || c == 'E'
  let base ← readPlain? (cs.takeWhile (!isMark ·))
  match cs.dropWhile (!isMark ·) with
  | [] => none
  | _ :: '-' :: ds => moveLeft? base (← readExponent? ds)
  | _ :: ds => moveRight? base (← readExponent? ds)

def readChars? (cs : List Char) : Option Decimal := readPlain? cs <|> readScientific? cs

def read? (s : String) : Option Decimal := readChars? s.toList

def ofInt? (n : Int) : Option Decimal := ofParts? (n < 0) n.natAbs 0

/-- The amount whose digits are the shortest ones of a floating-point number. -/
def ofBinary? (x : Binary) : Option Decimal :=
  let cs := if x.isZero then ['0'] else (Format.double.shortest x).positional false
  readPlain? (if x.negative then '-' :: cs else cs)

end Decimal

end ShopRelay.Number
