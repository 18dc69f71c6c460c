import ShopRelay.Json.Numeral
import ShopRelay.Text.Hex

/-!
Reading JSON text. Blanks are the space, the tab and the two line breaks; a text holds one value
and nothing after it.
-/

namespace ShopRelay.Json

/-- Containers nested deeper than this are unreadable. -/
def maxDepth : Nat := 127

namespace Reader

def skipBlanks : List Char → List Char :=
  List.dropWhile fun c => c == ' ' || c == '\n' || c == '\t' || c == '\r'

/-- The digits in front, and the rest. -/
def takeDigits (cs : List Char) : List Char × List Char := cs.span Char.isDigit

/-- One digit at least. -/
def takeDigits? (cs : List Char) : Option (List Char × List Char) :=
  match takeDigits cs with
  | ([], _) => none
  | split => some split

/-- Whether there is a minus sign, and what follows it. -/
def takeMinus : List Char → Bool × List Char
  | '-' :: rest => (true, rest)
  | cs => (false, cs)

/-- The digits before the point; a zero in front stands alone. -/
def takeWhole? : List Char → Option (List Char × List Char)
  | '0' :: rest => some (['0'], rest)
  | cs => takeDigits? cs

/-- The digits after the point, if there is a point. -/
def takeFraction? : List Char → Option (List Char × List Char)
  | '.' :: rest => takeDigits? rest
  | cs => some ([], cs)

def startsExponent : List Char → Bool
  | c :: _ => c == 'e' || c == 'E'
  | [] => false

/-- Whether the sign of an exponent is a minus, and what follows it. -/
def takeSign : List Char → Bool × List Char
  | '-' :: rest => (true, rest)
  | '+' :: rest => (false, rest)
  | cs => (false, cs)

def numeral? (cs : List Char) : Option (Numeral × List Char) := do
  let (negative, cs) := takeMinus cs
  let (whole, cs) ← takeWhole? cs
  let (fraction, cs) ← takeFraction? cs
  if startsExponent cs then
    let (exponentNegative, cs) := takeSign (cs.drop 1)
    let (exponent, cs) ← takeDigits? cs
    return (⟨negative, whole, fraction, exponentNegative, exponent, false⟩, cs)
  else
    return (⟨negative, whole, fraction, false, [], fraction.isEmpty⟩, cs)

def simpleEscape? : Char → Option Nat
  | '"' => some 34
  | '\\' => some 92
  | '/' => some 47
  | 'b' => some 8
  | 'f' => some 12
  | 'n' => some 10
  | 'r' => some 13
  | 't' => some 9
  | _ => none

/-- The code points up to the closing quote; an escape may name half of a surrogate pair. -/
def codes? : List Char → Option (List Nat × List Char)
  | [] => none
  | '"' :: rest => some ([], rest)
  | '\\' :: 'u' :: a :: b :: c :: d :: rest => do
    let code ← Text.hexNumber? [a, b, c, d]
    let (codes, rest) ← codes? rest
    return (code :: codes, rest)
  | '\\' :: c :: rest => do
    let code ← simpleEscape? c
    let (codes, rest) ← codes? rest
    return (code :: codes, rest)
  | c :: rest => do
    guard (' ' ≤ c ∧ c ≠ '\\')
    let (codes, rest) ← codes? rest
    return (c.toNat :: codes, rest)

def isHigh (n : Nat) : Bool := 0xD800 ≤ n && n < 0xDC00

def isLow (n : Nat) : Bool := 0xDC00 ≤ n && n < 0xE000

/-- The characters of some code points, surrogate pairs joined; none when a half stands alone. -/
def joinPairs? : List Nat → Option (List Char)
  | [] => some []
  | [n] => if isHigh n || isLow n then none else some [Char.ofNat n]
  | n :: m :: rest =>
    if isHigh n then
      if isLow m then do
        return Char.ofNat (0x10000 + (n - 0xD800) * 0x400 + (m - 0xDC00)) :: (← joinPairs? rest)
      else none
    else if isLow n then none
    else do return Char.ofNat n :: (← joinPairs? (m :: rest))

/-- A string after its opening quote: its text, if it has one, and the rest. -/
def string? (cs : List Char) : Option (Option String × List Char) := do
  let (codes, rest) ← codes? cs
  return ((joinPairs? codes).map String.ofList, rest)

/-- A container at a depth; unreadable past the limit. -/
def atDepth (depth : Nat) (t : Tree) : Tree := if depth < maxDepth then t else .unreadable

mutual

/-- A value within `depth` containers, and the rest. -/
def value? : Nat → Nat → List Char → Option (Tree × List Char)
  | 0, _, _ => none
  | fuel + 1, depth, cs =>
    match skipBlanks cs with
    | 'n' :: 'u' :: 'l' :: 'l' :: rest => some (.null, rest)
    | 't' :: 'r' :: 'u' :: 'e' :: rest => some (.bool true, rest)
    | 'f' :: 'a' :: 'l' :: 's' :: 'e' :: rest => some (.bool false, rest)
    | '"' :: rest => do
      let (text, rest) ← string? rest
      return (match text with
        | some s => .str s
        | none => .unreadable, rest)
    | '[' :: rest =>
      match skipBlanks rest with
      | ']' :: rest => some (atDepth depth (.arr []), rest)
      | rest => do
        let (items, rest) ← items? fuel (depth + 1) rest
        return (atDepth depth (.arr items), rest)
    | '\x7b' :: rest =>
      match skipBlanks rest with
      | '\x7d' :: rest => some (atDepth depth (.obj []), rest)
      | rest => do
        let (members, rest) ← members? fuel (depth + 1) rest
        return (atDepth depth (match members with
          | some members => .obj members
          | none => .unreadable), rest)
    | cs => do
      let (n, rest) ← numeral? cs
      return (n.toTree, rest)

/-- The items of an array up to its end. -/
def items? : Nat → Nat → List Char → Option (List Tree × List Char)
  | 0, _, _ => none
  | fuel + 1, depth, cs => do
    let (item, rest) ← value? fuel depth cs
    match skipBlanks rest with
    | ',' :: rest =>
      let (items, rest) ← items? fuel depth rest
      return (item :: items, rest)
    | ']' :: rest => return ([item], rest)
    | _ => none

/-- The members of an object up to its end; no members when a key has no text. -/
def members? : Nat → Nat → List Char → Option (Option (List (String × Tree)) × List Char)
  | 0, _, _ => none
  | fuel + 1, depth, cs =>
    match skipBlanks cs with
    | '"' :: rest => do
      let (key, rest) ← string? rest
      match skipBlanks rest with
      | ':' :: rest =>
        let (member, rest) ← value? fuel depth rest
        match skipBlanks rest with
        | ',' :: rest =>
          let (members, rest) ← members? fuel depth rest
          return (do return (← key, member) :: (← members), rest)
        | '\x7d' :: rest => return (do return [(← key, member)], rest)
        | _ => none
      | _ => none
    | _ => none

end

end Reader

/-- Each container and each item uses up a character, so twice the length is fuel enough. -/
def Tree.parseChars? (cs : List Char) : Option Tree := do
  let (t, rest) ← Reader.value? (2 * cs.length + 2) 0 cs
  if (Reader.skipBlanks rest).isEmpty then some t else none

def Tree.parse? (s : String) : Option Tree := Tree.parseChars? s.toList

def Value.parse? (s : String) : Option Value := do (← Tree.parse? s).toValue?

end ShopRelay.Json
