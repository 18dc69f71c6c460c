import ShopRelay.Time.Timestamp
import ShopRelay.Text.Blank

/-!
Reading timestamps. Parts may have one digit, blanks may stand before each part and each mark, and
the offset from universal time is required.
-/

namespace ShopRelay.Time

namespace Reader

def skipBlanks : List Char → List Char := List.dropWhile Text.isBlank

/-- The number in at most `width` leading digits, and the rest. -/
def number? (width : Nat) (cs : List Char) : Option (Nat × List Char) :=
  match (cs.take width).takeWhile Char.isDigit with
  | [] => none
  | ds => some (Text.ofDigits ds, cs.drop ds.length)

def part? (cs : List Char) : Option (Nat × List Char) := number? 2 (skipBlanks cs)

/-- Up to four digits, or a sign and any number of them. -/
def year? (cs : List Char) : Option (Int × List Char) :=
  match skipBlanks cs with
  | '-' :: rest => do
    let (n, rest) ← number? rest.length rest
    return (-n, rest)
  | '+' :: rest => do
    let (n, rest) ← number? rest.length rest
    return (n, rest)
  | cs => do
    let (n, rest) ← number? 4 cs
    return (n, rest)

def mark? (mark : Char) (cs : List Char) : Option (List Char) :=
  match skipBlanks cs with
  | c :: rest => if c == mark then some rest else none
  | [] => none

/-- `T` in either case, or a blank. -/
def separator? : List Char → Option (List Char)
  | c :: rest => if c == 'T' || c == 't' || Text.isBlank c then some rest else none
  | [] => none

/-- The first nine digits after a point; further ones are dropped. -/
def fraction? : List Char → Option (Nat × List Char)
  | '.' :: rest => do
    let ds := rest.takeWhile Char.isDigit
    guard !ds.isEmpty
    let kept := ds.take 9
    return (Text.ofDigits kept * Nat.pow 10 (9 - kept.length), rest.dropWhile Char.isDigit)
  | cs => some (0, cs)

def twoDigits? : List Char → Option (Nat × List Char)
  | a :: b :: rest =>
    if a.isDigit && b.isDigit then some (Text.digitValue a * 10 + Text.digitValue b, rest) else none
  | _ => none

/-- The seconds by which an offset is ahead of universal time. -/
def offset? (cs : List Char) : Option (Int × List Char) :=
  let signed (sign : Int) (rest : List Char) : Option (Int × List Char) := do
    let (hours, rest) ← twoDigits? rest
    let (minutes, rest) ← twoDigits? (rest.dropWhile fun c => c == ':' || Text.isBlank c)
    guard (hours < 24 ∧ minutes < 60)
    return (sign * (hours * 3600 + minutes * 60 : Nat), rest)
  match cs with
  | '+' :: rest => signed 1 rest
  | '-' :: rest => signed (-1) rest
  | '\u2212' :: rest => signed (-1) rest
  | 'Z' :: rest => some (0, rest)
  | 'z' :: rest => some (0, rest)
  | u :: t :: c :: rest =>
    if (u == 'U' || u == 'u') && (t == 'T' || t == 't') && (c == 'C' || c == 'c') then
      some (0, rest)
    else none
  | _ => none

end Reader

open Reader in
def Timestamp.readChars? (cs : List Char) : Option Timestamp := do
  let (year, cs) ← year? cs
  let (month, cs) ← part? (← mark? '-' cs)
  let (day, cs) ← part? (← mark? '-' cs)
  let (hour, cs) ← part? (← separator? cs)
  let (minute, cs) ← part? (← mark? ':' cs)
  let (second, cs) ← part? (← mark? ':' cs)
  let (nanos, cs) ← fraction? cs
  let (ahead, cs) ← offset? (skipBlanks cs)
  guard (skipBlanks cs).isEmpty
  Clock.toTimestamp? ⟨⟨year, month, day⟩, hour, minute, second, nanos⟩ ahead

def Timestamp.read? (s : String) : Option Timestamp := Timestamp.readChars? s.toList

end ShopRelay.Time
