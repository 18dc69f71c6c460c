import ShopRelay.Http.Domain
import ShopRelay.Text.Digits

/-!
Hosts of addresses on the web: domains and IP addresses. Reading one gives its usual spelling.
-/

namespace ShopRelay.Http.Host

/-- A part of an IPv4 address in decimal, octal or hexadecimal digits. -/
def number? (cs : List Char) : Option Nat :=
  match cs with
  | '0' :: 'x' :: ds => if ds.isEmpty then some 0 else Text.hexNumber? ds
  | '0' :: d :: ds =>
    if (d :: ds).all fun c => '0' ≤ c && c ≤ '7' then some (Nat.ofDigitChars 8 (d :: ds) 0)
    else none
  | _ => if !cs.isEmpty && cs.all Char.isDigit then some (Text.ofDigits cs) else none

/-- Whether the last part of a domain is a number, so that the whole must be an IPv4 address. -/
def endsInNumber (parts : List (List Char)) : Bool :=
  match parts.getLast? with
  | none => false
  | some last => !last.isEmpty && (last.all Char.isDigit || (number? last).isSome)

/-- The bytes of an IPv4 address; its last part fills all that the others leave. -/
def ipv4? (parts : List (List Char)) : Option (List Char) := do
  let numbers ← parts.mapM number?
  guard (!numbers.isEmpty && numbers.length ≤ 4)
  let rest := numbers.getLast?.getD 0
  let init := numbers.dropLast
  let room := Nat.pow 256 (4 - init.length)
  guard (init.all (· < 256) && rest < room)
  let value := init.foldl (fun n byte => n * 256 + byte) 0 * room + rest
  let byte (i : Nat) := Text.digits (value / Nat.pow 256 (3 - i) % 256)
  return byte 0 ++ '.' :: byte 1 ++ '.' :: byte 2 ++ '.' :: byte 3

/-- Sixteen bits of an IPv6 address. -/
def piece? (cs : List Char) : Option Nat := do
  guard (!cs.isEmpty && cs.length ≤ 4)
  Text.hexNumber? cs

/-- The two pieces that stand at the end of an IPv6 address in the form of an IPv4 address. -/
def dottedPieces? (cs : List Char) : Option (List Nat) := do
  let parts := Text.split '.' cs
  guard (parts.all fun p => !p.isEmpty && p.all Char.isDigit && (p.head? ≠ some '0' || p = ['0']))
  match parts.map Text.ofDigits with
  | [a, b, c, d] =>
    guard ([a, b, c, d].all (· < 256))
    return [a * 256 + b, c * 256 + d]
  | _ => none

def pieces? : List (List Char) → Option (List Nat)
  | [] => some []
  | [last] => if last.contains '.' then dottedPieces? last else (piece? last).map ([·])
  | p :: rest => do return (← piece? p) :: (← pieces? rest)

/-- The texts on either side of the first double colon. -/
def splitGap? : List Char → Option (List Char × List Char)
  | ':' :: ':' :: rest => some ([], rest)
  | c :: rest => (splitGap? rest).map fun (a, b) => (c :: a, b)
  | [] => none

/-- The eight pieces of an IPv6 address; a double colon stands for the zeros that are missing. -/
def ipv6Pieces? (cs : List Char) : Option (List Nat) :=
  match splitGap? cs with
  | none => do
    let pieces ← pieces? (Text.split ':' cs)
    guard (pieces.length = 8)
    return pieces
  | some (a, b) => do
    let front ← if a.isEmpty then some [] else (Text.split ':' a).mapM piece?
    let back ← if b.isEmpty then some [] else pieces? (Text.split ':' b)
    guard (front.length + back.length < 8)
    return front ++ List.replicate (8 - front.length - back.length) 0 ++ back

/-- The first of the longest runs of zeros, as its place and its length. -/
def longestZeros (pieces : List Nat) : Nat × Nat :=
  let runAt (i : Nat) : Nat := ((pieces.drop i).takeWhile (· == 0)).length
  (List.range pieces.length).foldl (fun best i => if best.2 < runAt i then (i, runAt i) else best)
    (0, 0)

def ipv6Text (pieces : List Nat) : List Char :=
  let joined (ps : List Nat) := List.intercalate [':'] (ps.map (Nat.toDigits 16))
  let (place, length) := longestZeros pieces
  if length < 2 then joined pieces
  else joined (pieces.take place) ++ ':' :: ':' :: joined (pieces.drop (place + length))

/-- An IPv6 address in brackets; the first one is gone. -/
def bracketed? (cs : List Char) : Option String := do
  guard (cs.getLast? = some ']')
  let pieces ← ipv6Pieces? cs.dropLast
  return String.ofList ('[' :: ipv6Text pieces ++ [']'])

/-- The host of an address in a scheme of the web. -/
def read? (cs : List Char) : Option String :=
  match cs with
  | '[' :: rest => bracketed? rest
  | _ => do
    let labels ← Domain.labels? cs
    let dotless := labels.getLast? = some [] && labels.length > 1
    let parts := if dotless then labels.dropLast else labels
    if endsInNumber parts then (ipv4? parts).map String.ofList
    else return String.ofList (List.intercalate ['.'] labels)

/-- A character that the host of no address may hold. -/
def isMark (c : Char) : Bool := c == '\x00' || " #/:<>?@[\\]^|".toList.contains c

/-- The host of any other address, which is a name of any form. -/
def readOpaque? (cs : List Char) : Option String :=
  match cs with
  | '[' :: rest => bracketed? rest
  | _ =>
    if cs.any isMark then none else some (String.ofList (escapeWhere Domain.isControl cs))

end ShopRelay.Http.Host
