import ShopRelay.Http.Head
import ShopRelay.Text.Hex

/-!
Bodies in chunks. A chunk is a line with its size in hexadecimal digits, its content and a line
break; the chunk of size zero is the last one, and lines of a trailer may follow it. Here every line
ends in a carriage return and a line feed.
-/

namespace ShopRelay.Http.Chunks

open Text (Bytes)

/-- The extensions of all chunks together are shorter, and so is the trailer. -/
def maxExtra : Nat := 16384

def isHexDigit (b : UInt8) : Bool := (Text.hexValue? (Char.ofNat b.toNat)).isSome

/-- What follows a line break. -/
def afterBreak? : Bytes → Option Bytes
  | 13 :: 10 :: rest => some rest
  | _ => none

/-- The size on the line at the front, the length of the extension behind it, and what follows. -/
def sizeLine? (bs : Bytes) : Option (Nat × Nat × Bytes) := do
  let (digits, rest) := bs.span isHexDigit
  let size ← Text.hexNumber? (digits.map fun b => Char.ofNat b.toNat)
  guard (!digits.isEmpty && size < UInt64.size)
  match rest.dropWhile Head.isBlank with
  | 59 :: rest =>
    let (extension, rest) := rest.span (· != 13)
    guard (!extension.contains 10)
    return (size, extension.length, ← afterBreak? rest)
  | rest => return (size, 0, ← afterBreak? rest)

/-- The lines up to an empty one. -/
def lines? : Nat → Bytes → Option (List Bytes)
  | 0, _ => none
  | fuel + 1, bs => do
    let (line, rest) := bs.span (· != 13)
    let rest ← afterBreak? rest
    if line.isEmpty then return [] else return line :: (← lines? fuel rest)

/-- Whether the trailer is complete; its lines are fewer headers than a head may have. -/
def endsWell (bs : Bytes) : Bool :=
  (lines? bs.length bs).any fun lines =>
    let text := lines.flatMap (· ++ [13, 10]) ++ [13, 10]
    lines.isEmpty || (lines.length < Head.maxHeaders && text.length < maxExtra
      && (Head.headers? lines.length text).isSome)

/-- The content of the chunks at the front, after extensions of some length. -/
def contentFrom? : Nat → Nat → Bytes → Option Bytes
  | 0, _, _ => none
  | fuel + 1, extra, bs => do
    let (size, extension, rest) ← sizeLine? bs
    let extra := extra + extension
    guard (extra < maxExtra)
    if size = 0 then
      guard (endsWell rest)
      return []
    else
      guard (size ≤ rest.length)
      let after ← afterBreak? (rest.drop size)
      return rest.take size ++ (← contentFrom? fuel extra after)

/-- The content of a body in chunks, unless it breaks off or is not well formed. -/
def content? (bs : Bytes) : Option Bytes := contentFrom? bs.length 0 bs

end ShopRelay.Http.Chunks
