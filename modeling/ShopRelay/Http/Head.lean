import ShopRelay.Text.Utf8

/-!
The head of a response: a line with the status and lines with headers up to an empty one. A line
ends in a line feed, with or without a carriage return before it.
-/

namespace ShopRelay.Http

open Text (Bytes)

inductive Version where
  | http10
  | http11
deriving DecidableEq, Repr

/-- The names in lower case, in the order in which they arrived. -/
abbrev Headers := List (String × Bytes)

structure Head where
  version : Version
  status : Nat
  headers : Headers
deriving DecidableEq

namespace Head

/-- The line up to a line feed, without a carriage return before it. -/
def line? : Bytes → Option (Bytes × Bytes)
  | [] => none
  | b :: rest =>
    if b == 10 then some ([], rest)
    else match b, rest with
      | 13, 10 :: after => some ([], after)
      | _, _ => (line? rest).map fun (l, after) => (b :: l, after)

def ascii (s : String) : Bytes := s.toList.map fun c => UInt8.ofNat c.toNat

def isDigit (b : UInt8) : Bool := 48 ≤ b && b ≤ 57

/-- The number written by some decimal digits. -/
def number (digits : Bytes) : Nat := digits.foldl (fun n b => n * 10 + (b.toNat - 48)) 0

def isTokenByte (b : UInt8) : Bool :=
  let c := Char.ofNat b.toNat
  b < 0x80 && (c.isAlphanum || "!#$%&'*+-.^_\x60|~".toList.contains c)

/-- A byte that may stand in the value of a header. -/
def isValueByte (b : UInt8) : Bool := b == 9 || (32 ≤ b && b != 127)

def isBlank (b : UInt8) : Bool := b == 9 || b == 32

def trim (bs : Bytes) : Bytes :=
  ((bs.dropWhile isBlank).reverse.dropWhile isBlank).reverse

def lower (bs : Bytes) : String := String.ofList (bs.map fun b => (Char.ofNat b.toNat).toLower)

def version? (mark : Bytes) : Option Version :=
  if mark == ascii "HTTP/1.0 " then some .http10
  else if mark == ascii "HTTP/1.1 " then some .http11
  else none

/-- The version and the status of a first line such as `HTTP/1.1 200 OK`. -/
def status? (line : Bytes) : Option (Version × Nat) := do
  let version ← version? (line.take 9)
  let code := (line.drop 9).take 3
  let after := line.drop 12
  guard (code.length == 3 && code.all isDigit && 100 ≤ number code)
  guard (after.isEmpty || after.headD 0 == 32)
  guard (after.all isValueByte)
  return (version, number code)

def header? (line : Bytes) : Option (String × Bytes) := do
  let name := line.takeWhile (· != 58)
  let value := line.drop name.length
  guard (!name.isEmpty && name.all isTokenByte && !value.isEmpty)
  let value := trim (value.drop 1)
  guard (value.all isValueByte)
  return (lower name, value)

/-- At most so many headers up to the empty line. -/
def headers? : Nat → Bytes → Option (Headers × Bytes)
  | 0, bs => do
    let (line, rest) ← line? bs
    guard line.isEmpty
    return ([], rest)
  | n + 1, bs => do
    let (line, rest) ← line? bs
    if line.isEmpty then return ([], rest)
    else
      let header ← header? line
      let (headers, rest) ← headers? n rest
      return (header :: headers, rest)

def maxHeaders : Nat := 100

/-- Empty lines before a head do not count. -/
def afterEmptyLines : Bytes → Bytes
  | 10 :: rest => afterEmptyLines rest
  | 13 :: 10 :: rest => afterEmptyLines rest
  | bs => bs

/-- The head at the front of some bytes, and what follows it. -/
def ofBytes? (bs : Bytes) : Option (Head × Bytes) := do
  let (line, rest) ← line? (afterEmptyLines bs)
  let (version, status) ← status? line
  let (headers, rest) ← headers? maxHeaders rest
  return (⟨version, status, headers⟩, rest)

/-- An answer under way, which the final one follows; a switch of protocols is final. -/
def isInterim (h : Head) : Bool := h.status < 200 && h.status != 101

/-- The final head; at most `fuel` heads are read. -/
def finalFrom? : Nat → Bytes → Option (Head × Bytes)
  | 0, _ => none
  | fuel + 1, bs => do
    let (head, rest) ← ofBytes? bs
    if head.isInterim then finalFrom? fuel rest else return (head, rest)

/-- Every head takes a byte at least. -/
def final? (bs : Bytes) : Option (Head × Bytes) := finalFrom? bs.length bs

def values (h : Head) (name : String) : List Bytes := (h.headers.filter (·.1 == name)).map (·.2)

end Head

end ShopRelay.Http
