import ShopRelay.Text.Utf8

/-!
Punycode: a label of a domain written in ASCII. Its ASCII characters come first; after a hyphen the
others follow, from the lowest code point up, each as the distance that a reader has to go over the
code points and the places of the label.
-/

namespace ShopRelay.Text.Punycode

def base : Nat := 36

/-- A digit below 36: the letters, then the decimal digits. -/
def digit (n : Nat) : Char :=
  if n < 26 then Char.ofNat (97 + n) else Char.ofNat (22 + n)

/-- The least value of the digit at a position that is not the last digit. -/
def threshold (bias position : Nat) : Nat :=
  if position ≤ bias then 1 else if position < bias + 26 then position - bias else 26

/-- The digits of a distance from a position on, the least significant first; at most `fuel`. -/
def distanceFrom (bias : Nat) : Nat → Nat → Nat → List Char
  | 0, _, _ => []
  | fuel + 1, position, n =>
    let t := threshold bias position
    if n < t then [digit n]
    else
      digit (t + (n - t) % (base - t)) ::
        distanceFrom bias fuel (position + base) ((n - t) / (base - t))

/-- Every digit but the last one makes a distance smaller. -/
def distance (bias n : Nat) : List Char := distanceFrom bias (n + 1) base n

def biasFrom : Nat → Nat → Nat → Nat
  | 0, position, _ => position
  | fuel + 1, position, n =>
    if 455 < n then biasFrom fuel (position + base) (n / 35)
    else position + base * n / (n + 38)

/-- The bias after a distance; `written` characters of the label are there by now. -/
def adapted (n written : Nat) (isFirst : Bool) : Nat :=
  let damped := if isFirst then n / 700 else n / 2
  let spread := damped + damped / written
  biasFrom (spread + 1) 0 spread

structure Progress where
  output : List Char
  /-- The distance from the last character written to the place now looked at. -/
  gap : Nat
  bias : Nat
  written : Nat

/-- Looks at one place of the label for the characters of one code point. -/
def look (ascii code : Nat) (p : Progress) (c : Char) : Progress :=
  if c.toNat < code then { p with gap := p.gap + 1 }
  else if c.toNat = code then
    { output := p.output ++ distance p.bias p.gap, gap := 0
      bias := adapted p.gap (p.written + 1) (p.written == ascii), written := p.written + 1 }
  else p

/-- Looks over the whole label once for each code point; `next` is the first one not passed. -/
def lookOver (label : List Char) (ascii : Nat) : Nat → List Nat → Progress → Progress
  | _, [], p => p
  | next, code :: codes, p =>
    let start := { p with gap := p.gap + (code - next) * (p.written + 1) }
    let after := label.foldl (look ascii code) start
    lookOver label ascii (code + 1) codes { after with gap := after.gap + 1 }

/-- A label with characters beyond ASCII, without the mark of such labels. -/
def encode (label : List Char) : List Char :=
  let ascii := label.filter isAscii
  let codes := ((label.filter (!isAscii ·)).map Char.toNat).mergeSort.eraseReps
  let start : Progress := ⟨[], 0, 72, ascii.length⟩
  let rest := (lookOver label ascii.length 0x80 codes start).output
  (if ascii.isEmpty then [] else ascii ++ ['-']) ++ rest

def digitValue? (c : Char) : Option Nat :=
  if 'a' ≤ c && c ≤ 'z' then some (c.toNat - 97)
  else if '0' ≤ c && c ≤ '9' then some (c.toNat - 22)
  else none

/-- Adds the distance at the front of some digits to a number of 32 bits. -/
def addDistance? (bias : Nat) : Nat → Nat → Nat → List Char → Option (Nat × List Char)
  | _, _, _, [] => none
  | position, weight, n, c :: rest => do
    let d ← digitValue? c
    let t := threshold bias position
    guard (n + d * weight < UInt32.size)
    if d < t then return (n + d * weight, rest)
    else
      guard (weight * (base - t) < UInt32.size)
      addDistance? bias (position + base) (weight * (base - t)) (n + d * weight) rest

/-- Inserts into a label the characters that some digits give; `code` and `place` say where the
last distance ended. -/
def insertFrom? : Nat → (code place bias : Nat) → List Char → List Char → Option (List Char)
  | _, _, _, _, label, [] => some label
  | 0, _, _, _, _, _ => none
  | fuel + 1, code, place, bias, label, digits => do
    let (n, rest) ← addDistance? bias base 1 place digits
    let count := label.length + 1
    let code := code + n / count
    guard code.isValidChar
    let (before, after) := label.splitAt (n % count)
    insertFrom? fuel code (n % count + 1) (adapted (n - place) count (place == 0))
      (before ++ Char.ofNat code :: after) rest

/-- The label that a text of lower-case ASCII stands for; what precedes its last hyphen, if
anything, are the characters in ASCII. -/
def decode? (cs : List Char) : Option (List Char) :=
  let digits := (cs.reverse.takeWhile (· ≠ '-')).reverse
  let ascii := cs.take (cs.length - digits.length - 1)
  if cs.head? = some '-' && ascii.isEmpty then none
  else insertFrom? digits.length 0x80 0 72 ascii digits

end ShopRelay.Text.Punycode
