import ShopRelay.Text.CharSet
import ShopRelay.Text.Composition.Table

/-!
The composed form of a text, which is the same for all spellings of a letter with its marks:
everything is taken apart, marks are put in the order of their classes, and what has a composite
is composed again.
-/

namespace ShopRelay.Text.Composition

/-- Zero for what begins a letter; marks of one class do not pass each other. -/
def classes : List (Nat × CharSet) := classRows.map fun (n, rows) => (n, .ofRows rows)

def combiningClass (c : Char) : Nat := ((classes.find? (·.2.has c)).map (·.1)).getD 0

structure Decomposition where
  whole : Char
  parts : List Char
  /-- Whether the two parts side by side are written as the whole. -/
  composes : Bool

def Decomposition.read? (word : List Char) : Option Decomposition := do
  let composes := word.contains '='
  let (whole, parts) ← splitFirst? (if composes then '=' else '~') word
  return ⟨← character? whole, ← (split '.' parts).mapM character?, composes⟩

def decompositions : List Decomposition := (words decompositionRows).filterMap Decomposition.read?

/-- The consonant, the vowel and the final consonant, if any, of a Hangul syllable. -/
def syllableParts? (c : Char) : Option (List Char) :=
  if 0xAC00 ≤ c.toNat && c.toNat < 0xAC00 + 19 * 588 then
    let i := c.toNat - 0xAC00
    let final := if i % 28 = 0 then [] else [Char.ofNat (0x11A7 + i % 28)]
    some (Char.ofNat (0x1100 + i / 588) :: Char.ofNat (0x1161 + i % 588 / 28) :: final)
  else none

/-- The Hangul syllable of a consonant and a vowel, or of a syllable and a final consonant. -/
def syllable? (a b : Char) : Option Char :=
  let (a, b) := (a.toNat, b.toNat)
  if 0x1100 ≤ a && a < 0x1100 + 19 && 0x1161 ≤ b && b < 0x1161 + 21 then
    some (Char.ofNat (0xAC00 + (a - 0x1100) * 588 + (b - 0x1161) * 28))
  else if 0xAC00 ≤ a && a < 0xAC00 + 19 * 588 && (a - 0xAC00) % 28 = 0
      && 0x11A7 < b && b < 0x11A7 + 28 then
    some (Char.ofNat (a + (b - 0x11A7)))
  else none

/-- The parts of a character, taken apart as often as `depth` allows. -/
def partsOf : Nat → Char → List Char
  | 0, c => [c]
  | depth + 1, c =>
    match syllableParts? c, decompositions.find? (·.whole == c) with
    | some parts, _ => parts
    | none, some d => d.parts.flatMap (partsOf depth)
    | none, none => [c]

/-- No character of the table has parts below parts more than three times. -/
def maxDepth : Nat := 3

/-- Puts a character before others, behind the marks of lower classes. -/
def insertMark (c : Char) : List Char → List Char
  | [] => [c]
  | d :: rest =>
    if combiningClass d ≠ 0 && combiningClass d < combiningClass c then d :: insertMark c rest
    else c :: d :: rest

def decomposed (cs : List Char) : List Char :=
  (cs.flatMap (partsOf maxDepth)).foldr insertMark []

def composite? (a b : Char) : Option Char :=
  syllable? a b <|> (decompositions.find? fun d => d.composes && d.parts == [a, b]).map (·.whole)

/-- Composes the characters that follow a letter; `marks` are those in between that stay apart, the
last one first. A mark does not reach the letter past one of its own class. -/
def composeAfter (letter : Char) (marks : List Char) : List Char → List Char
  | [] => letter :: marks.reverse
  | c :: rest =>
    let isNear := marks.all fun m => combiningClass m < combiningClass c
    match (if isNear then composite? letter c else none) with
    | some whole => composeAfter whole marks rest
    | none =>
      if combiningClass c = 0 then letter :: marks.reverse ++ composeAfter c [] rest
      else composeAfter letter (c :: marks) rest

/-- Marks before the first letter stay as they are. -/
def compose (cs : List Char) : List Char :=
  let leading := cs.takeWhile (combiningClass · ≠ 0)
  match cs.drop leading.length with
  | [] => leading
  | c :: rest => leading ++ composeAfter c [] rest

end Composition

/-- A text in ASCII is composed as it is. -/
def composed (cs : List Char) : List Char :=
  if cs.all isAscii then cs else Composition.compose (Composition.decomposed cs)

end ShopRelay.Text
