import ShopRelay.Http.Domain.Table
import ShopRelay.Http.Percent
import ShopRelay.Text.Bidi
import ShopRelay.Text.Composition
import ShopRelay.Text.Joining
import ShopRelay.Text.Mark
import ShopRelay.Text.Punycode

/-!
Names of domains in any script. A name is mapped to its usual characters, composed and cut into
labels; labels beyond ASCII are written in Punycode, and labels in Punycode must be what writing
their meaning would give.
-/

namespace ShopRelay.Http.Domain

open Text (CharSet)

/-- What a range of characters is mapped to. -/
structure Mapping where
  range : Text.CodeRange
  step : Nat
  target : List Char

namespace Mapping

/-- A step of one unless the range is followed by a slash. -/
def read? (word : List Char) : Option Mapping := do
  let (source, target) ← Text.splitFirst? '>' word
  let stepped := source.contains '/'
  let range ← Text.CodeRange.read? (source.filter (· ≠ '/'))
  return ⟨range, if stepped then 2 else 1, ← (Text.split '.' target).mapM Text.character?⟩

def contains (m : Mapping) (c : Char) : Bool :=
  m.range.contains c && (c.toNat - m.range.first) % m.step = 0

/-- The characters of a range keep their distances. -/
def apply (m : Mapping) (c : Char) : List Char :=
  m.target.map fun t => Char.ofNat (t.toNat + (c.toNat - m.range.first))

end Mapping

def refused : CharSet := .ofRows refusedRows

def ignored : CharSet := .ofRows ignoredRows

def mappings : List Mapping := (Text.words (shiftRows ++ expansionRows)).filterMap Mapping.read?

/-- The characters that one stands for in a name, unless it may not stand in one. The table says
nothing about ASCII, where only capital letters stand for others. -/
def mapped? (c : Char) : Option (List Char) :=
  if Text.isAscii c then some [c.toLower]
  else if refused.has c then none
  else if ignored.has c then some []
  else match mappings.find? (·.contains c) with
    | some m => some (m.apply c)
    | none => some [c]

def isControl (c : Char) : Bool := c < ' ' || c == '\x7f'

/-- The characters in ASCII that would end or change the name of a host. -/
def isForbidden (c : Char) : Bool := isControl c || " #/:<>?@[\\]^|%".toList.contains c

/-- A label as it is written and as it is meant. -/
structure Label where
  written : List Char
  meant : List Char

/-- The nearest character that joining does not pass over joins. -/
def meetsJoining (joins : Char → Bool) (cs : List Char) : Bool :=
  (cs.dropWhile fun c => !joins c && Text.Joining.isTransparent c).head?.any joins

def isVirama (c : Char) : Bool := Text.Composition.combiningClass c = 9

/-- A joiner stands behind a virama; a non-joiner may also stand between letters that would join.
The characters before are given from the nearest on. -/
def joinersFit (before : List Char) : List Char → Bool
  | [] => true
  | c :: rest =>
    let fits :=
      if c == '\u200d' then before.head?.any isVirama
      else if c == '\u200c' then
        before.head?.any isVirama || (meetsJoining Text.Joining.joinsAfter before
          && meetsJoining Text.Joining.joinsBefore rest)
      else true
    fits && joinersFit (c :: before) rest

/-- A label beyond ASCII does not begin with a mark. -/
def isSound (label : List Char) : Bool := !label.head?.any Text.isMark && joinersFit [] label

namespace Label

/-- The longest labels that are written in Punycode and read from it. -/
def maxMeant : Nat := 1000

def maxWritten : Nat := 2000

/-- The meaning of a label in Punycode, which must be in the form in which it would be read. -/
def ofPunycode? (label code : List Char) : Option Label := do
  guard (code.all Text.isAscii && code.getLast?.any (· ≠ '-'))
  guard (code.length ≤ maxWritten)
  let meant ← Text.Punycode.decode? code
  guard (meant.all fun c => mapped? c == some [c])
  guard (Text.composed meant == meant && isSound meant)
  return ⟨label, meant⟩

def read? (label : List Char) : Option Label :=
  match label with
  | 'x' :: 'n' :: '-' :: '-' :: code => ofPunycode? label code
  | _ =>
    if label.all Text.isAscii then some ⟨label, label⟩
    else do
      guard (isSound label && label.length ≤ maxMeant)
      return ⟨"xn--".toList ++ Text.Punycode.encode label, label⟩

end Label

/-- The labels of a name in ASCII; escapes in the name are read as UTF-8. -/
def labels? (cs : List Char) : Option (List (List Char)) := do
  let decoded ← Text.decodeUtf8? (unescape (Text.encodeUtf8 (String.ofList cs)))
  let characters ← decoded.toList.mapM mapped?
  let name := Text.composed characters.flatten
  guard (!name.isEmpty && !name.any isForbidden)
  let labels ← (Text.split '.' name).mapM Label.read?
  let bothWays := labels.any fun l => l.meant.any Text.Bidi.isRightToLeft
  guard (!bothWays || labels.all fun l => l.meant.isEmpty || Text.Bidi.isOrdered l.meant)
  return labels.map (·.written)

end ShopRelay.Http.Domain
