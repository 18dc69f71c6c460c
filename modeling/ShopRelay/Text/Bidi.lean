import ShopRelay.Text.Bidi.Table
import ShopRelay.Text.CharSet

/-!
The order of characters in names whose labels run in two directions. A label runs from the left or
from the right as its first letter does, holds nothing that would be shown outside of it, and ends
in a letter or a number.
-/

namespace ShopRelay.Text.Bidi

def classes : List (Class × CharSet) := classRows.map fun (k, rows) => (k, .ofRows rows)

def classOf (c : Char) : Class := ((classes.find? (·.2.has c)).map (·.1)).getD .leftToRight

/-- Characters that make a name one of two directions; none stands before the Hebrew block. -/
def isRightToLeft (c : Char) : Bool :=
  0x590 ≤ c.toNat && [.rightToLeft, .arabicLetter, .arabicNumber].contains (classOf c)

/-- What may stand in a label of either direction besides letters and Arabic numbers. -/
def common : List Class :=
  [.europeanNumber, .europeanSeparator, .europeanTerminator, .commonSeparator, .nonspacingMark,
    .boundaryNeutral, .otherNeutral]

/-- Whether a label may stand in a name of two directions. -/
def isOrdered (label : List Char) : Bool :=
  let classes := label.map classOf
  let final := (classes.reverse.dropWhile (· == .nonspacingMark)).head?
  let endsIn (ends : List Class) := final.any ends.contains
  match classes.head? with
  | some .leftToRight =>
    classes.all (.leftToRight :: common).contains && endsIn [.leftToRight, .europeanNumber]
  | some .rightToLeft | some .arabicLetter =>
    classes.all (.rightToLeft :: .arabicLetter :: .arabicNumber :: common).contains
      && endsIn [.rightToLeft, .arabicLetter, .europeanNumber, .arabicNumber]
      && !(classes.contains .europeanNumber && classes.contains .arabicNumber)
  | _ => false

end ShopRelay.Text.Bidi
