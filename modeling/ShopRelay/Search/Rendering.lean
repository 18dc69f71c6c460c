import ShopRelay.Catalog
import ShopRelay.Search.EditorText

/-!
The searchable texts of an attribute's values. Numbers and dates are rendered differently for the
document and for the vector; input types without a text form yield nothing.
-/

namespace ShopRelay.Search

inductive Target where
  | document
  | vector
deriving DecidableEq, Repr

/-- The instant with its offset from universal time: whole seconds, or six digits of a fraction. -/
def isoText (t : Time.Timestamp) : String :=
  let c := t.clock
  let fraction := if t.nanos = 0 then [] else '.' :: Text.paddedDigits 6 (c.nanos / 1000)
  String.ofList (c.date.text ++ 'T' :: c.timeText ++ fraction ++ "+00:00".toList)

/-- Date and time of day to the second. -/
def plainTimeText (t : Time.Timestamp) : String :=
  let c := t.clock
  String.ofList (c.date.text ++ ' ' :: c.timeText)

def numericText (name unit : String) : Target → String
  | .document => name ++ unit
  | .vector => if unit.isEmpty then name else name ++ " " ++ unit

def timeText (t : Time.Timestamp) : Target → String
  | .document => isoText t
  | .vector => plainTimeText t

def valueTexts (assigned : AssignedAttribute) (target : Target) : List String :=
  match assigned.definition.inputType with
  | .dropdown | .multiselect => assigned.values.map (·.name)
  | .richText => assigned.values.map fun v => (v.richText.map editorText).getD ""
  | .numeric =>
    let unit := assigned.definition.unit.getD ""
    assigned.values.map fun v => numericText v.name unit target
  | .date | .dateTime => assigned.values.filterMap fun v => v.dateTime.map (timeText · target)
  | .file | .reference | .plainText | .swatch | .boolean => []

end ShopRelay.Search
