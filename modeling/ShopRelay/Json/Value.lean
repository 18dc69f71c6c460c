import ShopRelay.Dict
import ShopRelay.Number.Binary

/-!
JSON values: objects are dictionaries, and a number is either a whole number in the 64-bit ranges
or a floating-point number.
-/

namespace ShopRelay.Json

open Number

inductive Value where
  | null
  | bool (b : Bool)
  | int (n : Int)
  | float (x : Binary)
  | str (s : String)
  | arr (items : List Value)
  | obj (members : List (String × Value))
deriving Inhabited

namespace Value

/-- An object's value for a key. -/
def get? : Value → String → Option Value
  | .obj members, key => Dict.get? members key
  | _, _ => none

def asStr? : Value → Option String
  | .str s => some s
  | _ => none

def asArr? : Value → Option (List Value)
  | .arr items => some items
  | _ => none

def asObj? : Value → Option (Dict Value)
  | .obj members => some members
  | _ => none

/-- The object with the given members; the last one with a key counts. -/
def ofMembers (members : List (String × Value)) : Value := .obj (Dict.ofList members)

end Value

end ShopRelay.Json
