import ShopRelay.Json.Value

/-!
JSON as it is written: members keep their order and may repeat a key. A part that breaks no rule of
the grammar but has no value (half of a surrogate pair, a number out of range, nesting that is too
deep) is unreadable; whoever skips it never notices.
-/

namespace ShopRelay.Json

open Number

inductive Tree where
  | null
  | bool (b : Bool)
  | int (n : Int)
  | float (x : Binary)
  | single (x : Single)
  | str (s : String)
  | arr (items : List Tree)
  | obj (members : List (String × Tree))
  | unreadable
deriving Inhabited

namespace Tree

mutual

/-- A value written with its members in the order of their keys. -/
def ofValue : Value → Tree
  | .null => .null
  | .bool b => .bool b
  | .int n => .int n
  | .float x => .float x
  | .str s => .str s
  | .arr items => .arr (ofItems items)
  | .obj members => .obj (ofMembers members)

def ofItems : List Value → List Tree
  | [] => []
  | v :: rest => ofValue v :: ofItems rest

def ofMembers : List (String × Value) → List (String × Tree)
  | [] => []
  | (k, v) :: rest => (k, ofValue v) :: ofMembers rest

end

/-- A single-precision number as a double; past the greatest finite one it has no JSON form. -/
def ofSingle : Single → Value
  | .finite x => match Format.double.convert? x with
    | some y => .float y
    | none => .null
  | .infinite _ => .null

mutual

/-- The value that is written; of members with one key the last counts. -/
def toValue? : Tree → Option Value
  | .null => some .null
  | .bool b => some (.bool b)
  | .int n => some (.int n)
  | .float x => some (.float x)
  | .single x => some (ofSingle x)
  | .str s => some (.str s)
  | .arr items => do return .arr (← toItems? items)
  | .obj members => do return .ofMembers (← toMembers? members)
  | .unreadable => none

def toItems? : List Tree → Option (List Value)
  | [] => some []
  | t :: rest => do return (← toValue? t) :: (← toItems? rest)

def toMembers? : List (String × Tree) → Option (List (String × Value))
  | [] => some []
  | (k, t) :: rest => do return (k, ← toValue? t) :: (← toMembers? rest)

end

end Tree

end ShopRelay.Json
