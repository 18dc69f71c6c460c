import ShopRelay.Json.Printer
import ShopRelay.Json.Reader
import ShopRelay.Number.Decimal
import ShopRelay.Time.Reader
import ShopRelay.Uuid

/-!
How a type is written as JSON and read back. A reader may accept more than its writer produces:
records are also read from lists, and names of choices from objects.
-/

namespace ShopRelay.Json

structure Codec (α : Type) where
  write : α → Tree
  read : Tree → Option α

namespace Codec

variable {α β : Type}

def print (c : Codec α) (x : α) : String := (c.write x).print

/-- Reads a JSON text. -/
def parse? (c : Codec α) (s : String) : Option α := do c.read (← Tree.parse? s)

/-- Reads a JSON value. -/
def ofValue? (c : Codec α) (v : Value) : Option α := c.read (.ofValue v)

def bool : Codec Bool where
  write := .bool
  read
    | .bool b => some b
    | _ => none

def text : Codec String where
  write := .str
  read
    | .str s => some s
    | _ => none

/-- A type written as a text. -/
def ofText (write : α → String) (read? : String → Option α) : Codec α where
  write x := .str (write x)
  read
    | .str s => read? s
    | _ => none

/-- A whole number from `low` to `high`. -/
def intRange (low high : Int) : Codec Int where
  write := .int
  read
    | .int n => if low ≤ n ∧ n ≤ high then some n else none
    | _ => none

def int64 : Codec Int := intRange Text.minInt64 Text.maxInt64

/-- A number from 0 to below `limit`. -/
def natBelow (limit : Nat) : Codec Nat where
  write n := .int n
  read
    | .int n => if 0 ≤ n ∧ n < limit then some n.toNat else none
    | _ => none

def double : Codec Number.Binary where
  write := .float
  read
    | .float x => some x
    | .int n => Number.Format.double.ofInt? n
    | _ => none

def single : Codec Number.Single where
  write := .single
  read
    | .float x => some (.ofBinary x)
    | .int n => some (.ofInt n)
    | .single x => some x
    | _ => none

/-- Amounts are written as texts; numbers are read too. -/
def decimal : Codec Number.Decimal where
  write d := .str d.text
  read
    | .str s => Number.Decimal.read? s
    | .int n => Number.Decimal.ofInt? n
    | .float x => Number.Decimal.ofBinary? x
    | _ => none

def uuid : Codec Uuid := ofText Uuid.text Uuid.read?

def timestamp : Codec Time.Timestamp := ofText Time.Timestamp.text Time.Timestamp.read?

/-- Any JSON value. -/
def value : Codec Value where
  write := .ofValue
  read := Tree.toValue?

def option (c : Codec α) : Codec (Option α) where
  write
    | some x => c.write x
    | none => .null
  read
    | .null => some none
    | t => (c.read t).map some

def list (c : Codec α) : Codec (List α) where
  write xs := .arr (xs.map c.write)
  read
    | .arr ts => ts.mapM c.read
    | _ => none

/-- A list of exactly two items. -/
def pair (c : Codec α) (d : Codec β) : Codec (α × β) where
  write p := .arr [c.write p.1, d.write p.2]
  read
    | .arr [t, u] => do return (← c.read t, ← d.read u)
    | _ => none

def dict (c : Codec α) : Codec (Dict α) where
  write d := .obj (d.map fun e => (e.1, c.write e.2))
  read
    | .obj ms => (ms.mapM fun m : String × Tree => do return (m.1, ← c.read m.2)).map Dict.ofList
    | _ => none

/-- A choice written by its name; an object whose one member has the name and no content is read
as well. -/
def choice (write : α → String) (read? : String → Option α) : Codec α where
  write x := .str (write x)
  read
    | .str s => read? s
    | .obj [(s, .null)] => read? s
    | _ => none

end Codec

end ShopRelay.Json
