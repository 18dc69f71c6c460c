import ShopRelay.Text.Hex
import ShopRelay.Text.Split

/-!
Sets of characters, written in rows of hexadecimal ranges such as `41-5A 5F`.
-/

namespace ShopRelay.Text

/-- The words of some rows. -/
def words (rows : List String) : List (List Char) := rows.flatMap fun row => split ' ' row.toList

/-- The character whose number some hexadecimal digits give. -/
def character? (digits : List Char) : Option Char := (hexNumber? digits).map Char.ofNat

/-- The code points from one to another. -/
structure CodeRange where
  first : Nat
  last : Nat
deriving DecidableEq, Repr

namespace CodeRange

def contains (r : CodeRange) (c : Char) : Bool := r.first ≤ c.toNat && c.toNat ≤ r.last

/-- A range is two numbers with a hyphen between them, or one that is both. -/
def read? (word : List Char) : Option CodeRange :=
  match splitFirst? '-' word with
  | some (first, last) => do return ⟨← hexNumber? first, ← hexNumber? last⟩
  | none => do
    let n ← hexNumber? word
    return ⟨n, n⟩

end CodeRange

structure CharSet where
  ranges : List CodeRange

namespace CharSet

def ofRows (rows : List String) : CharSet := ⟨(words rows).filterMap CodeRange.read?⟩

def has (s : CharSet) (c : Char) : Bool := s.ranges.any (·.contains c)

end CharSet

end ShopRelay.Text
