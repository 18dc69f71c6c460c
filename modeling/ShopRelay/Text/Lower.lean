import ShopRelay.Text.Lower.Table

/-!
Lower case of a text by the full mappings: a capital sigma at the end of a word becomes a final
sigma, and a dotted capital I keeps its dot.
-/

namespace ShopRelay.Text.Lower

def Run.contains (r : Run) (n : Nat) : Bool :=
  r.first ≤ n && n ≤ r.last && (n - r.first) % r.step == 0

def inRanges (ranges : List (Nat × Nat)) (c : Char) : Bool :=
  ranges.any fun r => r.1 ≤ c.toNat && c.toNat ≤ r.2

def isCased (c : Char) : Bool := inRanges cased c

def isCaseIgnorable (c : Char) : Bool := inRanges caseIgnorable c

/-- The lower case of a character on its own. -/
def char (c : Char) : Char :=
  match runs.find? (·.contains c.toNat) with
  | some r => Char.ofNat (c.toNat + r.shift).toNat
  | none => c

/-- The first character that is not case-ignorable is cased. -/
def meetsCased (cs : List Char) : Bool :=
  match cs.dropWhile isCaseIgnorable with
  | [] => false
  | c :: _ => isCased c

/-- The lower case of the characters `cs` that follow those of `before`, the nearest first. -/
def charsAfter (before : List Char) : List Char → List Char
  | [] => []
  | c :: rest =>
    let here :=
      if c == 'Σ' then [if meetsCased before && !meetsCased rest then 'ς' else 'σ']
      else if c == 'İ' then ['i', '\u0307']
      else [char c]
    here ++ charsAfter (c :: before) rest

end Lower

def lower (s : String) : String := String.ofList (Lower.charsAfter [] s.toList)

end ShopRelay.Text
