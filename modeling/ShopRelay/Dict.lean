/-!
Dictionaries with text keys: lists of entries in the order of their keys, by code point.
-/

namespace ShopRelay

abbrev Dict (α : Type) := List (String × α)

namespace Dict

/-- Adds an entry at its place; an entry with the same key is replaced. -/
def insert {α : Type} (key : String) (value : α) : Dict α → Dict α
  | [] => [(key, value)]
  | (k, v) :: rest =>
    if key < k then (key, value) :: (k, v) :: rest
    else if key = k then (key, value) :: rest
    else (k, v) :: insert key value rest

/-- The dictionary of some entries; the last entry with a key counts. -/
def ofList {α : Type} (entries : List (String × α)) : Dict α :=
  entries.foldl (fun d e => insert e.1 e.2 d) []

def get? {α : Type} (d : Dict α) (key : String) : Option α := List.lookup key d

end Dict

end ShopRelay
