import ShopRelay.Json.Codec

/-!
Records. Their members are written in a fixed order. They are read from an object, in any order and
among members of other names, or from a list of the members' contents in order.
-/

namespace ShopRelay.Json

/-- The members of a type, or of a part of one. -/
structure Record (α : Type) where
  names : List String
  /-- The members that a list must have; only the last ones can be left off. -/
  required : Nat
  write : α → List (String × Tree)
  read : List (String × Tree) → Option α

namespace Record

variable {α β : Type}

/-- A member that must be there. -/
def member (name : String) (c : Codec α) : Record α where
  names := [name]
  required := 1
  write x := [(name, c.write x)]
  read ms := (List.lookup name ms).bind c.read

/-- A member that an object may leave out. -/
def optional (name : String) (c : Codec α) : Record (Option α) where
  names := [name]
  required := 1
  write x := [(name, c.option.write x)]
  read ms := match List.lookup name ms with
    | some t => c.option.read t
    | none => some none

/-- A last member that takes a standard content when it is left out. -/
def standard (name : String) (c : Codec α) (content : α) : Record α where
  names := [name]
  required := 0
  write x := [(name, c.write x)]
  read ms := match List.lookup name ms with
    | some t => c.read t
    | none => some content

/-- The members of two parts, one after the other. -/
def and (r : Record α) (s : Record β) : Record (α × β) where
  names := r.names ++ s.names
  required := r.required + s.required
  write p := r.write p.1 ++ s.write p.2
  read ms := do return (← r.read ms, ← s.read ms)

/-- The same members for a type with the same parts. -/
def as (r : Record α) (build : α → β) (parts : β → α) : Record β where
  names := r.names
  required := r.required
  write x := r.write (parts x)
  read ms := (r.read ms).map build

/-- The members that a tree gives to some names; no name may be given twice. -/
def membersOf? (names : List String) (required : Nat) : Tree → Option (List (String × Tree))
  | .obj members =>
    let known := members.filter fun m => names.contains m.1
    if (known.map Prod.fst).Nodup then some known else none
  | .arr items =>
    if required ≤ items.length ∧ items.length ≤ names.length then some (names.zip items) else none
  | _ => none

def codec (r : Record α) : Codec α where
  write x := .obj (r.write x)
  read t := (membersOf? r.names r.required t).bind r.read

/-- A record written with a first member that names its kind and is not read. -/
def tagged (r : Record α) (key tag : String) : Codec α where
  write x := .obj ((key, .str tag) :: r.write x)
  read := r.codec.read

end Record

end ShopRelay.Json
