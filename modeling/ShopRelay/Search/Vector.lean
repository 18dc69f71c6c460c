import ShopRelay.Search.Rendering

/-!
The search vector of a product: texts with the weight that a match in them has.
-/

namespace ShopRelay.Search

open Json

inductive Weight where
  | a
  | b
  | c
  | d
deriving DecidableEq, Repr

namespace Weight

def name : Weight → String
  | .a => "A"
  | .b => "B"
  | .c => "C"
  | .d => "D"

def ofName? : String → Option Weight
  | "A" => some .a
  | "B" => some .b
  | "C" => some .c
  | "D" => some .d
  | _ => none

def codec : Codec Weight := .choice name ofName?

end Weight

structure Term where
  text : String
  weight : Weight
deriving DecidableEq, Repr

structure Vector where
  terms : List Term
deriving DecidableEq, Repr

def Vector.append (v w : Vector) : Vector := ⟨v.terms ++ w.terms⟩

def Vector.isEmpty (v : Vector) : Bool := v.terms.isEmpty

def attributesVector (attributes : List AssignedAttribute) : Vector :=
  ⟨attributes.flatMap fun a => (valueTexts a .vector).map (⟨·, .b⟩)⟩

/-- The stock keeping unit and the name of a variant, without what is empty. -/
def variantText (v : ProductVariant) : String :=
  " ".intercalate ([v.sku.getD "", v.name].filter (!·.isEmpty))

def variantsVector (p : Product) : Vector :=
  Vector.append ⟨p.variants.map fun v => ⟨variantText v, .a⟩⟩
    ⟨p.variants.flatMap fun v => (attributesVector v.attributes).terms⟩

def productVector (p : Product) : Vector :=
  Vector.append ⟨[⟨p.name, .a⟩, ⟨p.plainDescription, .c⟩]⟩
    ((attributesVector p.attributes).append (variantsVector p))

def Term.codec : Codec Term :=
  ((Record.member "text" .text).and <| Record.member "weight" Weight.codec).as
    (fun (text, weight) => ⟨text, weight⟩) (fun t => (t.text, t.weight)) |>.codec

def Vector.codec : Codec Vector :=
  (Record.member "terms" (.list Term.codec)).as Vector.mk Vector.terms |>.codec

end ShopRelay.Search
