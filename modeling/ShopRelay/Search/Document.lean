import ShopRelay.Search.Rendering
import ShopRelay.Text.Lower

/-!
The search document of a product: its texts in lower case, one to a line.
-/

namespace ShopRelay.Search

/-- Lines with a line break after each; lines that hold nothing at all leave nothing. -/
def joinLines (lines : List String) : String :=
  let joined := "\n".intercalate lines
  if joined.isEmpty then "" else joined ++ "\n"

def fieldsDocument (p : Product) : String :=
  Text.lower (joinLines ([p.name, p.plainDescription].filter (!·.isEmpty)))

/-- An attribute with a value has its lines even when all of them are empty. -/
def attributesDocument (attributes : List AssignedAttribute) : String :=
  let lines (a : AssignedAttribute) : String :=
    let texts := valueTexts a .document
    if texts.isEmpty then "" else "\n".intercalate texts ++ "\n"
  Text.lower (String.join (attributes.map lines))

/-- The stock keeping units of all variants, then the attributes of each. -/
def variantsDocument (p : Product) : String :=
  let skus := (p.variants.filterMap (·.sku)).filter (!·.isEmpty)
  Text.lower (joinLines skus ++ String.join (p.variants.map (attributesDocument ·.attributes)))

def productDocument (p : Product) : String :=
  Text.lower (fieldsDocument p ++ attributesDocument p.attributes ++ variantsDocument p)

end ShopRelay.Search
