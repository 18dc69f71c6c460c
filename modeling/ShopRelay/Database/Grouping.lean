import ShopRelay.Catalog
import ShopRelay.Database.Row

/-!
Products put together from the rows of four queries: products, variants, and the attributes of
both. The rows of an assigned attribute follow each other, one for each of its values; the first
one gives the attribute.
-/

namespace ShopRelay.Database

/-- Lists by the id of their owner. -/
abbrev ByOwner (α : Type) := Uuid → List α

namespace ByOwner

variable {α : Type}

def empty : ByOwner α := fun _ => []

def set (m : ByOwner α) (owner : Uuid) (items : List α) : ByOwner α :=
  fun id => if id = owner then items else m id

end ByOwner

/-- The attributes grouped so far, and the assignment whose rows are being read. -/
structure Assignments where
  byOwner : ByOwner AssignedAttribute
  current : Option Uuid

namespace Assignments

def start : Assignments := ⟨.empty, none⟩

def attributeOfRow (row : Row) : Except Fault Attribute := do
  let inputType ← row.required "input_type" Cell.text?
  return {
    id := ← row.required "attribute_id" Cell.uuid?
    slug := ← row.required "attribute_slug" Cell.text?
    name := ← row.required "attribute_name" Cell.text?
    inputType := ← (InputType.ofName? inputType).elim (throw (.unknownInputType inputType)) pure
    unit := ← row.optional "unit" Cell.text? }

def valueOfRow (id : Uuid) (row : Row) : Except Fault AttributeValue := do
  return {
    id
    name := ← row.required "value_name" Cell.text?
    slug := ← row.required "value_slug" Cell.text?
    richText := ← row.optional "rich_text" Cell.json?
    dateTime := ← row.optional "date_time" Cell.time? }

def addAttribute (row : Row) (assigned : List AssignedAttribute) :
    Except Fault (List AssignedAttribute) := do
  let opened : AssignedAttribute := { definition := ← attributeOfRow row, values := [] }
  return assigned ++ [opened]

/-- The value in a row goes to the attribute that was assigned last; a row may hold none. -/
def addValue (row : Row) (assigned : List AssignedAttribute) :
    Except Fault (List AssignedAttribute) := do
  match ← row.optional "value_id" Cell.uuid?, assigned.getLast? with
  | some id, some last =>
    let value ← valueOfRow id row
    return assigned.dropLast ++ [{ last with values := last.values ++ [value] }]
  | _, _ => return assigned

def addRow (groups : Assignments) (row : Row) : Except Fault Assignments := do
  let assignment ← row.required "assignment_id" Cell.uuid?
  let owner ← row.required "owner_id" Cell.uuid?
  let assigned := groups.byOwner owner
  let assigned ←
    if groups.current = some assignment then pure assigned
    else addAttribute row assigned
  let assigned ← addValue row assigned
  return ⟨groups.byOwner.set owner assigned, some assignment⟩

/-- The assigned attributes in some rows, by their owner. -/
def ofRows (rows : List Row) : Except Fault (ByOwner AssignedAttribute) := do
  let groups ← rows.foldlM addRow start
  return groups.byOwner

end Assignments

/-- The variants in some rows, by their product. Attributes go to the first variant with the id
that owns them. -/
def variantsOfRows (attributes : ByOwner AssignedAttribute) (variants : ByOwner ProductVariant) :
    List Row → Except Fault (ByOwner ProductVariant)
  | [] => .ok variants
  | row :: rest => do
    let id ← row.required "id" Cell.uuid?
    let productId ← row.required "product_id" Cell.uuid?
    let variant : ProductVariant := {
      id
      sku := ← row.optional "sku" Cell.text?
      name := ← row.required "name" Cell.text?
      attributes := attributes id }
    variantsOfRows (attributes.set id []) (variants.set productId (variants productId ++ [variant]))
      rest

/-- The products in some rows. Attributes and variants go to the first product with the id that
owns them. -/
def productsOfRows (attributes : ByOwner AssignedAttribute) (variants : ByOwner ProductVariant) :
    List Row → Except Fault (List Product)
  | [] => .ok []
  | row :: rest => do
    let id ← row.required "id" Cell.uuid?
    let product : Product := {
      id
      name := ← row.required "name" Cell.text?
      description := ← row.optional "description" Cell.json?
      plainDescription := ← row.required "description_plaintext" Cell.text?
      attributes := attributes id
      variants := variants id }
    let products ← productsOfRows (attributes.set id []) (variants.set id []) rest
    return product :: products

end ShopRelay.Database
