import ShopRelay.Json.Record

/-!
The catalogue: products, their variants, and the attributes assigned to both.
-/

namespace ShopRelay

open Json

/-- How the values of an attribute are entered. -/
inductive InputType where
  | dropdown
  | multiselect
  | file
  | reference
  | numeric
  | richText
  | plainText
  | swatch
  | boolean
  | date
  | dateTime
deriving DecidableEq, Repr

namespace InputType

def all : List InputType :=
  [.dropdown, .multiselect, .file, .reference, .numeric, .richText, .plainText, .swatch, .boolean,
    .date, .dateTime]

def name : InputType → String
  | .dropdown => "dropdown"
  | .multiselect => "multiselect"
  | .file => "file"
  | .reference => "reference"
  | .numeric => "numeric"
  | .richText => "rich-text"
  | .plainText => "plain-text"
  | .swatch => "swatch"
  | .boolean => "boolean"
  | .date => "date"
  | .dateTime => "date-time"

def ofName? (s : String) : Option InputType := all.find? (·.name == s)

/-- What is said about a text that names no input type. -/
def unknownMessage (text : String) : String := "unknown attribute input type '" ++ text ++ "'"

def codec : Codec InputType := .choice name ofName?

end InputType

structure Attribute where
  id : Uuid
  slug : String
  name : String
  inputType : InputType
  unit : Option String

structure AttributeValue where
  id : Uuid
  name : String
  slug : String
  richText : Option Value
  dateTime : Option Time.Timestamp

/-- An attribute with the values chosen for it, in order of assignment. -/
structure AssignedAttribute where
  definition : Attribute
  values : List AttributeValue

structure ProductVariant where
  id : Uuid
  sku : Option String
  name : String
  attributes : List AssignedAttribute

structure Product where
  id : Uuid
  name : String
  description : Option Value
  plainDescription : String
  attributes : List AssignedAttribute
  variants : List ProductVariant

def Attribute.codec : Codec Attribute :=
  ((Record.member "id" .uuid).and <| (Record.member "slug" .text).and <|
    (Record.member "name" .text).and <| (Record.member "input_type" InputType.codec).and <|
    Record.optional "unit" .text).as
    (fun (id, slug, name, inputType, unit) => ⟨id, slug, name, inputType, unit⟩)
    (fun a => (a.id, a.slug, a.name, a.inputType, a.unit)) |>.codec

def AttributeValue.codec : Codec AttributeValue :=
  ((Record.member "id" .uuid).and <| (Record.member "name" .text).and <|
    (Record.member "slug" .text).and <| (Record.optional "rich_text" .value).and <|
    Record.optional "date_time" .timestamp).as
    (fun (id, name, slug, richText, dateTime) => ⟨id, name, slug, richText, dateTime⟩)
    (fun v => (v.id, v.name, v.slug, v.richText, v.dateTime)) |>.codec

def AssignedAttribute.codec : Codec AssignedAttribute :=
  ((Record.member "attribute" Attribute.codec).and <|
    Record.member "values" (.list AttributeValue.codec)).as
    (fun (definition, values) => ⟨definition, values⟩) (fun a => (a.definition, a.values)) |>.codec

def ProductVariant.codec : Codec ProductVariant :=
  ((Record.member "id" .uuid).and <| (Record.optional "sku" .text).and <|
    (Record.member "name" .text).and <|
    Record.member "attributes" (.list AssignedAttribute.codec)).as
    (fun (id, sku, name, attributes) => ⟨id, sku, name, attributes⟩)
    (fun v => (v.id, v.sku, v.name, v.attributes)) |>.codec

def Product.codec : Codec Product :=
  ((Record.member "id" .uuid).and <| (Record.member "name" .text).and <|
    (Record.optional "description" .value).and <|
    (Record.member "description_plaintext" .text).and <|
    (Record.member "attributes" (.list AssignedAttribute.codec)).and <|
    Record.member "variants" (.list ProductVariant.codec)).as
    (fun (id, name, description, plainDescription, attributes, variants) =>
      ⟨id, name, description, plainDescription, attributes, variants⟩)
    (fun p => (p.id, p.name, p.description, p.plainDescription, p.attributes, p.variants)) |>.codec

end ShopRelay
