import ShopRelay.Proofs.Search.Document
import ShopRelay.Proofs.Time.Timestamp
import ShopRelay.Search.Vector

/-!
The search vector and the search document of a product index the same values: each value that is
rendered gives one text to either, in the same order.
-/

namespace ShopRelay.Search

open Text (lines lower paddedDigits)
open Time (Timestamp Date)

/-- One of the values chosen for an attribute. -/
structure Choice where
  definition : Attribute
  value : AttributeValue

/-- The text of an instant without what follows the seconds, and with a blank for the `T`. -/
def cutToSeconds (s : String) : String :=
  String.ofList (s.toList.takeWhile (· ≠ 'T') ++
    ' ' :: ((s.toList.dropWhile (· ≠ 'T')).drop 1).take 8)

namespace Choice

def isRendered (c : Choice) : Bool :=
  match c.definition.inputType with
  | .dropdown | .multiselect | .richText | .numeric => true
  | .date | .dateTime => c.value.dateTime.isSome
  | .file | .reference | .plainText | .swatch | .boolean => false

def unit (c : Choice) : String := c.definition.unit.getD ""

/-- The text of a value that is rendered, in the document. -/
def documentText (c : Choice) : String :=
  match c.definition.inputType with
  | .richText => (c.value.richText.map editorText).getD ""
  | .numeric => c.value.name ++ c.unit
  | .date | .dateTime => (c.value.dateTime.map isoText).getD ""
  | _ => c.value.name

/-- Its text in the vector. -/
def vectorText (c : Choice) : String :=
  match c.definition.inputType with
  | .numeric => if c.unit = "" then c.documentText else c.value.name ++ " " ++ c.unit
  | .date | .dateTime => cutToSeconds c.documentText
  | _ => c.documentText

def text : Target → Choice → String
  | .document, c => c.documentText
  | .vector, c => c.vectorText

end Choice

/-- The values that are rendered, in order of assignment. -/
def renderedChoices (attributes : List AssignedAttribute) : List Choice :=
  attributes.flatMap fun a => (a.values.map (Choice.mk a.definition)).filter Choice.isRendered

/-- The rendered values of all variants, one variant after the other. -/
def variantChoices (p : Product) : List Choice :=
  p.variants.flatMap (renderedChoices ·.attributes)

/-- Both parts with a blank between them; what is empty is left out. -/
def skuAndName (sku name : String) : String :=
  if sku = "" then name else if name = "" then sku else sku ++ " " ++ name

theorem timeText_length (t : Timestamp) : t.clock.timeText.length = 8 := by
  obtain ⟨hhour, hminute, hsecond, -⟩ := t.clock_bounds
  have htwo {n : Nat} (h : n < 100) : (paddedDigits 2 n).length = 2 :=
    Text.paddedDigits_length (by decide) h
  rw [Time.Clock.timeText]
  simp only [List.length_append, List.length_cons]
  rw [htwo (by omega), htwo (by omega), htwo (by omega)]

/-- Whatever its year, its seconds and its fraction. -/
theorem plainTimeText_eq (t : Timestamp) : plainTimeText t = cutToSeconds (isoText t) := by
  -- The first `T` is the one behind the date, and the time of day has eight characters.
  have hdate : ∀ c ∈ t.clock.date.text, decide (c ≠ 'T') = true := by
    intro c hc
    rw [decide_eq_true_eq]
    rintro rfl
    exact Date.not_mem_text _ rfl (by decide) (by decide) hc
  unfold plainTimeText cutToSeconds isoText
  dsimp only
  rw [String.toList_ofList, List.append_assoc, List.append_assoc,
    List.takeWhile_append_of_pos hdate, List.dropWhile_append_of_pos hdate]
  simp [timeText_length]

theorem valueTexts_cons (target : Target) (a : Attribute) (v : AttributeValue)
    (vs : List AttributeValue) : valueTexts ⟨a, v :: vs⟩ target =
      valueTexts ⟨a, [v]⟩ target ++ valueTexts ⟨a, vs⟩ target := by
  have htimes (f : AttributeValue → Option String) :
      (v :: vs).filterMap f = [v].filterMap f ++ vs.filterMap f := by
    rw [← List.filterMap_append, List.singleton_append]
  unfold valueTexts
  dsimp only
  cases a.inputType with
  | date | dateTime => exact htimes _
  | _ => rfl

theorem valueTexts_single (target : Target) (c : Choice) :
    valueTexts ⟨c.definition, [c.value]⟩ target =
      if c.isRendered then [c.text target] else [] := by
  obtain ⟨a, v⟩ := c
  unfold valueTexts Choice.isRendered
  dsimp only
  cases h : a.inputType with
  | date | dateTime =>
    cases hv : v.dateTime with
    | none => simp [hv]
    | some t =>
      cases target <;>
        simp [hv, h, Choice.text, Choice.documentText, Choice.vectorText, timeText,
          plainTimeText_eq]
  | numeric =>
    cases target with
    | document => simp [h, Choice.text, Choice.documentText, Choice.unit, numericText]
    | vector =>
      by_cases hunit : a.unit.getD "" = "" <;>
        simp [h, hunit, Choice.text, Choice.documentText, Choice.vectorText, Choice.unit,
          numericText]
  | _ => cases target <;> simp [h, Choice.text, Choice.documentText, Choice.vectorText]

theorem valueTexts_eq (target : Target) (a : AssignedAttribute) : valueTexts a target =
    ((a.values.map (Choice.mk a.definition)).filter Choice.isRendered).map (Choice.text target) := by
  obtain ⟨a, vs⟩ := a
  induction vs with
  | nil => cases h : a.inputType <;> simp [valueTexts, h]
  | cons v vs ih =>
    rw [valueTexts_cons, ih, valueTexts_single target ⟨a, v⟩]
    dsimp only
    rw [List.map_cons, List.filter_cons]
    split <;> rfl

theorem attributeTexts_eq (attributes : List AssignedAttribute) :
    attributeTexts attributes = (renderedChoices attributes).map Choice.documentText := by
  rw [attributeTexts, renderedChoices, List.map_flatMap]
  exact List.flatMap_congr fun a _ => valueTexts_eq .document a

theorem attributesVector_eq (attributes : List AssignedAttribute) :
    (attributesVector attributes).terms =
      (renderedChoices attributes).map fun c => ⟨c.vectorText, .b⟩ := by
  rw [attributesVector, renderedChoices, List.map_flatMap]
  refine List.flatMap_congr fun a _ => ?_
  rw [valueTexts_eq, List.map_map]
  rfl

theorem variantText_eq (v : ProductVariant) :
    variantText v = skuAndName (v.sku.getD "") v.name := by
  unfold variantText skuAndName
  rw [filter_filled]
  by_cases hsku : v.sku.getD "" = "" <;> by_cases hname : v.name = "" <;> simp [hsku, hname]

theorem productVector_eq (p : Product) : (productVector p).terms =
    [⟨p.name, .a⟩, ⟨p.plainDescription, .c⟩] ++
      (renderedChoices p.attributes).map (fun c => ⟨c.vectorText, .b⟩) ++
      p.variants.map (fun v => ⟨skuAndName (v.sku.getD "") v.name, .a⟩) ++
      (variantChoices p).map (fun c => ⟨c.vectorText, .b⟩) := by
  have hvariants : p.variants.map (fun v => (⟨variantText v, .a⟩ : Term)) =
      p.variants.map (fun v => ⟨skuAndName (v.sku.getD "") v.name, .a⟩) :=
    List.map_congr_left fun v _ => by rw [variantText_eq]
  have hchosen : p.variants.flatMap (fun v => (attributesVector v.attributes).terms) =
      (variantChoices p).map (fun c => ⟨c.vectorText, .b⟩) := by
    rw [variantChoices, List.map_flatMap]
    exact List.flatMap_congr fun v _ => attributesVector_eq v.attributes
  change [_, _] ++ ((attributesVector p.attributes).terms ++ (_ ++ _)) = _
  rw [attributesVector_eq, hvariants, hchosen, List.append_assoc, List.append_assoc]

theorem variantTexts_eq (p : Product) : p.variants.flatMap (fun v => attributeTexts v.attributes) =
    (variantChoices p).map Choice.documentText := by
  rw [variantChoices, List.map_flatMap]
  exact List.flatMap_congr fun v _ => attributeTexts_eq v.attributes

/-- The terms of the vector and the texts of the document, before these are lowered, are made of the
same values: those that are rendered, the product's own and then those of its variants. -/
theorem vector_indexes_document (p : Product) :
    (productVector p).terms =
      [⟨p.name, .a⟩, ⟨p.plainDescription, .c⟩] ++
        (renderedChoices p.attributes).map (fun c => ⟨c.vectorText, .b⟩) ++
        p.variants.map (fun v => ⟨skuAndName (v.sku.getD "") v.name, .a⟩) ++
        (variantChoices p).map (fun c => ⟨c.vectorText, .b⟩) ∧
    productDocument p = lines (([p.name, p.plainDescription].filter (· ≠ "") ++
      (renderedChoices p.attributes).map Choice.documentText ++
      (p.variants.filterMap (·.sku)).filter (· ≠ "") ++
      (variantChoices p).map Choice.documentText).map lower) ∧
    ((productVector p).terms.filter (·.weight = .b)).map Term.text =
      (renderedChoices p.attributes ++ variantChoices p).map Choice.vectorText ∧
    attributeTexts p.attributes ++ p.variants.flatMap (fun v => attributeTexts v.attributes) =
      (renderedChoices p.attributes ++ variantChoices p).map Choice.documentText := by
  have hall (cs : List Choice) :
      ((cs.map fun c => (⟨c.vectorText, .b⟩ : Term)).filter (·.weight = .b)).map Term.text =
        cs.map Choice.vectorText := by
    rw [List.filter_eq_self.mpr (by simp), List.map_map]
    rfl
  have hfields : [(⟨p.name, .a⟩ : Term), ⟨p.plainDescription, .c⟩].filter (·.weight = .b) = [] :=
    rfl
  have hvariants : (p.variants.map fun v => (⟨skuAndName (v.sku.getD "") v.name, .a⟩ : Term)).filter
      (·.weight = .b) = [] := by
    simp [List.filter_eq_nil_iff]
  refine ⟨productVector_eq p, ?_, ?_, ?_⟩
  · rw [productDocument_eq, documentTexts, attributeTexts_eq, variantTexts_eq]
  · rw [productVector_eq, List.filter_append, List.filter_append, List.filter_append, hfields,
      hvariants, List.nil_append, List.append_nil, List.map_append, hall, hall, List.map_append]
  · rw [attributeTexts_eq, variantTexts_eq, List.map_append]

end ShopRelay.Search
