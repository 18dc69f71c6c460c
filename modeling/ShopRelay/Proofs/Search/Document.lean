import ShopRelay.Proofs.Text.Lower
import ShopRelay.Search.Document

/-!
The search document of a product is flat: its texts in a fixed order, each in lower case on a line
of its own.
-/

namespace ShopRelay.Search

open Text (lines lower)

variable {texts : List String}

/-- The texts of some attributes in the document, blank ones included. -/
def attributeTexts (attributes : List AssignedAttribute) : List String :=
  attributes.flatMap (valueTexts · .document)

/-- The texts that a product is found by. -/
def documentTexts (p : Product) : List String :=
  [p.name, p.plainDescription].filter (· ≠ "") ++ attributeTexts p.attributes ++
    (p.variants.filterMap (·.sku)).filter (· ≠ "") ++
    p.variants.flatMap fun v => attributeTexts v.attributes

theorem intercalate_lines (h : texts ≠ []) : "\n".intercalate texts ++ "\n" = lines texts := by
  induction texts with
  | nil => exact absurd rfl h
  | cons text texts ih =>
    cases texts with
    | nil => simp
    | cons next texts =>
      rw [String.intercalate_cons_cons, String.append_assoc, ih (List.cons_ne_nil next texts),
        Text.lines_cons text]

/-- Texts of which none is empty have no empty join, unless there is no text. -/
theorem joinLines_eq (h : ∀ t ∈ texts, t ≠ "") : joinLines texts = lines texts := by
  cases texts with
  | nil => rfl
  | cons text texts =>
    have hfilled : ("\n".intercalate (text :: texts)).isEmpty = false := by
      have htext : text ≠ "" := h text List.mem_cons_self
      cases texts with
      | nil => simpa using htext
      | cons next texts => simp
    rw [joinLines, hfilled]
    exact intercalate_lines (List.cons_ne_nil text texts)

theorem ne_of_mem_filter {t : String} (h : t ∈ texts.filter (· ≠ "")) : t ≠ "" := by
  simpa using (List.mem_filter.mp h).2

theorem filter_filled (texts : List String) :
    texts.filter (!·.isEmpty) = texts.filter (· ≠ "") := by
  congr 1
  funext t
  by_cases h : t = ""
  · simp [h]
  · simp [h]

theorem fieldsDocument_eq (p : Product) :
    fieldsDocument p = lines (([p.name, p.plainDescription].filter (· ≠ "")).map lower) := by
  rw [fieldsDocument, filter_filled, joinLines_eq fun _ => ne_of_mem_filter, Text.lower_lines]

theorem attributesDocument_eq (attributes : List AssignedAttribute) :
    attributesDocument attributes = lines ((attributeTexts attributes).map lower) := by
  rw [← Text.lower_lines]
  refine congrArg lower ?_
  induction attributes with
  | nil => rfl
  | cons a attributes ih =>
    have hsection : (if (valueTexts a .document).isEmpty then ""
        else "\n".intercalate (valueTexts a .document) ++ "\n") =
          lines (valueTexts a .document) := by
      cases htexts : valueTexts a .document with
      | nil => rfl
      | cons text texts => exact intercalate_lines (List.cons_ne_nil text texts)
    have hflat : attributeTexts (a :: attributes) =
        valueTexts a .document ++ attributeTexts attributes := rfl
    rw [List.map_cons, String.join_cons, ih, hflat, Text.lines_append, hsection]

theorem variantAttributes_eq (variants : List ProductVariant) :
    String.join (variants.map (attributesDocument ·.attributes)) =
      lines ((variants.flatMap fun v => attributeTexts v.attributes).map lower) := by
  induction variants with
  | nil => rfl
  | cons v variants ih =>
    rw [List.map_cons, String.join_cons, ih, attributesDocument_eq, List.flatMap_cons,
      List.map_append, Text.lines_append]

/-- Lower case twice is lower case. -/
theorem map_lower_lower (texts : List String) : (texts.map lower).map lower = texts.map lower := by
  rw [List.map_map]
  exact List.map_congr_left fun t _ => Text.lower_lower t

theorem variantsDocument_eq (p : Product) :
    variantsDocument p = lines (((p.variants.filterMap (·.sku)).filter (· ≠ "") ++
      p.variants.flatMap fun v => attributeTexts v.attributes).map lower) := by
  have hskus : joinLines ((p.variants.filterMap (·.sku)).filter (!·.isEmpty)) =
      lines ((p.variants.filterMap (·.sku)).filter (· ≠ "")) := by
    rw [filter_filled, joinLines_eq fun _ => ne_of_mem_filter]
  rw [variantsDocument, hskus, variantAttributes_eq, ← Text.lines_append, Text.lower_lines,
    List.map_append, List.map_append, map_lower_lower]

theorem productDocument_eq (p : Product) :
    productDocument p = lines ((documentTexts p).map lower) := by
  rw [productDocument, fieldsDocument_eq, attributesDocument_eq, variantsDocument_eq,
    ← Text.lines_append, ← Text.lines_append, Text.lower_lines, ← List.map_append,
    ← List.map_append, map_lower_lower, documentTexts]
  simp only [List.append_assoc]

/-- The document is made of the texts of the product, each lowered on its own line. So it is the
raw text lowered at once, and lowering it again changes nothing. -/
theorem document_of_texts (p : Product) :
    productDocument p = String.join ((documentTexts p).map fun t => lower t ++ "\n") ∧
    (productDocument p = "" ∨ ∃ s, productDocument p = s ++ "\n") ∧
    productDocument p = lower (String.join ((documentTexts p).map fun t => t ++ "\n")) ∧
    lower (productDocument p) = productDocument p := by
  have hflat := productDocument_eq p
  refine ⟨?_, ?_, ?_, ?_⟩
  · rw [hflat, lines, List.map_map]
    rfl
  · rcases List.eq_nil_or_concat (documentTexts p) with hnone | ⟨texts, last, hlast⟩
    · left
      rw [hflat, hnone]
      rfl
    · right
      refine ⟨lines (texts.map lower) ++ lower last, ?_⟩
      rw [hflat, hlast]
      simp [String.append_assoc]
  · rw [hflat, ← Text.lower_lines]
    rfl
  · rw [hflat, ← Text.lower_lines, Text.lower_lower]

end ShopRelay.Search
