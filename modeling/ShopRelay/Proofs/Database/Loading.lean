import Mathlib.Data.List.Forall2
import Mathlib.Data.List.Nodup
import ShopRelay.Database.Products
import ShopRelay.Proofs.Database.Grouping
import ShopRelay.Proofs.Database.Transaction

/-!
Loading products for the search index. Each product is put together from its own rows, with its
attributes and variants in the order of their rows, whatever else is loaded with it.
-/

namespace ShopRelay.Database

structure ProductRow where
  id : Uuid
  name : String
  description : Option Json.Value
  plainDescription : String

def ProductRow.ofRow (row : Row) : Except Fault ProductRow := do
  return {
    id := ← row.required "id" Cell.uuid?
    name := ← row.required "name" Cell.text?
    description := ← row.optional "description" Cell.json?
    plainDescription := ← row.required "description_plaintext" Cell.text? }

structure VariantRow where
  id : Uuid
  product : Uuid
  sku : Option String
  name : String

def VariantRow.ofRow (row : Row) : Except Fault VariantRow := do
  return {
    id := ← row.required "id" Cell.uuid?
    product := ← row.required "product_id" Cell.uuid?
    sku := ← row.optional "sku" Cell.text?
    name := ← row.required "name" Cell.text? }

/-- What the rows of the four queries say. -/
structure Found where
  products : List ProductRow
  variants : List VariantRow
  productAttributes : List AssignmentRow
  variantAttributes : List AssignmentRow

namespace Found

/-- A variant with the attributes that it owns. -/
def variantOf (f : Found) (v : VariantRow) : ProductVariant :=
  ⟨v.id, v.sku, v.name, assignedTo f.variantAttributes v.id⟩

/-- A product with the attributes and the variants that it owns. -/
def productOf (f : Found) (p : ProductRow) : Product :=
  ⟨p.id, p.name, p.description, p.plainDescription, assignedTo f.productAttributes p.id,
    (f.variants.filter (·.product = p.id)).map f.variantOf⟩

/-- What the primary keys and the order of the rows give. -/
structure Keyed (f : Found) : Prop where
  products : (f.products.map (·.id)).Nodup
  variants : (f.variants.map (·.id)).Nodup
  productAttributes : Ordered f.productAttributes
  variantAttributes : Ordered f.variantAttributes

instance (f : Found) : Decidable f.Keyed :=
  decidable_of_iff (_ ∧ _ ∧ _ ∧ _) ⟨fun h => ⟨h.1, h.2.1, h.2.2.1, h.2.2.2⟩,
    fun h => ⟨h.products, h.variants, h.productAttributes, h.variantAttributes⟩⟩

/-- What is found of one product alone. -/
def only (f : Found) (id : Uuid) : Found :=
  let variants := f.variants.filter (·.product = id)
  { products := f.products.filter (·.id = id)
    variants
    productAttributes := f.productAttributes.filter (·.owner = id)
    variantAttributes := f.variantAttributes.filter fun x => variants.any (x.owner = ·.id) }

end Found

/-- The replies to the four queries. -/
structure Replies where
  products : Outcome
  variants : Outcome
  productAttributes : Outcome
  variantAttributes : Outcome

/-- Whether a column holds an id. -/
def Row.holds (row : Row) (column : String) (id : Uuid) : Bool :=
  row.required column Cell.uuid? = .ok id

/-- Keeps some of the rows of a reply. -/
def Outcome.keep (o : Outcome) (kept : Row → Bool) : Outcome := { o with rows := o.rows.filter kept }

namespace Replies

/-- The four queries with these replies. -/
def exchanges (r : Replies) (ids : List Uuid) : List session.Exchange := [
  executed (selectProducts ids) (.ok r.products),
  executed (selectVariants ids) (.ok r.variants),
  executed (selectProductAttributes ids) (.ok r.productAttributes),
  executed (selectVariantAttributes ids) (.ok r.variantAttributes)]

/-- Every row decodes. -/
structure Decodes (r : Replies) (f : Found) : Prop where
  products : r.products.rows.mapM ProductRow.ofRow = .ok f.products
  variants : r.variants.rows.mapM VariantRow.ofRow = .ok f.variants
  productAttributes : r.productAttributes.rows.mapM AssignmentRow.ofRow = .ok f.productAttributes
  variantAttributes : r.variantAttributes.rows.mapM AssignmentRow.ofRow = .ok f.variantAttributes

/-- The rows of one product alone. -/
def only (r : Replies) (id : Uuid) : Replies :=
  let variants := r.variants.keep (·.holds "product_id" id)
  { products := r.products.keep (·.holds "id" id)
    variants
    productAttributes := r.productAttributes.keep (·.holds "owner_id" id)
    variantAttributes := r.variantAttributes.keep fun row =>
      variants.rows.any fun v => (v.required "id" Cell.uuid?).toOption.any (row.holds "owner_id") }

end Replies

variable {row : Row} {rows : List Row} {attributes : ByOwner AssignedAttribute}
  {variants : ByOwner ProductVariant}

theorem ProductRow.ofRow_ok {p : ProductRow} (h : ofRow row = .ok p) :
    row.required "id" Cell.uuid? = .ok p.id ∧ row.required "name" Cell.text? = .ok p.name ∧
      row.optional "description" Cell.json? = .ok p.description ∧
      row.required "description_plaintext" Cell.text? = .ok p.plainDescription := by
  obtain ⟨id, hid, hrest⟩ := Result.bind_ok h
  obtain ⟨name, hname, hrest⟩ := Result.bind_ok hrest
  obtain ⟨description, hdescription, hrest⟩ := Result.bind_ok hrest
  obtain ⟨plain, hplain, hrest⟩ := Result.bind_ok hrest
  obtain rfl := Except.ok.inj hrest
  exact ⟨hid, hname, hdescription, hplain⟩

theorem VariantRow.ofRow_ok {v : VariantRow} (h : ofRow row = .ok v) :
    row.required "id" Cell.uuid? = .ok v.id ∧
      row.required "product_id" Cell.uuid? = .ok v.product ∧
      row.optional "sku" Cell.text? = .ok v.sku ∧ row.required "name" Cell.text? = .ok v.name := by
  obtain ⟨id, hid, hrest⟩ := Result.bind_ok h
  obtain ⟨product, hproduct, hrest⟩ := Result.bind_ok hrest
  obtain ⟨sku, hsku, hrest⟩ := Result.bind_ok hrest
  obtain ⟨name, hname, hrest⟩ := Result.bind_ok hrest
  obtain rfl := Except.ok.inj hrest
  exact ⟨hid, hproduct, hsku, hname⟩

/-- Among rows with other ids nobody misses what an id has been given. -/
theorem ByOwner.set_other {α : Type} {m : ByOwner α} {owner id : Uuid} {items : List α}
    (h : id ≠ owner) : m.set owner items id = m id := if_neg h

theorem variantsOfRows_eq {vs : List VariantRow}
    (hrows : List.Forall₂ (fun row v => VariantRow.ofRow row = .ok v) rows vs)
    (hdistinct : (vs.map (·.id)).Nodup) :
    variantsOfRows attributes variants rows = .ok fun owner => variants owner ++
      (vs.filter (·.product = owner)).map fun v => ⟨v.id, v.sku, v.name, attributes v.id⟩ := by
  induction hrows generalizing attributes variants with
  | nil => simp [variantsOfRows]
  | @cons row v rows vs hrow _ ih =>
    obtain ⟨hid, hproduct, hsku, hname⟩ := VariantRow.ofRow_ok hrow
    rw [List.map_cons, List.nodup_cons] at hdistinct
    have hothers : ∀ w ∈ vs, attributes.set v.id [] w.id = attributes w.id :=
      fun w hw => ByOwner.set_other fun heq => hdistinct.1 (heq ▸ List.mem_map_of_mem hw)
    simp only [variantsOfRows, hid, hproduct, hsku, hname, bind, Except.bind, ih hdistinct.2]
    congr 1
    funext owner
    have hrest : (vs.filter (·.product = owner)).map (fun w => (⟨w.id, w.sku, w.name,
        attributes.set v.id [] w.id⟩ : ProductVariant)) =
          (vs.filter (·.product = owner)).map fun w => ⟨w.id, w.sku, w.name, attributes w.id⟩ :=
      List.map_congr_left fun w hw => by rw [hothers w (List.mem_of_mem_filter hw)]
    rw [hrest]
    by_cases howner : owner = v.product
    · simp [ByOwner.set, howner]
    · simp [ByOwner.set, howner, Ne.symm howner]

theorem productsOfRows_eq {ps : List ProductRow}
    (hrows : List.Forall₂ (fun row p => ProductRow.ofRow row = .ok p) rows ps)
    (hdistinct : (ps.map (·.id)).Nodup) :
    productsOfRows attributes variants rows = .ok (ps.map fun p =>
      ⟨p.id, p.name, p.description, p.plainDescription, attributes p.id, variants p.id⟩) := by
  induction hrows generalizing attributes variants with
  | nil => rfl
  | @cons row p rows ps hrow _ ih =>
    obtain ⟨hid, hname, hdescription, hplain⟩ := ProductRow.ofRow_ok hrow
    rw [List.map_cons, List.nodup_cons] at hdistinct
    have hothers : ∀ q ∈ ps, q.id ≠ p.id :=
      fun q hq heq => hdistinct.1 (heq ▸ List.mem_map_of_mem hq)
    simp only [productsOfRows, hid, hname, hdescription, hplain, bind, Except.bind,
      ih hdistinct.2]
    have hrest : (ps.map fun q => (⟨q.id, q.name, q.description, q.plainDescription,
        attributes.set p.id [] q.id, variants.set p.id [] q.id⟩ : Product)) =
          ps.map fun q => ⟨q.id, q.name, q.description, q.plainDescription, attributes q.id,
            variants q.id⟩ :=
      List.map_congr_left fun q hq => by
        rw [ByOwner.set_other (hothers q hq), ByOwner.set_other (hothers q hq)]
    rw [hrest]
    rfl

theorem fetchAll_passes (s : Statement) (o : Outcome) :
    (fetchAll s).Passes [executed s (.ok o)] (.ok o.rows) :=
  Program.Passes.call (I := session) (c := .execute s) (Except.ok o : Except String Outcome)
    (.done _)

theorem context_passes {α : Type} {doing : String} {t : Task session α}
    {es : List session.Exchange} {x : α} (h : t.Passes es (.ok x)) :
    (t.context doing).Passes es (.ok x) := by
  rw [← List.append_nil es]
  exact Program.Passes.bind h (.done _)

theorem loadAttributes_passes (s : Statement) {o : Outcome}
    (h : Assignments.ofRows o.rows = .ok attributes) :
    (loadAttributes s).Passes [executed s (.ok o)] (.ok attributes) := by
  refine Task.Passes.bind (fetchAll_passes s o) ?_
  rw [h]
  exact .done _

/-- Every product is put together from what was found of it. -/
theorem Replies.Decodes.loads {r : Replies} {f : Found} (h : r.Decodes f) (keyed : f.Keyed)
    (ids : List Uuid) :
    (loadProducts ids).Passes (r.exchanges ids) (.ok (f.products.map f.productOf)) := by
  have hproductAttributes :=
    Assignments.ofRows_eq h.productAttributes keyed.productAttributes
  have hvariantAttributes :=
    Assignments.ofRows_eq h.variantAttributes keyed.variantAttributes
  refine Task.Passes.bind (context_passes (fetchAll_passes (selectProducts ids) r.products)) ?_
  refine Task.Passes.bind (context_passes (fetchAll_passes (selectVariants ids) r.variants)) ?_
  refine Task.Passes.bind
    (loadAttributes_passes (selectProductAttributes ids) hproductAttributes) ?_
  refine Task.Passes.bind
    (loadAttributes_passes (selectVariantAttributes ids) hvariantAttributes) ?_
  rw [variantsOfRows_eq (Result.forall₂_of_mapM h.variants) keyed.variants]
  refine Task.Passes.bind (.done _) ?_
  rw [productsOfRows_eq (Result.forall₂_of_mapM h.products) keyed.products]
  exact .done _

theorem Row.holds_eq {column : String} {id : Uuid}
    (h : row.required column Cell.uuid? = .ok id) : row.holds column = (decide <| id = ·) := by
  funext id'
  simp [Row.holds, h]

theorem Found.Keyed.only {f : Found} (keyed : f.Keyed) (id : Uuid) : (f.only id).Keyed where
  products := keyed.products.sublist (List.filter_sublist.map _)
  variants := keyed.variants.sublist (List.filter_sublist.map _)
  productAttributes := keyed.productAttributes.of_sublist List.filter_sublist
  variantAttributes := keyed.variantAttributes.of_sublist List.filter_sublist

theorem Replies.Decodes.only {r : Replies} {f : Found} (h : r.Decodes f) (id : Uuid) :
    (r.only id).Decodes (f.only id) := by
  have hvariants : (r.only id).variants.rows.mapM VariantRow.ofRow = .ok (f.only id).variants :=
    Result.mapM_filter (fun row v hrow => by
      rw [Row.holds_eq (VariantRow.ofRow_ok hrow).2.1]) h.variants
  refine ⟨?_, hvariants, ?_, ?_⟩
  · refine Result.mapM_filter (fun row p hrow => ?_) h.products
    rw [Row.holds_eq (ProductRow.ofRow_ok hrow).1]
  · refine Result.mapM_filter (fun row x hrow => ?_) h.productAttributes
    rw [Row.holds_eq (AssignmentRow.ofRow_ok hrow).2.1]
  · refine Result.mapM_filter (fun row x hrow => ?_) h.variantAttributes
    refine Result.any_eq_of_mapM (fun row' v hrow' => ?_) hvariants
    rw [Row.holds_eq (AssignmentRow.ofRow_ok hrow).2.1, (VariantRow.ofRow_ok hrow').1]
    exact Option.any_some

/-- Of rows with distinct ids one alone has the id of a given one. -/
theorem filter_id {ps : List ProductRow} (hdistinct : (ps.map (·.id)).Nodup) {p : ProductRow}
    (h : p ∈ ps) : ps.filter (·.id = p.id) = [p] := by
  induction ps with
  | nil => cases h
  | cons q ps ih =>
    rw [List.map_cons, List.nodup_cons] at hdistinct
    rcases List.mem_cons.mp h with rfl | hp
    · have hrest : ps.filter (·.id = p.id) = [] := by
        rw [List.filter_eq_nil_iff]
        intro q hq heq
        exact hdistinct.1 (List.mem_map.mpr ⟨q, hq, by simpa using heq⟩)
      rw [List.filter_cons_of_pos (by simp), hrest]
    · have hother : q.id ≠ p.id := fun heq => hdistinct.1 (heq ▸ List.mem_map_of_mem hp)
      rw [List.filter_cons_of_neg (by simpa using hother), ih hdistinct.2 hp]

theorem Found.productOf_only (f : Found) (p : ProductRow) :
    (f.only p.id).productOf p = f.productOf p := by
  have hattributes : assignedTo (f.productAttributes.filter (·.owner = p.id)) p.id =
      assignedTo f.productAttributes p.id := by simp [assignedTo]
  have hown : (f.variants.filter (·.product = p.id)).filter (·.product = p.id) =
      f.variants.filter (·.product = p.id) := by simp
  have hvariants : ∀ v ∈ f.variants.filter (·.product = p.id),
      (f.only p.id).variantOf v = f.variantOf v := by
    intro v hv
    have hrows : (f.variantAttributes.filter fun x =>
        (f.variants.filter (·.product = p.id)).any (x.owner = ·.id)).filter (·.owner = v.id) =
          f.variantAttributes.filter (·.owner = v.id) := by
      rw [List.filter_filter]
      refine List.filter_congr fun x _ => ?_
      by_cases howner : x.owner = v.id
      · have hany : (f.variants.filter (·.product = p.id)).any (x.owner = ·.id) = true :=
          List.any_eq_true.mpr ⟨v, hv, by simp [howner]⟩
        rw [hany, Bool.and_true]
      · simp [howner]
    simp only [variantOf, Found.only, assignedTo, hrows]
  simp only [productOf]
  rw [show (f.only p.id).variants = f.variants.filter (·.product = p.id) from rfl, hown,
    List.map_congr_left hvariants,
    show (f.only p.id).productAttributes = f.productAttributes.filter (·.owner = p.id) from rfl,
    hattributes]

theorem Found.only_products {f : Found} (keyed : f.Keyed) {p : ProductRow}
    (h : p ∈ f.products) :
    (f.only p.id).products.map (f.only p.id).productOf = [f.productOf p] := by
  have hrow : (f.only p.id).products = [p] := filter_id keyed.products h
  rw [hrow, List.map_singleton, f.productOf_only p]

/-- Each product row becomes a product with the attributes and the variants that it owns, none of
them lost or given twice. Loaded from its own rows it is the same product. -/
theorem products_loaded_from_own_rows (ids : List Uuid) {r : Replies} {f : Found}
    (decodes : r.Decodes f) (keyed : f.Keyed) :
    (loadProducts ids).Passes (r.exchanges ids) (.ok (f.products.map f.productOf)) ∧
    ∀ p ∈ f.products,
      OwnsAll f.productAttributes p.id (f.productOf p).attributes ∧
      (∀ v ∈ (f.productOf p).variants, OwnsAll f.variantAttributes v.id v.attributes) ∧
      ∀ ids', (loadProducts ids').Passes ((r.only p.id).exchanges ids') (.ok [f.productOf p]) := by
  refine ⟨decodes.loads keyed ids, fun p hp => ⟨?_, ?_, fun ids' => ?_⟩⟩
  · exact keyed.productAttributes.ownsAll p.id
  · intro v hv
    obtain ⟨row, -, rfl⟩ := List.mem_map.mp hv
    exact keyed.variantAttributes.ownsAll row.id
  · rw [← Found.only_products keyed hp]
    exact (decodes.only p.id).loads (keyed.only p.id) ids'

namespace Sample

def colorCells (id : Nat) : Row :=
  [("attribute_id", .uuid (.ofNat id)), ("attribute_slug", .text "color"),
    ("attribute_name", .text "Color"), ("input_type", .text "dropdown"), ("unit", .null)]

/-- A row of an assignment; the values have names of their own. -/
def assignmentCells (assignment owner color : Nat) (value : Option (Nat × String)) : Row :=
  ("assignment_id", .uuid (.ofNat assignment)) :: ("owner_id", .uuid (.ofNat owner)) ::
    colorCells color ++ match value with
      | some (id, name) =>
        [("value_id", .uuid (.ofNat id)), ("value_name", .text name), ("value_slug", .text name),
          ("rich_text", .null), ("date_time", .null)]
      | none => [("value_id", .null)]

def productCells (id : Nat) : Row :=
  [("id", .uuid (.ofNat id)), ("name", .text "Tee"), ("description", .null),
    ("description_plaintext", .text "")]

def variantCells (id product : Nat) : Row :=
  [("id", .uuid (.ofNat id)), ("product_id", .uuid (.ofNat product)), ("sku", .null),
    ("name", .text "Small")]

/-- Two products, of which the first has two variants. Rows of the two take turns; an assignment of
the first product has two values, one of the second has none. -/
def replies : Replies where
  products := ⟨[productCells 1, productCells 2], 0⟩
  variants := ⟨[variantCells 11 1, variantCells 12 1], 0⟩
  productAttributes := ⟨[assignmentCells 21 1 31 (some (41, "red")),
    assignmentCells 21 1 31 (some (42, "blue")), assignmentCells 22 2 32 none,
    assignmentCells 23 1 33 (some (41, "red"))], 0⟩
  variantAttributes := ⟨[assignmentCells 24 12 31 (some (43, "green"))], 0⟩

def color (id : Nat) : Attribute := ⟨.ofNat id, "color", "Color", .dropdown, none⟩

def value (id : Nat) (name : String) : AttributeValue := ⟨.ofNat id, name, name, none, none⟩

def found : Found where
  products := [⟨.ofNat 1, "Tee", none, ""⟩, ⟨.ofNat 2, "Tee", none, ""⟩]
  variants := [⟨.ofNat 11, .ofNat 1, none, "Small"⟩, ⟨.ofNat 12, .ofNat 1, none, "Small"⟩]
  productAttributes := [⟨.ofNat 21, .ofNat 1, color 31, some (value 41 "red")⟩,
    ⟨.ofNat 21, .ofNat 1, color 31, some (value 42 "blue")⟩,
    ⟨.ofNat 22, .ofNat 2, color 32, none⟩,
    ⟨.ofNat 23, .ofNat 1, color 33, some (value 41 "red")⟩]
  variantAttributes := [⟨.ofNat 24, .ofNat 12, color 31, some (value 43 "green")⟩]

/-- The first product, with both variants. -/
def first : Product where
  id := .ofNat 1
  name := "Tee"
  description := none
  plainDescription := ""
  attributes := [⟨color 31, [value 41 "red", value 42 "blue"]⟩,
    ⟨color 33, [value 41 "red"]⟩]
  variants := [⟨.ofNat 11, none, "Small", []⟩,
    ⟨.ofNat 12, none, "Small", [⟨color 31, [value 43 "green"]⟩]⟩]

def second : Product := ⟨.ofNat 2, "Tee", none, "", [⟨color 32, []⟩], []⟩

end Sample

open Sample

theorem products_loaded_from_own_rows_interleaved :
    replies.Decodes found ∧ found.Keyed ∧
    (loadProducts [.ofNat 1, .ofNat 2]).Passes (replies.exchanges [.ofNat 1, .ofNat 2])
      (.ok [first, second]) ∧
    (loadProducts [.ofNat 1]).Passes ((replies.only (.ofNat 1)).exchanges [.ofNat 1])
      (.ok [first]) := by
  have decodes : replies.Decodes found := ⟨rfl, rfl, rfl, rfl⟩
  have keyed : found.Keyed := by decide
  obtain ⟨hall, hown⟩ := products_loaded_from_own_rows [.ofNat 1, .ofNat 2] decodes keyed
  obtain ⟨-, -, halone⟩ := hown ⟨.ofNat 1, "Tee", none, ""⟩ List.mem_cons_self
  exact ⟨decodes, keyed, hall, halone [.ofNat 1]⟩

end ShopRelay.Database
