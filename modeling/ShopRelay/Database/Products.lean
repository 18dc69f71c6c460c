import ShopRelay.Database.Grouping
import ShopRelay.Search.Indexing
import ShopRelay.Service.Contract
import ShopRelay.Text.Blank

/-!
Products in the database: loading them for the search index, saving the index, and searching it.
-/

namespace ShopRelay.Database

open Search (IndexCall IndexEntry)
open Service (SearchHit)

def selectProducts (ids : List Uuid) : Statement :=
  ⟨"SELECT id, name, description, COALESCE(description_plaintext, '') AS description_plaintext " ++
    "FROM product WHERE id = ANY($1) ORDER BY id", [.uuids ids]⟩

def selectVariants (productIds : List Uuid) : Statement :=
  ⟨"SELECT id, product_id, sku, name FROM product_variant WHERE product_id = ANY($1) " ++
    "ORDER BY product_id, sort_order NULLS LAST, id", [.uuids productIds]⟩

def attributeColumns : String :=
  "a.id AS attribute_id, a.slug AS attribute_slug, a.name AS attribute_name, a.input_type, " ++
  "a.unit, av.id AS value_id, av.name AS value_name, av.slug AS value_slug, av.rich_text, " ++
  "av.date_time"

def selectProductAttributes (productIds : List Uuid) : Statement :=
  ⟨"SELECT apa.id AS assignment_id, apa.product_id AS owner_id, " ++ attributeColumns ++
    " FROM assigned_product_attribute apa JOIN attribute a ON a.id = apa.attribute_id " ++
    "LEFT JOIN assigned_product_attribute_value apav ON apav.assignment_id = apa.id " ++
    "LEFT JOIN attribute_value av ON av.id = apav.value_id WHERE apa.product_id = ANY($1) " ++
    "ORDER BY apa.product_id, apa.sort_order NULLS LAST, apa.id, " ++
    "apav.sort_order NULLS LAST, av.id", [.uuids productIds]⟩

def selectVariantAttributes (productIds : List Uuid) : Statement :=
  ⟨"SELECT ava.id AS assignment_id, ava.variant_id AS owner_id, " ++ attributeColumns ++
    " FROM assigned_variant_attribute ava JOIN product_variant v ON v.id = ava.variant_id " ++
    "JOIN attribute a ON a.id = ava.attribute_id " ++
    "LEFT JOIN assigned_variant_attribute_value avav ON avav.assignment_id = ava.id " ++
    "LEFT JOIN attribute_value av ON av.id = avav.value_id WHERE v.product_id = ANY($1) " ++
    "ORDER BY ava.variant_id, ava.sort_order NULLS LAST, ava.id, " ++
    "avav.sort_order NULLS LAST, av.id", [.uuids productIds]⟩

def loadAttributes (s : Statement) : Task session (ByOwner AssignedAttribute) := do
  let rows ← fetchAll s
  Task.ofExcept (Assignments.ofRows rows)

/-- The products with the given ids, in the order of their rows. -/
def loadProducts (ids : List Uuid) : Task session (List Product) := do
  let productRows ← Task.context "failed to load products for indexing"
    (fetchAll (selectProducts ids))
  let variantRows ← Task.context "failed to load product variants for indexing"
    (fetchAll (selectVariants ids))
  let productAttributes ← loadAttributes (selectProductAttributes ids)
  let variantAttributes ← loadAttributes (selectVariantAttributes ids)
  let variants ← Task.ofExcept (variantsOfRows variantAttributes .empty variantRows)
  Task.ofExcept (productsOfRows productAttributes variants productRows)

def termPieces (config : String) (t : Search.Term) : List Piece := [
  .sql "setweight(to_tsvector(", .parameter (.text config), .sql "::regconfig, ",
  .parameter (.text t.text), .sql ("), '" ++ t.weight.name ++ "')")]

/-- The expression for a search vector: its weighted terms, concatenated. -/
def vectorPieces (config : String) (v : Search.Vector) : List Piece :=
  if v.isEmpty then [.sql "''::tsvector"]
  else [Piece.sql " || "].intercalate (v.terms.map (termPieces config))

def updateSearchIndex (config : String) (entry : IndexEntry) : Statement :=
  .ofPieces ([.sql "UPDATE product SET search_document = ", .parameter (.text entry.document),
      .sql ", search_vector = "] ++
    vectorPieces config entry.vector ++
    [.sql ", updated_at = NOW() WHERE id = ", .parameter (.uuid entry.productId)])

/-- How the search index is kept in the database. -/
def indexCall (config : String) : (c : IndexCall) → Task session c.Answer
  | .load ids => loadProducts ids
  | .save entry => do
    let _ ← execute (updateSearchIndex config entry)

/-- A task on the search index as one on the database. -/
def onIndex {α : Type} (config : String) (t : Task Search.indexStore α) : Task session α :=
  Program.translate (indexCall config) t

def selectByName (limit : Int) : Statement :=
  ⟨"SELECT id, name, NULL::real AS search_rank FROM product ORDER BY name, id LIMIT $1",
    [.int limit]⟩

def selectByRank (config words : String) (limit : Int) : Statement :=
  ⟨"SELECT id, name, ts_rank(search_vector, websearch_to_tsquery($1::regconfig, $2)) " ++
    "AS search_rank FROM product WHERE search_vector @@ websearch_to_tsquery($1::regconfig, $2) " ++
    "ORDER BY search_rank DESC, name, id LIMIT $3", [.text config, .text words, .int limit]⟩

def hitOfRow (row : Row) : Except Fault SearchHit := do
  return {
    productId := ← row.required "id" Cell.uuid?
    name := ← row.required "name" Cell.text?
    rank := ← row.optional "search_rank" Cell.single? }

/-- The products that match best; without a word, all of them by name. -/
def searchProducts (config text : String) (limit : Int) : Task session (List SearchHit) :=
  let words := Text.trim text
  readAll (if words.isEmpty then selectByName limit else selectByRank config words limit) hitOfRow

end ShopRelay.Database
