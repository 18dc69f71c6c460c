import ShopRelay.Search.Document
import ShopRelay.Search.Vector
import ShopRelay.Task

/-!
Reindexing: the products asked for are loaded at once, and the search index of each is computed and
saved in turn. The first fault ends the run.
-/

namespace ShopRelay.Search

/-- What is saved for a product. -/
structure IndexEntry where
  productId : Uuid
  document : String
  vector : Vector

inductive IndexCall where
  | load (ids : List Uuid)
  | save (entry : IndexEntry)

def IndexCall.Answer : IndexCall → Type
  | .load _ => List Product
  | .save _ => Unit

def indexStore : Interface := faultyCalls IndexCall IndexCall.Answer

def askIndex (c : IndexCall) : Task indexStore c.Answer := Program.ask indexStore c

def indexEntry (p : Product) : IndexEntry := ⟨p.id, productDocument p, productVector p⟩

/-- Saves the entries of some products; the result is how many there are. -/
def saveAll : List Product → Task indexStore Nat
  | [] => .done 0
  | p :: rest => do
    askIndex (.save (indexEntry p))
    let saved ← saveAll rest
    return saved + 1

/-- The number of products found and saved; nothing is asked when no product is. -/
def reindex (ids : List Uuid) : Task indexStore Nat :=
  if ids.isEmpty then .done 0
  else do
    let products ← askIndex (.load ids)
    saveAll products

/-- Whether the product was found. -/
def reindexOne (id : Uuid) : Task indexStore Bool := do
  let updated ← reindex [id]
  return 0 < updated

/-- An index kept in memory, which may refuse to load or to save a product. -/
structure MemoryIndex where
  products : List Product
  entries : List IndexEntry
  refusesLoad : Bool
  refusesSaveOf : Option Uuid

/-- The products asked for are found in the order in which they are kept. -/
def MemoryIndex.reply :
    (c : IndexCall) → MemoryIndex → Except Fault c.Answer × MemoryIndex
  | .load ids, index =>
    if index.refusesLoad then (.error .loadFailed, index)
    else (.ok (index.products.filter (ids.contains ·.id)), index)
  | .save entry, index =>
    if index.refusesSaveOf = some entry.productId then (.error .saveFailed, index)
    else (.ok (), { index with entries := index.entries ++ [entry] })

end ShopRelay.Search
