import ShopRelay.Database.Deliveries
import ShopRelay.Database.Products
import ShopRelay.Http.Form
import ShopRelay.Service.Bus
import ShopRelay.Tracker.Dispatch

/-!
The handlers of the gateway. Each one answers a request with a status and a document, or with a
status and a text that says what went wrong.
-/

namespace ShopRelay.Service

open Tracker (Fresh)

inductive Response (α : Type) where
  | document (status : Nat) (x : α)
  | problem (status : Nat) (text : String)

/-- What the gateway asks: the database and the bus. -/
def gateway : Interface := Database.session.sum bus

abbrev Handler (α : Type) := Program gateway (Response α)

def alive : String := "ok"

/-- Answers with what a task yields; a fault is shown by its outermost text. -/
def respond {α : Type} (status : Nat) (t : Task gateway α) : Handler α :=
  Program.bind t fun
    | .ok x => .done (.document status x)
    | .error e => .done (.problem 500 e.outermost)

/-- Records an event with its deliveries, then announces them. -/
def recordEvent (fresh : Fresh) (eventType : String) (payload : Json.Value) :
    Task gateway TriggerAnswer := do
  let (payload, deliveries) ←
    Task.left (Database.onDatabase (Tracker.triggerEvent fresh eventType payload))
  Task.right (schedule deliveries)
  return ⟨payload.id, deliveries.map (·.id)⟩

def createEvent (fresh : Fresh) (r : TriggerRequest) : Handler TriggerAnswer :=
  match r.eventType? with
  | none => .done (.problem 400 TriggerRequest.blankMessage)
  | some eventType => respond 201 (recordEvent fresh eventType r.payload)

/-- A delivery with its attempts. -/
def findDelivery (id : Uuid) : Task gateway (Option DeliveryDetail) :=
  Task.left <| Database.onDatabase do
    match ← Tracker.store (.delivery id) with
    | none => return none
    | some delivery => return some ⟨delivery, ← Tracker.store (.attempts id)⟩

def getDelivery (id : Uuid) : Handler DeliveryDetail :=
  Program.bind (findDelivery id) fun
    | .ok (some detail) => .done (.document 200 detail)
    | .ok none => .done (.problem 404 (Fault.deliveryMissing id).outermost)
    | .error e => .done (.problem 500 e.outermost)

/-- Reads the query of an address; members of other names do not count, and no member may be given
twice. -/
def SearchQuery.ofForm? (query : String) : Option SearchQuery := do
  let members := (Http.readForm query).filter fun m => m.1 == "q" || m.1 == "limit"
  guard (members.map Prod.fst).Nodup
  match List.lookup "limit" members with
  | none => return ⟨List.lookup "q" members, none⟩
  | some limit => return ⟨List.lookup "q" members, some (← Text.readInt64? limit)⟩

def searchProducts (config : String) (q : SearchQuery) : Handler SearchAnswer :=
  respond 200 <| Task.left do
    return ⟨← Database.searchProducts config q.words q.hitLimit⟩

def reindexProducts (config : String) (r : ReindexRequest) : Handler ReindexAnswer :=
  if r.isAllowed then
    respond 200 <| Task.left do
      return ⟨← Database.onIndex config (Search.reindex r.productIds)⟩
  else .done (.problem 400 ReindexRequest.tooLargeMessage)

end ShopRelay.Service
