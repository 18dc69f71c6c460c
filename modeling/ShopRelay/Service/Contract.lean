import ShopRelay.Delivery
import ShopRelay.Text.Blank

/-!
What clients of the service and its own parts send each other: requests with their checks, answers,
and the message that schedules a delivery.
-/

namespace ShopRelay.Service

open Json

/-- The channel of the bus on which deliveries are announced. -/
def deliveriesChannel : String := "webhooks.deliveries"

structure TriggerRequest where
  eventType : String
  payload : Value

def TriggerRequest.blankMessage : String := "event_type is required"

/-- The trimmed event type, unless it is blank. -/
def TriggerRequest.eventType? (r : TriggerRequest) : Option String :=
  let trimmed := Text.trim r.eventType
  if trimmed.isEmpty then none else some trimmed

structure TriggerAnswer where
  payloadId : Uuid
  deliveryIds : List Uuid

/-- Tells the dispatcher that a delivery is ready to be sent. -/
structure ScheduledDelivery where
  deliveryId : Uuid
  eventType : String
deriving DecidableEq

def ScheduledDelivery.ofDelivery (d : Delivery) : ScheduledDelivery := ⟨d.id, d.eventType⟩

structure DeliveryDetail where
  delivery : Delivery
  attempts : List Attempt

structure SearchQuery where
  text : Option String
  limit : Option Int

namespace SearchQuery

def standardLimit : Int := 20

def maxLimit : Int := 100

/-- The trimmed text; none asks for nothing. -/
def words (q : SearchQuery) : String := Text.trim (q.text.getD "")

/-- The limit brought into the range from one to the greatest limit. -/
def hitLimit (q : SearchQuery) : Int := min (max (q.limit.getD standardLimit) 1) maxLimit

end SearchQuery

structure SearchHit where
  productId : Uuid
  name : String
  rank : Option Number.Single

structure SearchAnswer where
  hits : List SearchHit

structure ReindexRequest where
  productIds : List Uuid

namespace ReindexRequest

def maxBatch : Nat := 500

def isAllowed (r : ReindexRequest) : Bool := r.productIds.length ≤ maxBatch

def tooLargeMessage : String := "at most 500 products can be reindexed at once"

end ReindexRequest

structure ReindexAnswer where
  updated : Nat

def TriggerRequest.codec : Codec TriggerRequest :=
  ((Record.member "event_type" .text).and <| Record.standard "payload" .value .null).as
    (fun (eventType, payload) => ⟨eventType, payload⟩) (fun r => (r.eventType, r.payload)) |>.codec

def TriggerAnswer.codec : Codec TriggerAnswer :=
  ((Record.member "payload_id" .uuid).and <| Record.member "delivery_ids" (.list .uuid)).as
    (fun (payloadId, deliveryIds) => ⟨payloadId, deliveryIds⟩)
    (fun a => (a.payloadId, a.deliveryIds)) |>.codec

def ScheduledDelivery.codec : Codec ScheduledDelivery :=
  ((Record.member "delivery_id" .uuid).and <| Record.member "event_type" .text).as
    (fun (deliveryId, eventType) => ⟨deliveryId, eventType⟩)
    (fun s => (s.deliveryId, s.eventType)) |>.codec

def DeliveryDetail.codec : Codec DeliveryDetail :=
  ((Record.member "delivery" Delivery.codec).and <|
    Record.member "attempts" (.list Attempt.codec)).as
    (fun (delivery, attempts) => ⟨delivery, attempts⟩) (fun d => (d.delivery, d.attempts)) |>.codec

def SearchQuery.codec : Codec SearchQuery :=
  ((Record.optional "q" .text).and <| Record.optional "limit" .int64).as
    (fun (text, limit) => ⟨text, limit⟩) (fun q => (q.text, q.limit)) |>.codec

def SearchHit.codec : Codec SearchHit :=
  ((Record.member "product_id" .uuid).and <| (Record.member "name" .text).and <|
    Record.optional "search_rank" .single).as
    (fun (productId, name, rank) => ⟨productId, name, rank⟩)
    (fun h => (h.productId, h.name, h.rank)) |>.codec

def SearchAnswer.codec : Codec SearchAnswer :=
  (Record.member "hits" (.list SearchHit.codec)).as SearchAnswer.mk SearchAnswer.hits |>.codec

def ReindexRequest.codec : Codec ReindexRequest :=
  (Record.member "product_ids" (.list .uuid)).as ReindexRequest.mk ReindexRequest.productIds
    |>.codec

def ReindexAnswer.codec : Codec ReindexAnswer :=
  (Record.member "updated" (.natBelow UInt64.size)).as ReindexAnswer.mk ReindexAnswer.updated
    |>.codec

/-- The messages that announce some deliveries, each with the id of its delivery, in order. -/
def scheduledMessages (deliveries : List Delivery) : List (Uuid × String) :=
  deliveries.map fun d => (d.id, ScheduledDelivery.codec.print (.ofDelivery d))

end ShopRelay.Service
