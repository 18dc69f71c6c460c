import ShopRelay.Delivery
import ShopRelay.Task
import ShopRelay.Webhook

/-!
The calls by which events are recorded and delivered: those on the store of payloads, deliveries
and attempts, and the sending of a payload to a webhook.
-/

namespace ShopRelay.Tracker

inductive StoreCall where
  | insertPayload (payload : Payload)
  | payload (id : Uuid)
  | webhooksForEvent (eventType : String)
  | webhook (id : Uuid)
  | insertDeliveries (deliveries : List Delivery)
  | insertEvent (payload : Payload) (deliveries : List Delivery)
  | delivery (id : Uuid)
  | saveDeliveryStatus (id : Uuid) (status : DeliveryStatus)
  | deleteDelivery (id : Uuid)
  | insertAttempt (attempt : Attempt)
  | saveAttemptOutcome (attempt : Attempt)
  | attempts (deliveryId : Uuid)

namespace StoreCall

abbrev Answer : StoreCall → Type
  | .insertPayload _ => Payload
  | .payload _ => Option Payload
  | .webhooksForEvent _ => List Webhook
  | .webhook _ => Option Webhook
  | .insertDeliveries _ => List Delivery
  | .insertEvent _ _ => Payload × List Delivery
  | .delivery _ => Option Delivery
  | .saveDeliveryStatus _ _ => Unit
  | .deleteDelivery _ => Unit
  | .insertAttempt _ => Attempt
  | .saveAttemptOutcome _ => Unit
  | .attempts _ => List Attempt

def name : StoreCall → String
  | .insertPayload _ => "insert_payload"
  | .payload _ => "payload"
  | .webhooksForEvent _ => "webhooks_for_event"
  | .webhook _ => "webhook"
  | .insertDeliveries _ => "insert_deliveries"
  | .insertEvent _ _ => "insert_event"
  | .delivery _ => "delivery"
  | .saveDeliveryStatus _ _ => "save_delivery_status"
  | .deleteDelivery _ => "delete_delivery"
  | .insertAttempt _ => "insert_attempt"
  | .saveAttemptOutcome _ => "save_attempt_outcome"
  | .attempts _ => "attempts"

end StoreCall

/-- A payload on its way to a webhook. -/
structure Sending where
  webhook : Webhook
  eventType : String
  payload : Payload
deriving DecidableEq

/-- The store; each call may be replied with a fault. -/
abbrev storage : Interface := faultyCalls StoreCall StoreCall.Answer

/-- The way to the targets; sending always yields a report. -/
abbrev sender : Interface where
  Call := Sending
  Reply _ := SendReport

abbrev outside : Interface := storage.sum sender

def store (c : StoreCall) : Task storage c.Answer := Program.ask storage c

def send (s : Sending) : Task outside SendReport :=
  Task.ofProgram (Program.right (Program.ask sender s))

/-- What asks the store alone is a part of what also sends. -/
instance : MonadLift (Task storage) (Task outside) := ⟨Task.left⟩

end ShopRelay.Tracker
