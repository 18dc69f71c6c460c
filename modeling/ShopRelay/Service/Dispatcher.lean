import ShopRelay.Database.Deliveries
import ShopRelay.Http.Transport
import ShopRelay.Service.Contract
import ShopRelay.Tracker.Dispatch

/-!
The dispatcher: it takes a message from the bus and sends the delivery that the message names.
-/

namespace ShopRelay.Service

open Tracker (Fresh)

/-- What the dispatcher asks: the database and the targets. -/
def dispatcher : Interface := Database.session.sum Http.network

inductive HandlingError where
  | notText
  | notAnEvent
  | failed (f : Fault)
deriving DecidableEq

/-- How a payload is sent: the greatest length of the text that is recorded of a response, and the
time that a sending takes. -/
structure SendSettings where
  responseLimit : Nat
  elapsed : Number.Binary

/-- Delivering over the database and the network. -/
def deliverOnce (settings : SendSettings) (fresh : Fresh) (id : Uuid) (taskId : Option String) :
    Task dispatcher (Option DeliveryStatus) :=
  Program.translateSum Database.storeCall (Http.transmit settings.responseLimit settings.elapsed)
    (Tracker.deliver fresh id taskId)

/-- Nothing is asked unless the message is one that schedules a delivery. -/
def handleMessage (settings : SendSettings) (fresh : Fresh) (taskId : Uuid) (message : Text.Bytes) :
    Program dispatcher (Except HandlingError (Option DeliveryStatus)) :=
  match Text.decodeUtf8? message with
  | none => .done (.error .notText)
  | some text =>
    match ScheduledDelivery.codec.parse? text with
    | none => .done (.error .notAnEvent)
    | some scheduled => do
      let result ← (deliverOnce settings fresh scheduled.deliveryId (some taskId.text)).attempt
      return result.mapError .failed

end ShopRelay.Service
