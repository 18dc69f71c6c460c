import ShopRelay.Service.Contract
import ShopRelay.Task

/-!
The message bus, on which the dispatcher is told of the deliveries that are to be sent.
-/

namespace ShopRelay.Service

inductive BusCall where
  | connect
  | publish (channel message : String)

def bus : Interface := faultyCalls BusCall fun _ => Unit

def askBus (c : BusCall) : Task bus Unit := Program.ask bus c

/-- Publishes messages in order, up to the first one that fails. -/
def publishAll : List String → Task bus Unit
  | [] => .done ()
  | message :: rest => do
    askBus (.publish deliveriesChannel message)
    publishAll rest

/-- Announces each delivery over one connection; nothing is asked when there is none. -/
def schedule (deliveries : List Delivery) : Task bus Unit :=
  if deliveries.isEmpty then .done ()
  else do
    askBus .connect
    publishAll ((scheduledMessages deliveries).map (·.2))

end ShopRelay.Service
