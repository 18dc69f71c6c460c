import ShopRelay.Tracker.Call

/-!
Events are recorded with one pending delivery for each webhook that subscribes to them. Delivering
sends the payload once: an attempt is stored before, its outcome and the delivery's new status
after, and a delivery that succeeded is removed.
-/

namespace ShopRelay.Tracker

open Time (Timestamp)

/-- The ids of what is about to be created, and the times at which that happens. -/
structure Fresh where
  payloadId : Uuid
  payloadTime : Timestamp
  /-- The ids of the deliveries, by their place in the list. -/
  deliveryId : Nat → Uuid
  /-- The deliveries of a list are created at one time. -/
  deliveryTime : Timestamp
  attemptId : Uuid
  attemptTime : Timestamp

def newPayload (fresh : Fresh) (text : String) : Payload := ⟨fresh.payloadId, text, fresh.payloadTime⟩

/-- One pending delivery for each webhook. -/
def pendingDeliveries (fresh : Fresh) (webhooks : List Webhook) (payload : Payload)
    (eventType : String) : List Delivery :=
  webhooks.zipIdx.map fun (w, i) =>
    ⟨fresh.deliveryId i, .pending, eventType, payload.id, w.id, fresh.deliveryTime⟩

/-- Stores the payload and a delivery for each subscribed webhook together. -/
def triggerEvent (fresh : Fresh) (eventType : String) (payload : Json.Value) :
    Task storage (Payload × List Delivery) := do
  let payload := newPayload fresh payload.print
  let webhooks ← store (.webhooksForEvent eventType)
  store (.insertEvent payload (pendingDeliveries fresh webhooks payload eventType))

/-- Stores one pending delivery for each webhook; nothing is asked when there is none. -/
def createDeliveries (fresh : Fresh) (webhooks : List Webhook) (payload : Payload)
    (eventType : String) : Task storage (List Delivery) :=
  if webhooks.isEmpty then .done []
  else store (.insertDeliveries (pendingDeliveries fresh webhooks payload eventType))

/-- An attempt that has not been answered yet. -/
def newAttempt (fresh : Fresh) (deliveryId : Uuid) (taskId : Option String) : Attempt :=
  ⟨fresh.attemptId, some deliveryId, taskId, none, none, none, none, .pending, fresh.attemptTime⟩

def createAttempt (fresh : Fresh) (delivery : Delivery) (taskId : Option String) :
    Task storage Attempt :=
  store (.insertAttempt (newAttempt fresh delivery.id taskId))

/-- The attempt with the outcome that a report tells; texts hold what is structured as JSON. -/
def withReport (attempt : Attempt) (report : SendReport) : Attempt :=
  { attempt with
    duration := some report.duration
    response := some (Excerpt.codec.print report.content)
    requestHeaders := some (headersCodec.print report.requestHeaders)
    responseHeaders := some (headersCodec.print report.responseHeaders)
    status := report.status }

def updateAttempt (attempt : Attempt) (report : SendReport) : Task storage Unit :=
  store (.saveAttemptOutcome (withReport attempt report))

def withStatus (delivery : Delivery) (status : DeliveryStatus) : Delivery :=
  { delivery with status }

def updateDeliveryStatus (delivery : Delivery) (status : DeliveryStatus) : Task storage Unit :=
  store (.saveDeliveryStatus delivery.id status)

/-- Removes a delivery that succeeded; the result says whether it did. -/
def clearIfSuccessful (delivery : Delivery) : Task storage Bool := do
  if delivery.status = .success then
    store (.deleteDelivery delivery.id)
    return true
  else return false

/-- What follows the sending of a delivery. -/
def recordReport (delivery : Delivery) (attempt : Attempt) (report : SendReport) :
    Task storage (Option DeliveryStatus) := do
  updateAttempt attempt report
  updateDeliveryStatus delivery report.status
  let _ ← clearIfSuccessful (withStatus delivery report.status)
  return some report.status

/-- The sending of a delivery to its webhook. -/
def attemptDelivery (fresh : Fresh) (delivery : Delivery) (webhook : Webhook) (payload : Payload)
    (taskId : Option String) : Task outside (Option DeliveryStatus) := do
  let attempt ← createAttempt fresh delivery taskId
  let report ← send ⟨webhook, delivery.eventType, payload⟩
  recordReport delivery attempt report

/-- Sends a delivery once. None says that it does not exist, as when it was sent and removed before;
without an active webhook it fails unsent. -/
def deliver (fresh : Fresh) (deliveryId : Uuid) (taskId : Option String) :
    Task outside (Option DeliveryStatus) := do
  match ← store (.delivery deliveryId) with
  | none => return none
  | some delivery =>
    match (← store (.webhook delivery.webhookId)).filter (·.isActive) with
    | none =>
      updateDeliveryStatus delivery .failed
      return some .failed
    | some webhook =>
      match ← store (.payload delivery.payloadId) with
      | none => Task.fail (.payloadMissing delivery.payloadId deliveryId)
      | some payload => attemptDelivery fresh delivery webhook payload taskId

end ShopRelay.Tracker
