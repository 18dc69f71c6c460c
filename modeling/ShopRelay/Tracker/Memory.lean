import ShopRelay.Tracker.Call

/-!
A store kept in memory. Payloads and deliveries are found by their ids, and storing one again
replaces it; webhooks and attempts are lists that only grow.
-/

namespace ShopRelay.Tracker

structure Memory where
  payloads : List Payload
  webhooks : List Webhook
  deliveries : List Delivery
  attempts : List Attempt

namespace Memory

def empty : Memory := ⟨[], [], [], []⟩

def payload? (m : Memory) (id : Uuid) : Option Payload := m.payloads.find? (·.id = id)

def webhook? (m : Memory) (id : Uuid) : Option Webhook := m.webhooks.find? (·.id = id)

def delivery? (m : Memory) (id : Uuid) : Option Delivery := m.deliveries.find? (·.id = id)

def attempt? (m : Memory) (id : Uuid) : Option Attempt := m.attempts.find? (·.id = id)

def addWebhook (m : Memory) (w : Webhook) : Memory := { m with webhooks := m.webhooks ++ [w] }

/-- Puts an entry in the place of the one with its id, or at the end. -/
def put {α : Type} (id : α → Uuid) (x : α) : List α → List α
  | [] => [x]
  | y :: rest => if id y = id x then x :: rest else y :: put id x rest

def putPayload (m : Memory) (p : Payload) : Memory :=
  { m with payloads := put Payload.id p m.payloads }

def putDeliveries (m : Memory) (ds : List Delivery) : Memory :=
  { m with deliveries := ds.foldl (fun stored d => put Delivery.id d stored) m.deliveries }

def removeDelivery (m : Memory) (id : Uuid) : Memory :=
  { m with
    deliveries := m.deliveries.filter (·.id ≠ id)
    attempts := m.attempts.map fun a =>
      if a.deliveryId = some id then { a with deliveryId := none } else a }

def setStatus (m : Memory) (id : Uuid) (status : DeliveryStatus) : Memory :=
  { m with deliveries := m.deliveries.map fun d => if d.id = id then { d with status } else d }

/-- Takes over the outcome of an attempt, and nothing else of it. -/
def takeOutcome (stored attempt : Attempt) : Attempt :=
  { stored with
    duration := attempt.duration
    response := attempt.response
    requestHeaders := attempt.requestHeaders
    responseHeaders := attempt.responseHeaders
    status := attempt.status }

/-- Changes the first attempt that has the id. -/
def updateFirst (attempt : Attempt) : List Attempt → List Attempt
  | [] => []
  | a :: rest =>
    if a.id = attempt.id then takeOutcome a attempt :: rest else a :: updateFirst attempt rest

def reply : (c : StoreCall) → Memory → Except Fault c.Answer × Memory
  | .insertPayload p, m => (.ok p, m.putPayload p)
  | .payload id, m => (.ok (m.payload? id), m)
  | .webhooksForEvent eventType, m => (.ok (m.webhooks.filter (·.subscribesTo eventType)), m)
  | .webhook id, m => (.ok (m.webhook? id), m)
  | .insertDeliveries ds, m => (.ok ds, m.putDeliveries ds)
  | .insertEvent p ds, m =>
    match ds.find? (·.payloadId ≠ p.id) with
    | some d => (.error (.foreignDelivery d.id p.id), m)
    | none => (.ok (p, ds), (m.putPayload p).putDeliveries ds)
  | .delivery id, m => (.ok (m.delivery? id), m)
  | .saveDeliveryStatus id status, m =>
    match m.delivery? id with
    | none => (.error (.deliveryMissing id), m)
    | some _ => (.ok (), m.setStatus id status)
  | .deleteDelivery id, m => (.ok (), m.removeDelivery id)
  | .insertAttempt a, m => (.ok a, { m with attempts := m.attempts ++ [a] })
  | .saveAttemptOutcome a, m =>
    match m.attempt? a.id with
    | none => (.error (.attemptMissing a.id), m)
    | some _ => (.ok (), { m with attempts := updateFirst a m.attempts })
  | .attempts id, m => (.ok (m.attempts.filter (·.deliveryId = some id)), m)

/-- A store that refuses the calls of some names. -/
def replyUnless (refused : List String) (c : StoreCall) (m : Memory) :
    Except Fault c.Answer × Memory :=
  if refused.contains c.name then (.error (.refused c.name), m) else reply c m

end Memory

end ShopRelay.Tracker
