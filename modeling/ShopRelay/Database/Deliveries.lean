import ShopRelay.Database.Row
import ShopRelay.Tracker.Call

/-!
Payloads, deliveries, attempts and webhooks in the database: the statements for each call on their
store, and what the rows hold.
-/

namespace ShopRelay.Database

open Tracker (StoreCall)

def webhookOfRow (row : Row) : Except Fault Webhook := do
  return {
    id := ← row.required "id" Cell.uuid?
    appId := ← row.required "app_id" Cell.int?
    name := ← row.required "name" Cell.text?
    targetUrl := ← row.required "target_url" Cell.text?
    secretKey := ← row.optional "secret_key" Cell.text?
    isActive := ← row.required "is_active" Cell.bool?
    events := ← row.required "events" Cell.texts? }

def payloadOfRow (row : Row) : Except Fault Payload := do
  return {
    id := ← row.required "id" Cell.uuid?
    text := ← row.required "payload" Cell.text?
    createdAt := ← row.required "created_at" Cell.time? }

def statusOfRow (row : Row) : Except Fault DeliveryStatus :=
  row.choice "status" DeliveryStatus.ofName? .unknownStatus

def deliveryOfRow (row : Row) : Except Fault Delivery := do
  return {
    id := ← row.required "id" Cell.uuid?
    status := ← statusOfRow row
    eventType := ← row.required "event_type" Cell.text?
    payloadId := ← row.required "payload_id" Cell.uuid?
    webhookId := ← row.required "webhook_id" Cell.uuid?
    createdAt := ← row.required "created_at" Cell.time? }

def attemptOfRow (row : Row) : Except Fault Attempt := do
  return {
    id := ← row.required "id" Cell.uuid?
    deliveryId := ← row.optional "delivery_id" Cell.uuid?
    taskId := ← row.optional "task_id" Cell.text?
    duration := ← row.optional "duration" Cell.double?
    response := ← row.optional "response" Cell.text?
    requestHeaders := ← row.optional "request_headers" Cell.text?
    responseHeaders := ← row.optional "response_headers" Cell.text?
    status := ← statusOfRow row
    createdAt := ← row.required "created_at" Cell.time? }

def webhookColumns : String :=
  "w.id, w.app_id, w.name, w.target_url, w.secret_key, w.is_active, " ++
  "ARRAY( SELECT e.event_type FROM webhook_event e WHERE e.webhook_id = w.id " ++
  "ORDER BY e.event_type ) AS events"

def selectWebhook (id : Uuid) : Statement :=
  ⟨"SELECT " ++ webhookColumns ++ " FROM webhook w WHERE w.id = $1", [.uuid id]⟩

/-- The active webhooks of active apps that subscribe to an event, the oldest first. -/
def selectWebhooksForEvent (eventType : String) : Statement :=
  ⟨"SELECT " ++ webhookColumns ++ " FROM webhook w JOIN app a ON a.id = w.app_id " ++
    "WHERE w.is_active AND a.is_active AND EXISTS ( SELECT 1 FROM webhook_event e " ++
    "WHERE e.webhook_id = w.id AND e.event_type = $1 ) ORDER BY w.created_at, w.id",
    [.text eventType]⟩

def selectPayload (id : Uuid) : Statement :=
  ⟨"SELECT id, payload, created_at FROM webhook_event_payload WHERE id = $1", [.uuid id]⟩

def insertPayloadRow (p : Payload) : Statement :=
  ⟨"INSERT INTO webhook_event_payload (id, payload, created_at) VALUES ($1, $2, $3)",
    [.uuid p.id, .text p.text, .time p.createdAt]⟩

def selectDelivery (id : Uuid) : Statement :=
  ⟨"SELECT id, status, event_type, payload_id, webhook_id, created_at " ++
    "FROM webhook_event_delivery WHERE id = $1", [.uuid id]⟩

/-- All rows at once: one list for each column. -/
def insertDeliveryRows (ds : List Delivery) : Statement :=
  ⟨"INSERT INTO webhook_event_delivery ( id, status, event_type, payload_id, webhook_id, " ++
    "created_at ) SELECT * FROM UNNEST( $1::uuid[], $2::text[], $3::text[], $4::uuid[], " ++
    "$5::uuid[], $6::timestamptz[] )",
    [.uuids (ds.map (·.id)), .texts (ds.map (·.status.name)), .texts (ds.map (·.eventType)),
      .uuids (ds.map (·.payloadId)), .uuids (ds.map (·.webhookId)), .times (ds.map (·.createdAt))]⟩

def updateDeliveryStatus (id : Uuid) (status : DeliveryStatus) : Statement :=
  ⟨"UPDATE webhook_event_delivery SET status = $2 WHERE id = $1", [.uuid id, .text status.name]⟩

/-- The attempts of the delivery stay, without their reference to it. -/
def deleteDeliveryRow (id : Uuid) : Statement :=
  ⟨"DELETE FROM webhook_event_delivery WHERE id = $1", [.uuid id]⟩

def insertAttemptRow (a : Attempt) : Statement :=
  ⟨"INSERT INTO webhook_event_delivery_attempt ( id, delivery_id, task_id, duration, response, " ++
    "request_headers, response_headers, status, created_at ) " ++
    "VALUES ($1, $2, $3, $4, $5, $6, $7, $8, $9)",
    [.uuid a.id, .ofOption .uuid a.deliveryId, .ofOption .text a.taskId,
      .ofOption .double a.duration, .ofOption .text a.response, .ofOption .text a.requestHeaders,
      .ofOption .text a.responseHeaders, .text a.status.name, .time a.createdAt]⟩

def updateAttemptOutcome (a : Attempt) : Statement :=
  ⟨"UPDATE webhook_event_delivery_attempt SET duration = $2, response = $3, " ++
    "request_headers = $4, response_headers = $5, status = $6 WHERE id = $1",
    [.uuid a.id, .ofOption .double a.duration, .ofOption .text a.response,
      .ofOption .text a.requestHeaders, .ofOption .text a.responseHeaders, .text a.status.name]⟩

def selectAttempts (deliveryId : Uuid) : Statement :=
  ⟨"SELECT id, delivery_id, task_id, duration, response, request_headers, response_headers, " ++
    "status, created_at FROM webhook_event_delivery_attempt WHERE delivery_id = $1 " ++
    "ORDER BY created_at, id", [.uuid deliveryId]⟩

def storePayload (p : Payload) : Task session Unit :=
  Task.context "failed to persist event payload" do
    let _ ← execute (insertPayloadRow p)

/-- Nothing is asked when there is no delivery. -/
def storeDeliveries (ds : List Delivery) : Task session Unit :=
  if ds.isEmpty then .done ()
  else Task.context "failed to persist event deliveries" do
    let _ ← execute (insertDeliveryRows ds)

/-- How the store is kept in the database. -/
def storeCall : (c : StoreCall) → Task session c.Answer
  | .insertPayload p => do
    storePayload p
    return p
  | .payload id => readFirst? (selectPayload id) payloadOfRow
  | .webhooksForEvent eventType => readAll (selectWebhooksForEvent eventType) webhookOfRow
  | .webhook id => readFirst? (selectWebhook id) webhookOfRow
  | .insertDeliveries ds => do
    storeDeliveries ds
    return ds
  | .insertEvent p ds =>
    transaction "failed to commit event" do
      storePayload p
      storeDeliveries ds
      return (p, ds)
  | .delivery id => readFirst? (selectDelivery id) deliveryOfRow
  | .saveDeliveryStatus id status => change (updateDeliveryStatus id status) (.deliveryMissing id)
  | .deleteDelivery id => do
    let _ ← execute (deleteDeliveryRow id)
  | .insertAttempt a =>
    Task.context "failed to persist delivery attempt" do
      let _ ← execute (insertAttemptRow a)
      return a
  | .saveAttemptOutcome a => change (updateAttemptOutcome a) (.attemptMissing a.id)
  | .attempts deliveryId => readAll (selectAttempts deliveryId) attemptOfRow

/-- A task on the store as one on the database. -/
def onDatabase {α : Type} (t : Task Tracker.storage α) : Task session α :=
  Program.translate storeCall t

end ShopRelay.Database
