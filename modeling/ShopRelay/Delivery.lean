import ShopRelay.Json.Record
import ShopRelay.Text.Excerpt

/-!
What is recorded of an event that is sent to webhooks: its payload, one delivery for each webhook,
and one attempt for each time a delivery is sent.
-/

namespace ShopRelay

open Json

inductive DeliveryStatus where
  | pending
  | success
  | failed
deriving DecidableEq, Repr

namespace DeliveryStatus

def name : DeliveryStatus → String
  | .pending => "pending"
  | .success => "success"
  | .failed => "failed"

def ofName? : String → Option DeliveryStatus
  | "pending" => some .pending
  | "success" => some .success
  | "failed" => some .failed
  | _ => none

/-- What is said about a text that names no status. -/
def unknownMessage (text : String) : String := "unknown event delivery status '" ++ text ++ "'"

def codec : Codec DeliveryStatus := .choice name ofName?

end DeliveryStatus

structure Payload where
  id : Uuid
  text : String
  createdAt : Time.Timestamp
deriving DecidableEq

structure Delivery where
  id : Uuid
  status : DeliveryStatus
  eventType : String
  payloadId : Uuid
  webhookId : Uuid
  createdAt : Time.Timestamp
deriving DecidableEq

/-- One sending of a delivery. Its reference to the delivery is cleared when that is removed. -/
structure Attempt where
  id : Uuid
  deliveryId : Option Uuid
  taskId : Option String
  duration : Option Number.Binary
  response : Option String
  requestHeaders : Option String
  responseHeaders : Option String
  status : DeliveryStatus
  createdAt : Time.Timestamp
deriving DecidableEq

/-- What came of sending a payload to the target of a webhook. -/
structure SendReport where
  content : Excerpt
  requestHeaders : Dict String
  responseHeaders : Dict String
  duration : Number.Binary
  status : DeliveryStatus
deriving DecidableEq

def Excerpt.codec : Codec Excerpt :=
  ((Record.member "text" .text).and <| Record.member "truncated" .bool).as
    (fun (text, truncated) => ⟨text, truncated⟩) (fun e => (e.text, e.truncated)) |>.codec

def Payload.codec : Codec Payload :=
  ((Record.member "id" .uuid).and <| (Record.member "payload" .text).and <|
    Record.member "created_at" .timestamp).as
    (fun (id, text, createdAt) => ⟨id, text, createdAt⟩)
    (fun p => (p.id, p.text, p.createdAt)) |>.codec

def Delivery.codec : Codec Delivery :=
  ((Record.member "id" .uuid).and <| (Record.member "status" DeliveryStatus.codec).and <|
    (Record.member "event_type" .text).and <| (Record.member "payload_id" .uuid).and <|
    (Record.member "webhook_id" .uuid).and <| Record.member "created_at" .timestamp).as
    (fun (id, status, eventType, payloadId, webhookId, createdAt) =>
      ⟨id, status, eventType, payloadId, webhookId, createdAt⟩)
    (fun d => (d.id, d.status, d.eventType, d.payloadId, d.webhookId, d.createdAt)) |>.codec

def Attempt.codec : Codec Attempt :=
  ((Record.member "id" .uuid).and <| (Record.optional "delivery_id" .uuid).and <|
    (Record.optional "task_id" .text).and <| (Record.optional "duration" .double).and <|
    (Record.optional "response" .text).and <| (Record.optional "request_headers" .text).and <|
    (Record.optional "response_headers" .text).and <|
    (Record.member "status" DeliveryStatus.codec).and <|
    Record.member "created_at" .timestamp).as
    (fun (id, deliveryId, taskId, duration, response, requestHeaders, responseHeaders, status,
        createdAt) =>
      ⟨id, deliveryId, taskId, duration, response, requestHeaders, responseHeaders, status,
        createdAt⟩)
    (fun a => (a.id, a.deliveryId, a.taskId, a.duration, a.response, a.requestHeaders,
      a.responseHeaders, a.status, a.createdAt)) |>.codec

def headersCodec : Codec (Dict String) := .dict .text

def SendReport.codec : Codec SendReport :=
  ((Record.member "content" Excerpt.codec).and <|
    (Record.member "request_headers" headersCodec).and <|
    (Record.member "response_headers" headersCodec).and <|
    (Record.member "duration" .double).and <| Record.member "status" DeliveryStatus.codec).as
    (fun (content, requestHeaders, responseHeaders, duration, status) =>
      ⟨content, requestHeaders, responseHeaders, duration, status⟩)
    (fun r => (r.content, r.requestHeaders, r.responseHeaders, r.duration, r.status)) |>.codec

end ShopRelay
