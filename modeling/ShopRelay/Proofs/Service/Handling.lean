import Mathlib.Data.List.Forall2
import ShopRelay.Proofs.Service.Messages
import ShopRelay.Proofs.Text.Utf8
import ShopRelay.Service.Dispatcher

/-!
Handling the messages of the bus: a message that announces a delivery has it delivered, and any
other one is refused before anything is asked.
-/

namespace ShopRelay.Service

open Database (Row Statement Cell)
open Tracker (Fresh deliver newAttempt)

variable (settings : SendSettings) (fresh : Fresh) (taskId : Uuid)

/-- Delivering asks the database what it asks of the store, and the target what it sends. -/
theorem deliverOnce_eq (id : Uuid) (task : Option String) :
    deliverOnce settings fresh id task =
      Program.translateSum Database.storeCall
        (Http.transmit settings.responseLimit settings.elapsed) (deliver fresh id task).attempt :=
  rfl

/-- The delivery of a message is delivered under the id of the task. -/
theorem handleMessage_scheduled {text : String} {scheduled : ScheduledDelivery}
    (h : ScheduledDelivery.codec.parse? text = some scheduled) :
    handleMessage settings fresh taskId (Text.encodeUtf8 text) =
      Except.mapError .failed <$>
        (deliverOnce settings fresh scheduled.deliveryId (some taskId.text)).attempt := by
  unfold handleMessage
  rw [Text.decodeUtf8_encodeUtf8]
  dsimp only
  rw [h]
  rfl

theorem handleMessage_unscheduled {text : String}
    (h : ScheduledDelivery.codec.parse? text = none) :
    handleMessage settings fresh taskId (Text.encodeUtf8 text) = .done (.error .notAnEvent) := by
  unfold handleMessage
  rw [Text.decodeUtf8_encodeUtf8]
  dsimp only
  rw [h]

theorem handleMessage_unread {message : Text.Bytes} (h : Text.decodeUtf8? message = none) :
    handleMessage settings fresh taskId message = .done (.error .notText) := by
  unfold handleMessage
  rw [h]

/-- The deliveries of a list are announced by one message each, in order, and each message has the
delivery that it announces delivered, over the database and the network. A message that announces
none ends in an error at once. -/
theorem announced_deliveries_handled :
    (∀ ds : List Delivery, List.Forall₂ (fun d (m : Uuid × String) =>
      m.1 = d.id ∧
      ScheduledDelivery.codec.parse? m.2 = some ⟨d.id, d.eventType⟩ ∧
      handleMessage settings fresh taskId (Text.encodeUtf8 m.2) = Except.mapError .failed <$>
        Program.translateSum Database.storeCall
          (Http.transmit settings.responseLimit settings.elapsed)
          (deliver fresh d.id (some taskId.text)).attempt) ds (scheduledMessages ds)) ∧
    (∀ text, ScheduledDelivery.codec.parse? text = none →
      handleMessage settings fresh taskId (Text.encodeUtf8 text) = .done (.error .notAnEvent)) ∧
    ∀ message, Text.decodeUtf8? message = none →
      handleMessage settings fresh taskId message = .done (.error .notText) := by
  refine ⟨fun ds => ?_, fun text => handleMessage_unscheduled settings fresh taskId,
    fun message => handleMessage_unread settings fresh taskId⟩
  rw [scheduledMessages, List.forall₂_map_right_iff, List.forall₂_same]
  intro d _
  have hparse : ScheduledDelivery.codec.parse? (ScheduledDelivery.codec.print (.ofDelivery d)) =
      some ⟨d.id, d.eventType⟩ := parse_announcement d
  have hhandled := handleMessage_scheduled settings fresh taskId hparse
  rw [deliverOnce_eq] at hhandled
  exact ⟨rfl, hparse, hhandled⟩

namespace Sample

def once : SendSettings := ⟨1024, .zero⟩

def attemptIds : Fresh := ⟨.ofNat 20, .epoch, fun i => .ofNat (21 + i), .epoch, .ofNat 9, .epoch⟩

/-- Its type is quoted in a message. -/
def quoted : Delivery :=
  ⟨.ofNat 11, .pending, "order \"created\"", .ofNat 10, .ofNat 1, .epoch⟩

/-- What the database holds of a delivery: itself, its webhook and its payload. -/
def stored (d : Delivery) : List Row := [
  [("id", .uuid d.id), ("status", .text d.status.name), ("event_type", .text d.eventType),
    ("payload_id", .uuid d.payloadId), ("webhook_id", .uuid d.webhookId),
    ("created_at", .time d.createdAt)],
  [("id", .uuid d.webhookId), ("app_id", .int 1), ("name", .text "erp"),
    ("target_url", .text "http://127.0.0.1:8080/hook"), ("secret_key", .null),
    ("is_active", .bool true), ("events", .texts [d.eventType])],
  [("id", .uuid d.payloadId), ("payload", .text "[]"), ("created_at", .time d.createdAt)]]

/-- The database finds one row after another, and acknowledges every change; the target accepts. -/
def accepting : (c : dispatcher.Call) → List Row → dispatcher.Reply c × List Row :=
  Interface.sumReply (fun
    | .execute _, rows => (.ok ⟨rows.take 1, 1⟩, rows.tail)
    | .connect, rows => (.ok (), rows)
    | .begin, rows => (.ok (), rows)
    | .commit, rows => (.ok (), rows)
    | .rollback, rows => (.ok (), rows)) fun _ rows => (.response ⟨200, [], some []⟩, rows)

/-- What is asked in short: a statement with the ids that are bound, or the method, the address and
the body of a request. -/
abbrev Asked := (String × List Uuid) ⊕ (Http.Method × String × String)

def bound (s : Statement) : Asked := .inl (s.text, s.parameters.filterMap Cell.uuid?)

def asked? (e : dispatcher.Exchange) : Option Asked :=
  match e.call with
  | .inl (.execute s) => some (bound s)
  | .inl _ => none
  | .inr q => some (.inr (q.method, q.url.text, q.body))

end Sample

open Sample

/-- A delivery is announced and delivered; an id of another kind and bytes that are an overlong form
are refused. -/
theorem announced_deliveries_handled_quoted :
    let handling := handleMessage once attemptIds (.ofNat 5)
    let attempt := newAttempt attemptIds quoted.id (some (Uuid.ofNat 5).text)
    let other := "\x7b\"delivery_id\":7,\"event_type\":\"order_created\"\x7d"
    (∃ text, scheduledMessages [quoted] = [(quoted.id, text)] ∧
      ((handling (Text.encodeUtf8 text)).run accepting (stored quoted)).1 = .ok (some .success) ∧
      ((handling (Text.encodeUtf8 text)).log accepting (stored quoted)).map asked? = [
        some (bound (Database.selectDelivery quoted.id)),
        some (bound (Database.selectWebhook quoted.webhookId)),
        some (bound (Database.selectPayload quoted.payloadId)),
        some (bound (Database.insertAttemptRow attempt)),
        some (.inr (.post, "http://127.0.0.1:8080/hook", "[]")),
        some (bound (Database.updateAttemptOutcome attempt)),
        some (bound (Database.updateDeliveryStatus quoted.id .success)),
        some (bound (Database.deleteDeliveryRow quoted.id))]) ∧
    (ScheduledDelivery.codec.parse? other = none ∧
      handling (Text.encodeUtf8 other) = .done (.error .notAnEvent)) ∧
    Text.decodeUtf8? [0xC0, 0x80] = none ∧ handling [0xC0, 0x80] = .done (.error .notText) := by
  intro handling attempt other
  have hother : ScheduledDelivery.codec.parse? other = none := by decide +kernel
  have hbytes : Text.decodeUtf8? [0xC0, 0x80] = none := by decide
  obtain ⟨hannounced, hrefused, hunread⟩ :=
    announced_deliveries_handled once attemptIds (.ofNat 5)
  obtain ⟨⟨-, -, hhandled⟩, -⟩ := List.forall₂_cons.mp (hannounced [quoted])
  refine ⟨⟨_, rfl, ?_⟩, ⟨hother, hrefused other hother⟩, hbytes, hunread _ hbytes⟩
  dsimp only [handling] at hhandled ⊢
  rw [hhandled]
  constructor
  · decide +kernel
  · decide +kernel

end ShopRelay.Service
