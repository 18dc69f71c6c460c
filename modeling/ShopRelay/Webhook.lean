import ShopRelay.Json.Record

/-!
Apps, the webhooks by which they are told of events, and the events that an app answers on behalf
of the store.
-/

namespace ShopRelay

open Json

/-- Events that an app can answer on behalf of the store. -/
inductive StoreEvent where
  | paymentListGateways
  | paymentProcess
  | shippingListMethodsForCheckout
  | checkoutCalculateTaxes
  | orderCalculateTaxes
  | fetchTaxCodes
deriving DecidableEq, Repr

def StoreEvent.name : StoreEvent → String
  | .paymentListGateways => "payment_list_gateways"
  | .paymentProcess => "payment_process"
  | .shippingListMethodsForCheckout => "shipping_list_methods_for_checkout"
  | .checkoutCalculateTaxes => "checkout_calculate_taxes"
  | .orderCalculateTaxes => "order_calculate_taxes"
  | .fetchTaxCodes => "fetch_tax_codes"

structure Webhook where
  id : Uuid
  appId : Int
  name : String
  targetUrl : String
  secretKey : Option String
  isActive : Bool
  events : List String
deriving DecidableEq

/-- An inactive webhook subscribes to nothing. -/
def Webhook.subscribesTo (w : Webhook) (eventType : String) : Bool :=
  w.isActive && w.events.contains eventType

structure App where
  id : Int
  identifier : String
  name : String
  isActive : Bool
  webhooks : List Webhook
deriving DecidableEq

def App.handles (a : App) (event : StoreEvent) : Bool :=
  a.isActive && a.webhooks.any (·.subscribesTo event.name)

def Webhook.codec : Codec Webhook :=
  ((Record.member "id" .uuid).and <| (Record.member "app_id" .int64).and <|
    (Record.member "name" .text).and <| (Record.member "target_url" .text).and <|
    (Record.optional "secret_key" .text).and <| (Record.member "is_active" .bool).and <|
    Record.member "events" (.list .text)).as
    (fun (id, appId, name, targetUrl, secretKey, isActive, events) =>
      ⟨id, appId, name, targetUrl, secretKey, isActive, events⟩)
    (fun w => (w.id, w.appId, w.name, w.targetUrl, w.secretKey, w.isActive, w.events)) |>.codec

def App.codec : Codec App :=
  ((Record.member "id" .int64).and <| (Record.member "identifier" .text).and <|
    (Record.member "name" .text).and <| (Record.member "is_active" .bool).and <|
    Record.member "webhooks" (.list Webhook.codec)).as
    (fun (id, identifier, name, isActive, webhooks) => ⟨id, identifier, name, isActive, webhooks⟩)
    (fun a => (a.id, a.identifier, a.name, a.isActive, a.webhooks)) |>.codec

end ShopRelay
