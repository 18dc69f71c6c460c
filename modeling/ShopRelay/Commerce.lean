import ShopRelay.Json.Record

/-!
What the store and its apps tell each other about money: payment gateways and payments, shipping
methods, and taxes.
-/

namespace ShopRelay

open Json
open Number (Decimal)

structure Money where
  amount : Decimal
  currency : String
deriving DecidableEq

def Money.zero (currency : String) : Money := ⟨Decimal.zero, currency⟩

/-- One setting of a payment gateway. -/
structure GatewaySetting where
  field : String
  value : Value

structure PaymentGateway where
  id : String
  name : Option String
  currencies : List String
  config : List GatewaySetting

/-- A payment as the store knows it before the app is asked. -/
structure Payment where
  gateway : String
  amount : Decimal
  currency : String
  paymentId : Int
  publicPaymentId : String
  customerEmail : Option String

structure PaymentMethod where
  brand : Option String
  expMonth : Option Int
  expYear : Option Int
  last4 : Option String
  name : Option String
  kind : Option String

/-- What an app answered to a payment action. -/
structure PaymentOutcome where
  isSuccess : Bool
  actionRequired : Bool
  kind : String
  amount : Decimal
  currency : String
  transactionId : String
  error : Option String
  customerId : Option String
  pspReference : Option String
  actionRequiredData : Option Value
  paymentMethod : Option PaymentMethod
  rawResponse : Value
  alreadyProcessed : Bool

structure ShippingMethod where
  id : String
  name : Option String
  price : Money
  maximumDeliveryDays : Option Int

structure TaxLine where
  id : Int
  currency : String
  unitNetAmount : Decimal
  unitGrossAmount : Decimal
  totalGrossAmount : Decimal
  totalNetAmount : Decimal
  taxRate : Decimal

structure Taxes where
  currency : String
  totalNetAmount : Decimal
  totalGrossAmount : Decimal
  subtotalNetAmount : Decimal
  subtotalGrossAmount : Decimal
  shippingPriceGrossAmount : Decimal
  shippingPriceNetAmount : Decimal
  shippingTaxRate : Decimal
  lines : List TaxLine

/-- Money is written with a tag, so that an app can tell prices from plain numbers. -/
def Money.codec : Codec Money :=
  ((Record.member "amount" .decimal).and <| Record.member "currency" .text).as
    (fun (amount, currency) => ⟨amount, currency⟩) (fun m => (m.amount, m.currency))
    |>.tagged "_type" "Money"

def GatewaySetting.codec : Codec GatewaySetting :=
  ((Record.member "field" .text).and <| Record.member "value" .value).as
    (fun (field, value) => ⟨field, value⟩) (fun s => (s.field, s.value)) |>.codec

def PaymentGateway.codec : Codec PaymentGateway :=
  ((Record.member "id" .text).and <| (Record.optional "name" .text).and <|
    (Record.member "currencies" (.list .text)).and <|
    Record.member "config" (.list GatewaySetting.codec)).as
    (fun (id, name, currencies, config) => ⟨id, name, currencies, config⟩)
    (fun g => (g.id, g.name, g.currencies, g.config)) |>.codec

def Payment.codec : Codec Payment :=
  ((Record.member "gateway" .text).and <| (Record.member "amount" .decimal).and <|
    (Record.member "currency" .text).and <| (Record.member "payment_id" .int64).and <|
    (Record.member "graphql_payment_id" .text).and <|
    Record.optional "customer_email" .text).as
    (fun (gateway, amount, currency, paymentId, publicPaymentId, customerEmail) =>
      ⟨gateway, amount, currency, paymentId, publicPaymentId, customerEmail⟩)
    (fun p => (p.gateway, p.amount, p.currency, p.paymentId, p.publicPaymentId,
      p.customerEmail)) |>.codec

def PaymentMethod.codec : Codec PaymentMethod :=
  ((Record.optional "brand" .text).and <| (Record.optional "exp_month" .int64).and <|
    (Record.optional "exp_year" .int64).and <| (Record.optional "last_4" .text).and <|
    (Record.optional "name" .text).and <| Record.optional "type" .text).as
    (fun (brand, expMonth, expYear, last4, name, kind) =>
      ⟨brand, expMonth, expYear, last4, name, kind⟩)
    (fun m => (m.brand, m.expMonth, m.expYear, m.last4, m.name, m.kind)) |>.codec

def PaymentOutcome.codec : Codec PaymentOutcome :=
  ((Record.member "is_success" .bool).and <| (Record.member "action_required" .bool).and <|
    (Record.member "kind" .text).and <| (Record.member "amount" .decimal).and <|
    (Record.member "currency" .text).and <| (Record.member "transaction_id" .text).and <|
    (Record.optional "error" .text).and <| (Record.optional "customer_id" .text).and <|
    (Record.optional "psp_reference" .text).and <|
    (Record.optional "action_required_data" .value).and <|
    (Record.optional "payment_method_info" PaymentMethod.codec).and <|
    (Record.member "raw_response" .value).and <|
    Record.member "transaction_already_processed" .bool).as
    (fun (isSuccess, actionRequired, kind, amount, currency, transactionId, error, customerId,
        pspReference, actionRequiredData, paymentMethod, rawResponse, alreadyProcessed) =>
      ⟨isSuccess, actionRequired, kind, amount, currency, transactionId, error, customerId,
        pspReference, actionRequiredData, paymentMethod, rawResponse, alreadyProcessed⟩)
    (fun o => (o.isSuccess, o.actionRequired, o.kind, o.amount, o.currency, o.transactionId,
      o.error, o.customerId, o.pspReference, o.actionRequiredData, o.paymentMethod,
      o.rawResponse, o.alreadyProcessed)) |>.codec

def ShippingMethod.codec : Codec ShippingMethod :=
  ((Record.member "id" .text).and <| (Record.optional "name" .text).and <|
    (Record.member "price" Money.codec).and <|
    Record.optional "maximum_delivery_days" .int64).as
    (fun (id, name, price, maximumDeliveryDays) => ⟨id, name, price, maximumDeliveryDays⟩)
    (fun m => (m.id, m.name, m.price, m.maximumDeliveryDays)) |>.codec

def TaxLine.codec : Codec TaxLine :=
  ((Record.member "id" .int64).and <| (Record.member "currency" .text).and <|
    (Record.member "unit_net_amount" .decimal).and <|
    (Record.member "unit_gross_amount" .decimal).and <|
    (Record.member "total_gross_amount" .decimal).and <|
    (Record.member "total_net_amount" .decimal).and <| Record.member "tax_rate" .decimal).as
    (fun (id, currency, unitNet, unitGross, totalGross, totalNet, taxRate) =>
      ⟨id, currency, unitNet, unitGross, totalGross, totalNet, taxRate⟩)
    (fun l => (l.id, l.currency, l.unitNetAmount, l.unitGrossAmount, l.totalGrossAmount,
      l.totalNetAmount, l.taxRate)) |>.codec

def Taxes.codec : Codec Taxes :=
  ((Record.member "currency" .text).and <| (Record.member "total_net_amount" .decimal).and <|
    (Record.member "total_gross_amount" .decimal).and <|
    (Record.member "subtotal_net_amount" .decimal).and <|
    (Record.member "subtotal_gross_amount" .decimal).and <|
    (Record.member "shipping_price_gross_amount" .decimal).and <|
    (Record.member "shipping_price_net_amount" .decimal).and <|
    (Record.member "shipping_tax_rate" .decimal).and <|
    Record.member "lines" (.list TaxLine.codec)).as
    (fun (currency, totalNet, totalGross, subtotalNet, subtotalGross, shippingGross, shippingNet,
        shippingRate, lines) =>
      ⟨currency, totalNet, totalGross, subtotalNet, subtotalGross, shippingGross, shippingNet,
        shippingRate, lines⟩)
    (fun t => (t.currency, t.totalNetAmount, t.totalGrossAmount, t.subtotalNetAmount,
      t.subtotalGrossAmount, t.shippingPriceGrossAmount, t.shippingPriceNetAmount,
      t.shippingTaxRate, t.lines)) |>.codec

end ShopRelay
