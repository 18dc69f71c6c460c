import ShopRelay.Answer.Coercion
import ShopRelay.AppScoped
import ShopRelay.Commerce

/-!
Answers of payment apps: the gateways that they offer, and the outcome of a payment action.
-/

namespace ShopRelay.Answer

open Json

/-- A gateway without an id is passed over. -/
def gateway? (app : App) (v : Value) : Read (Option PaymentGateway) := do
  let d ← object v "a payment gateway object"
  match nonEmpty (optionalText d "id") with
  | none => return none
  | some id =>
    let currencies := ((d.get? "currencies").bind Value.asArr?).getD []
    let config := (d.get? "config").bind (Codec.list GatewaySetting.codec).ofValue?
    return some {
      id := AppScoped.toPaymentId app id
      name := optionalText d "name"
      currencies := currencies.filterMap Value.asStr?
      config := config.getD [] }

def readGateways (v : Value) (app : App) : Read (List PaymentGateway) := do
  let entries ← (← items v "a list of payment gateways").mapM (gateway? app)
  return entries.filterMap id

/-- No gateways when the answer is rejected. -/
def gateways (v : Value) (app : App) : List PaymentGateway :=
  (readGateways v app).toOption.getD []

def paymentMethod (d : Dict Value) : PaymentMethod where
  brand := optionalText d "brand"
  expMonth := optionalInt d "exp_month"
  expYear := optionalInt d "exp_year"
  last4 := optionalText d "last_4"
  name := optionalText d "name"
  kind := optionalText d "type"

/-- An error that is a string is taken as it is, any other by its JSON text. -/
def errorText : Value → String
  | .str s => s
  | v => v.print

/-- The app may decline, correct the amount and rename the action, but not change the currency. -/
def readPaymentOutcome (payment : Payment) (v : Value) (kind : String) : Read PaymentOutcome := do
  let d ← object v "a payment action object"
  let error := ((d.get? "error").filter isTrue).map errorText
  let method := ((d.get? "payment_method").filter isTrue).bind Value.asObj?
  return {
    isSuccess := error.isNone
    actionRequired := flag d "action_required"
    kind := (optionalText d "kind").getD kind
    amount := ((d.get? "amount").bind toDecimal?).getD payment.amount
    currency := payment.currency
    transactionId := (optionalText d "transaction_id").getD ""
    error
    customerId := optionalText d "customer_id"
    pspReference := optionalText d "psp_reference"
    actionRequiredData := (d.get? "action_required_data").filter fun
      | .null => false
      | _ => true
    paymentMethod := method.map Answer.paymentMethod
    rawResponse := v
    alreadyProcessed := flag d "transaction_already_processed" }

end ShopRelay.Answer
