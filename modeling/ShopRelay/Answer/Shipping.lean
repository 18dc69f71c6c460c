import ShopRelay.Answer.Coercion
import ShopRelay.AppScoped
import ShopRelay.Commerce

/-!
Answers of shipping apps: the methods by which a checkout can be shipped.
-/

namespace ShopRelay.Answer

open Json

def shippingMethod (app : App) (v : Value) : Read ShippingMethod := do
  let d ← object v "a shipping method object"
  let id ← requiredText d "id"
  let amount ← requiredDecimal d "amount"
  let currency ← requiredText d "currency"
  return {
    id := AppScoped.toShippingId app id
    name := optionalText d "name"
    price := ⟨amount, currency⟩
    maximumDeliveryDays := optionalInt d "maximum_delivery_days" }

def readShippingMethods (v : Value) (app : App) : Read (List ShippingMethod) := do
  (← items v "a list of shipping methods").mapM (shippingMethod app)

/-- No methods when the answer is rejected. -/
def shippingMethods (v : Value) (app : App) : List ShippingMethod :=
  (readShippingMethods v app).toOption.getD []

end ShopRelay.Answer
