import ShopRelay.Answer.Coercion
import ShopRelay.Commerce

/-!
Answers of tax apps: the taxes on a checkout or an order, and the tax codes that an app knows.
-/

namespace ShopRelay.Answer

open Json

def taxLine (v : Value) : Read TaxLine := do
  let d ← object v "a tax line object"
  return {
    id := ← requiredInt d "id"
    currency := ← requiredText d "currency"
    unitNetAmount := ← requiredDecimal d "unit_net_amount"
    unitGrossAmount := ← requiredDecimal d "unit_gross_amount"
    totalGrossAmount := ← requiredDecimal d "total_gross_amount"
    totalNetAmount := ← requiredDecimal d "total_net_amount"
    taxRate := ← requiredDecimal d "tax_rate" }

/-- The lines are read before the totals. -/
def readTaxes (v : Value) : Read Taxes := do
  let d ← object v "a tax data object"
  let lines ← (← items (← required d "lines") "a list of tax lines").mapM taxLine
  return {
    currency := ← requiredText d "currency"
    totalNetAmount := ← requiredDecimal d "total_net_amount"
    totalGrossAmount := ← requiredDecimal d "total_gross_amount"
    subtotalNetAmount := ← requiredDecimal d "subtotal_net_amount"
    subtotalGrossAmount := ← requiredDecimal d "subtotal_gross_amount"
    shippingPriceGrossAmount := ← requiredDecimal d "shipping_price_gross_amount"
    shippingPriceNetAmount := ← requiredDecimal d "shipping_price_net_amount"
    shippingTaxRate := ← requiredDecimal d "shipping_tax_rate"
    lines }

/-- A code and its description; without one the code describes itself. -/
def taxCode (v : Value) : Read (String × String) := do
  let d ← object v "a tax code object"
  match nonEmpty (optionalText d "code") with
  | none => throw (.missingField "code")
  | some code => return (code, (nonEmpty (optionalText d "description")).getD code)

/-- Descriptions by code; the last one given for a code counts. -/
def readTaxCodes (v : Value) : Read (Dict String) := do
  return Dict.ofList (← (← items v "a list of tax codes").mapM taxCode)

end ShopRelay.Answer
