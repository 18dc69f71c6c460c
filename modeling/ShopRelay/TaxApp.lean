import ShopRelay.Webhook

/-!
The app that answers for taxes: the one installed last of those that answer every tax event.
-/

namespace ShopRelay.TaxApp

def cacheKey : String := "webhook_tax_codes"

def defaultCode : String := "UNMAPPED"

def defaultDescription : String := "Unmapped Product/Product Type"

def events : List StoreEvent := [.checkoutCalculateTaxes, .orderCalculateTaxes, .fetchTaxCodes]

def qualifies (app : App) : Bool := events.all app.handles

/-- The later of two apps unless the earlier one has the greater id. -/
def later (chosen : Option App) (app : App) : Option App :=
  match chosen with
  | some best => if app.id < best.id then some best else some app
  | none => some app

def current? (apps : List App) : Option App := (apps.filter qualifies).foldl later none

def codeKey (app : App) : String := app.identifier ++ ".code"

def descriptionKey (app : App) : String := app.identifier ++ ".description"

end ShopRelay.TaxApp
