import ShopRelay.Text.Base64
import ShopRelay.Text.Digits
import ShopRelay.Text.Split
import ShopRelay.Webhook

/-!
Ids that name a thing of an app throughout the store: the mark `app`, the id of the app and the
app's own id of the thing, joined by colons. The ids of shipping methods are in Base64.
-/

namespace ShopRelay

/-- A thing of an app. -/
structure AppScoped where
  appId : Int
  localId : String
deriving DecidableEq, Repr

/-- A text that is no such id. -/
structure InvalidAppId where
  text : String
deriving DecidableEq, Repr

def InvalidAppId.message (e : InvalidAppId) : String := "invalid app id '" ++ e.text ++ "'"

namespace AppScoped

def mark : String := "app"

def compose (x : AppScoped) : String :=
  mark ++ ":" ++ String.ofList (Text.intDigits x.appId) ++ ":" ++ x.localId

/-- All three segments must be there and none empty. -/
def split? (s : String) : Except InvalidAppId AppScoped :=
  match Text.split ':' s.toList with
  | [first, number, localId] =>
    if first = mark.toList ∧ localId ≠ [] then
      match Text.readInt64? (String.ofList number) with
      | some appId => .ok ⟨appId, String.ofList localId⟩
      | none => .error ⟨s⟩
    else .error ⟨s⟩
  | _ => .error ⟨s⟩

def toPaymentId (app : App) (gatewayId : String) : String := compose ⟨app.id, gatewayId⟩

def ofPaymentId? (s : String) : Except InvalidAppId AppScoped := split? s

def toShippingId (app : App) (methodId : String) : String :=
  Text.Base64.encode (Text.encodeUtf8 (compose ⟨app.id, methodId⟩))

/-- A text that is not Base64 of a text is refused as it is, one that is, by what it holds. -/
def ofShippingId? (s : String) : Except InvalidAppId AppScoped :=
  match (Text.Base64.decode? s).bind Text.decodeUtf8? with
  | some decoded => split? decoded
  | none => .error ⟨s⟩

end AppScoped

end ShopRelay
