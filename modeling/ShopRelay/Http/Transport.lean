import ShopRelay.Digest.Hmac
import ShopRelay.Http.Exchange
import ShopRelay.Tracker.Call

/-!
Sending a payload to the target of a webhook over HTTP. The payload is signed when the webhook has
a secret, and the report holds what was sent and what came back.
-/

namespace ShopRelay.Http

open Tracker (Sending)

def eventTypeHeader : String := "X-Event-Type"

def signatureHeader : String := "X-Webhook-Signature"

/-- The keyed hash of a payload in hexadecimal digits. -/
def signature (secret payload : String) : String :=
  Text.hexBytes (Digest.hmac (Text.encodeUtf8 secret) (Text.encodeUtf8 payload))

/-- An empty secret is a secret. -/
def requestHeaders (webhook : Webhook) (eventType payload : String) : Dict String :=
  let plain := [("Content-Type", "application/json"), (eventTypeHeader, eventType)]
  match webhook.secretKey with
  | some secret => plain ++ [(signatureHeader, signature secret payload)]
  | none => plain

/-- A header may hold tabs but no other control characters. -/
def isHeaderText (s : String) : Bool :=
  s.toList.all fun c => c == '\t' || (' ' ≤ c && c ≠ '\x7f')

/-- The request for a payload, unless its address or a header cannot be written. -/
def request (s : Sending) : Except ExchangeError Request := do
  let some url := Url.read? s.webhook.targetUrl | throw .unbuildable
  if !url.hasHost then throw (.unsuitable url)
  let headers := requestHeaders s.webhook s.eventType s.payload.text
  if !headers.all fun h => isHeaderText h.2 then throw .unbuildable
  return ⟨url.withoutCredentials, .post, headers, s.payload.text⟩

/-- The headers whose values are visible ASCII, spaces and tabs; the last value of a name counts. -/
def shownHeaders (r : Response) : Dict String :=
  let shown := r.headers.filter fun h => Response.isVisible h.2
  Dict.ofList (shown.map fun h => (h.1, String.ofList (h.2.map fun b => Char.ofNat b.toNat)))

def bodyText (r : Response) : String :=
  r.body.elim "error decoding response body" Text.decodeUtf8Lossy

/-- The report on a response, or on why there is none. -/
def report (headers : Dict String) (limit : Nat) (elapsed : Number.Binary) :
    Except ExchangeError Response → SendReport
  | .error e => ⟨.ofText e.message limit, headers, [], elapsed, .failed⟩
  | .ok r =>
    ⟨.ofText (bodyText r) limit, headers, shownHeaders r, elapsed,
      if r.isSuccess then .success else .failed⟩

/-- Sends a payload; a success is any response of the two hundreds. -/
def transmit (limit : Nat) (elapsed : Number.Binary) (s : Sending) :
    Program network SendReport := do
  let headers := requestHeaders s.webhook s.eventType s.payload.text
  let result ← match request s with
    | .error e => .done (.error e)
    | .ok request => exchange request
  return report headers limit elapsed result

end ShopRelay.Http
