import ShopRelay.Http.Message
import ShopRelay.Http.Uri
import ShopRelay.Program

/-!
Sending a request and following its redirects. After 301, 302 and 303 the next request asks with an
empty body; after 307 and 308 it is the same as before.
-/

namespace ShopRelay.Http

def network : Interface where
  Call := Request
  Reply _ := Reply

inductive ExchangeError where
  /-- The request could not be put together. -/
  | unbuildable
  /-- The address names no host, is not one of the web, or cannot stand in a request. -/
  | unsuitable (url : Url)
  /-- No response came; the address is that of the first request. -/
  | unanswered (url : Url)
  /-- One redirect too many, given at this address. -/
  | tooManyRedirects (url : Url)
deriving DecidableEq

def ExchangeError.message : ExchangeError → String
  | .unbuildable => "builder error"
  | .unsuitable url => "builder error for url (" ++ url.text ++ ")"
  | .unanswered url => "error sending request for url (" ++ url.text ++ ")"
  | .tooManyRedirects url => "error following redirect for url (" ++ url.text ++ ")"

def maxRedirects : Nat := 10

def isSuitable (url : Url) : Bool :=
  (url.scheme == "http" || url.scheme == "https") && (Uri.read? url.text).isSome

/-- The address to which a response redirects, as the next request will write it. -/
def Response.location? (r : Response) (base : Url) : Option Url := do
  guard r.isRedirect
  let location ← Text.decodeUtf8? (← r.header? "location")
  let url ← Url.readAt? (some base) location
  Url.read? (← Uri.read? url.text).text

/-- The request that follows a redirect. -/
def redirected (request : Request) (status : Nat) (url : Url) : Request :=
  if status == 307 || status == 308 then { request with url }
  else
    { url, method := .get, headers := request.headers.filter (·.1 ≠ "Content-Type"), body := "" }

/-- Follows at most so many redirects from a request; `first` is the address of the first one. -/
def follow (first : Url) : Nat → Request → Program network (Except ExchangeError Response)
  | redirects, request =>
    if !isSuitable request.url then .done (.error (.unsuitable request.url))
    else .call request fun
      | .refused => .done (.error (.unanswered first))
      | .lost => .done (.error (.unanswered first))
      | .response r =>
        match r.location? request.url with
        | none => .done (.ok r)
        | some url =>
          match redirects with
          | 0 => .done (.error (.tooManyRedirects request.url))
          | n + 1 => follow first n (redirected request r.status url)

def exchange (request : Request) : Program network (Except ExchangeError Response) :=
  follow request.url maxRedirects request

end ShopRelay.Http
