import ShopRelay.Http.Transport
import ShopRelay.Proofs.Http.Redirects

/-!
What it means that a payload was sent with success: the response came to a request that carries the
payload and its signature, unless a redirect on the way had the target asked for something else.
-/

namespace ShopRelay.Http

open Tracker (Sending)

variable {x : Sending} {q : Request} {log : List network.Exchange} {limit : Nat}
  {elapsed : Number.Binary}

/-- The request that carries a sending to an address. -/
def carrying (x : Sending) (url : Url) : Request :=
  ⟨url, .post, requestHeaders x.webhook x.eventType x.payload.text, x.payload.text⟩

/-- When the request for a payload can be put together, and what it is then. -/
theorem request_ok_iff : request x = .ok q ↔
    ∃ url, Url.read? x.webhook.targetUrl = some url ∧ url.hasHost = true ∧
      ((requestHeaders x.webhook x.eventType x.payload.text).all fun h => isHeaderText h.2) = true ∧
      q = carrying x url.withoutCredentials := by
  unfold request
  constructor
  · intro h
    split at h
    · next url hurl =>
      dsimp only at h
      split at h
      · cases h
      · next hhost =>
        split at h
        · cases h
        · next hwritten =>
          cases h
          exact ⟨url, hurl, by simpa using hhost, by simpa using hwritten, rfl⟩
    · cases h
  · rintro ⟨url, hurl, hhost, hwritten, rfl⟩
    simp only [hurl, hhost, hwritten, Bool.not_true, Bool.false_eq_true, if_false]
    rfl

theorem request_ok (h : request x = .ok q) : q = carrying x q.url := by
  obtain ⟨url, -, -, -, rfl⟩ := request_ok_iff.mp h
  rfl
theorem transmit_unbuilt {e : ExchangeError} (h : request x = .error e) :
    transmit limit elapsed x = .done (report
      (requestHeaders x.webhook x.eventType x.payload.text) limit elapsed (.error e)) := by
  unfold transmit
  rw [h]
  rfl

theorem transmit_built (h : request x = .ok q) :
    transmit limit elapsed x = (exchange q).bind fun result => .done (report
      (requestHeaders x.webhook x.eventType x.payload.text) limit elapsed result) := by
  unfold transmit
  rw [h]
  rfl

theorem report_success {headers : Dict String} {result : Except ExchangeError Response}
    (h : (report headers limit elapsed result).status = .success) :
    ∃ r, result = .ok r ∧ 200 ≤ r.status ∧ r.status < 300 := by
  cases result with
  | error e => cases h
  | ok r =>
    by_cases hr : r.isSuccess = true
    · refine ⟨r, rfl, ?_⟩
      simpa [Response.isSuccess] using hr
    · simp [report, hr] at h

/-- How the sending of a payload can end: its request cannot be put together, or goes along a chain
of redirects to where that stops. -/
inductive Ends (x : Sending) : List network.Exchange → Except ExchangeError Response → Prop where
  | unbuilt {e : ExchangeError} (h : request x = .error e) : Ends x [] (.error e)
  | built {q last : Request} {hops rest : List network.Exchange} {left : Nat}
      {result : Except ExchangeError Response} (h : request x = .ok q)
      (leads : Leads q hops last) (count : hops.length + left = maxRedirects)
      (stops : Stops q.url last left rest result) : Ends x (hops ++ rest) result

/-- The report is on what the sending ended with. -/
theorem passes_transmit_ends {z : SendReport} (h : (transmit limit elapsed x).Passes log z) :
    ∃ result, Ends x log result ∧
      z = report (requestHeaders x.webhook x.eventType x.payload.text) limit elapsed result := by
  cases hq : request x with
  | error e =>
    rw [transmit_unbuilt hq] at h
    obtain ⟨rfl, rfl⟩ := Program.passes_done h
    exact ⟨.error e, .unbuilt hq, rfl⟩
  | ok q =>
    rw [transmit_built hq] at h
    obtain ⟨result, hresult, rfl⟩ := Program.passes_map (fun _ => rfl) h
    obtain ⟨hops, last, left, rest, hleads, hcount, rfl, hstops⟩ := passes_follow hresult
    exact ⟨result, .built hq hleads hcount hstops, rfl⟩

/-- A success is the response to the last request of a chain. -/
theorem passes_transmit {z : SendReport} (h : (transmit limit elapsed x).Passes log z)
    (success : z.status = .success) :
    ∃ q hops last r, request x = .ok q ∧ Leads q hops last ∧ hops.length ≤ maxRedirects ∧
      log = hops ++ [⟨last, .response r⟩] ∧ 200 ≤ r.status ∧ r.status < 300 := by
  obtain ⟨result, hends, rfl⟩ := passes_transmit_ends h
  obtain ⟨r, rfl, hstatus⟩ := report_success success
  cases hends with
  | built hq hleads hcount hstops =>
    cases hstops with
    | answered =>
      exact ⟨_, _, _, r, hq, hleads, hcount ▸ Nat.le_add_right _ _, rfl, hstatus⟩

/-- The signature that is sent, if any, is that of the payload. -/
theorem carrying_signature (x : Sending) (url : Url) :
    (carrying x url).headers.lookup signatureHeader =
      x.webhook.secretKey.map (signature · x.payload.text) := by
  cases h : x.webhook.secretKey with
  | none => simp [carrying, requestHeaders, h, List.lookup_cons, signatureHeader, eventTypeHeader]
  | some secret =>
    simp [carrying, requestHeaders, h, List.lookup_cons, signatureHeader, eventTypeHeader]

/-- A sending with success was answered, after some redirects, by a response of the two hundreds.
The request that got it carries the payload just when each redirect had the request repeated. -/
theorem success_carried_unless_redirected {σ : Type}
    (reply : (c : network.Call) → σ → network.Reply c × σ) (s : σ) (limit : Nat)
    (elapsed : Number.Binary) (x : Sending)
    (success : ((transmit limit elapsed x).run reply s).1.status = .success) :
    ∃ (hops : List network.Exchange) (last : Request) (r : Response),
      (transmit limit elapsed x).log reply s = hops ++ [⟨last, .response r⟩] ∧
      200 ≤ r.status ∧ r.status < 300 ∧ hops.length ≤ maxRedirects ∧
      (∀ e ∈ hops, ∃ r, e.reply = .response r ∧ r.status ∈ [301, 302, 303, 307, 308]) ∧
      last.headers.lookup signatureHeader =
        x.webhook.secretKey.map (signature · x.payload.text) ∧
      ((∀ e ∈ hops, Repeats e) → last.method = .post ∧ last.body = x.payload.text) ∧
      ((∃ e ∈ hops, ¬Repeats e) → last.method = .get ∧ last.body = "") := by
  obtain ⟨q, hops, last, r, hq, hleads, hlength, hlog, hlow, hhigh⟩ :=
    passes_transmit (Program.passes_run reply (transmit limit elapsed x) s) success
  have hredirects : ∀ e ∈ hops, ∃ r, e.reply = .response r ∧
      r.status ∈ [301, 302, 303, 307, 308] := by
    intro e he
    obtain ⟨r', hr', hredirect⟩ := hleads.redirects he
    exact ⟨r', hr', List.contains_iff_mem.mp hredirect⟩
  rw [request_ok hq] at hleads
  refine ⟨hops, last, r, hlog, hlow, hhigh, hlength, hredirects, ?_⟩
  by_cases hall : ∀ e ∈ hops, Repeats e
  · have hlast : last = carrying x last.url := hleads.repeated hall
    rw [hlast]
    exact ⟨carrying_signature x _, fun _ => ⟨rfl, rfl⟩,
      fun ⟨e, he, hother⟩ => absurd (hall e he) hother⟩
  · have hlast : last = (carrying x last.url).asking := hleads.emptied (by simpa using hall)
    rw [hlast, Request.lookup_asking _ (by decide)]
    exact ⟨carrying_signature x _, fun h => absurd h hall, fun _ => ⟨rfl, rfl⟩⟩

namespace Sample

def order : Sending where
  webhook :=
    ⟨.ofNat 1, 1, "erp", "http://127.0.0.1:8080/hook", some "s3cret", true, ["order_created"]⟩
  eventType := "order_created"
  payload := ⟨.ofNat 10, "\x7b\"id\":1\x7d", .epoch⟩

/-- Replies with the next one of some replies. -/
def replyNext : (c : network.Call) → List Reply → network.Reply c × List Reply :=
  fun _ replies => (replies.headD .lost, replies.tail)

def accepted : Reply := .response ⟨200, [], some []⟩

def redirect (status : Nat) : Reply :=
  .response ⟨status, [("location", Text.encodeUtf8 "/login")], some []⟩

end Sample

open Sample

theorem success_carried_unless_redirected_moved :
    let replies := [redirect 308, redirect 307, accepted]
    ((transmit 1024 .zero order).run replyNext replies).1.status = .success ∧
      ∃ (hops : List network.Exchange) (last : Request) (r : Response),
        (transmit 1024 .zero order).log replyNext replies = hops ++ [⟨last, .response r⟩] ∧
        hops.length = 2 ∧ last.method = .post ∧ last.body = order.payload.text ∧
        last.headers.lookup signatureHeader = some (signature "s3cret" order.payload.text) := by
  intro replies
  obtain ⟨success, hlength, repeats⟩ :
      ((transmit 1024 .zero order).run replyNext replies).1.status = .success ∧
        ((transmit 1024 .zero order).log replyNext replies).dropLast.length = 2 ∧
        ∀ e ∈ ((transmit 1024 .zero order).log replyNext replies).dropLast, Repeats e := by
    decide +kernel
  obtain ⟨hops, last, r, hlog, -, -, -, -, hsignature, hrepeated, -⟩ :=
    success_carried_unless_redirected replyNext replies 1024 .zero order success
  rw [hlog, List.dropLast_concat] at repeats hlength
  obtain ⟨hmethod, hbody⟩ := hrepeated repeats
  exact ⟨success, hops, last, r, hlog, hlength, hmethod, hbody, hsignature⟩

/-- After a redirect with 303 the target is asked for something else, and what it responds counts
as a success of the sending. -/
theorem success_without_payload :
    ((transmit 1024 .zero order).run replyNext [redirect 303, accepted]).1.status = .success ∧
      (((transmit 1024 .zero order).log replyNext [redirect 303, accepted]).map
        fun e => (Request.method e.call, Request.body e.call)) =
          [(.post, "\x7b\"id\":1\x7d"), (.get, "")] := by
  decide +kernel

end ShopRelay.Http
