import ShopRelay.Proofs.Http.Sending

/-!
The report on a sending, whatever the outside world replies: what was sent, and what came back of
it, cut down to a number of characters.
-/

namespace ShopRelay.Http

open Text (Bytes)

open Tracker (Sending)

variable {x : Sending} {q : Request} {log : List network.Exchange} {limit : Nat}
  {elapsed : Number.Binary} {result : Except ExchangeError Response}

/-- A character that may stand in a header. -/
def Printed (c : Char) : Prop := c = '\t' ∨ ' ' ≤ c ∧ c ≠ '\x7f'

/-- A sending can be made to an address that is read from that of its webhook, when the address is
one of the web and names a host, and the event type can be written as a header. -/
structure Sendable (x : Sending) (url : Url) : Prop where
  address : Url.read? x.webhook.targetUrl = some url
  host : url.hasHost = true
  scheme : url.scheme = "http" ∨ url.scheme = "https"
  written : (Uri.read? url.withoutCredentials.text).isSome = true
  eventType : ∀ c ∈ x.eventType.toList, Printed c

theorem isHeaderText_iff {s : String} : isHeaderText s = true ↔ ∀ c ∈ s.toList, Printed c := by
  simp [isHeaderText, Printed]

theorem isHeaderText_signature (secret payload : String) :
    isHeaderText (signature secret payload) = true := by
  rw [isHeaderText_iff]
  intro c hc
  have hdigit : ∀ c ∈ "0123456789abcdef".toList, Printed c :=
    isHeaderText_iff.mp (by decide)
  exact hdigit c (Text.mem_hexBytes hc)

/-- Of the headers only the event type may hold what cannot be written. -/
theorem requestHeaders_written (w : Webhook) (eventType payload : String) :
    ((requestHeaders w eventType payload).all fun h => isHeaderText h.2) =
      isHeaderText eventType := by
  have hplain : isHeaderText "application/json" = true := by decide
  cases hsecret : w.secretKey with
  | none => simp [requestHeaders, hsecret, hplain]
  | some secret => simp [requestHeaders, hsecret, hplain, isHeaderText_signature]

/-- A request that was put together is made when its address suits. -/
theorem passes_follow_head {first : Url} {n : Nat} (h : (follow first n q).Passes log result) :
    (log.head?.map fun e => (e.call : Request)) = if isSuitable q.url then some q else none := by
  unfold follow at h
  cases hsuitable : isSuitable q.url with
  | false =>
    simp only [hsuitable, Bool.not_false, if_true] at h
    obtain ⟨rfl, -⟩ := Program.passes_done h
    rfl
  | true =>
    simp only [hsuitable, Bool.not_true, Bool.false_eq_true, if_false] at h
    cases h with
    | call reply rest => rfl

theorem isSuitable_iff {url : Url} : isSuitable url = true ↔
    (url.scheme = "http" ∨ url.scheme = "https") ∧ (Uri.read? url.text).isSome = true := by
  simp [isSuitable]

/-- A sending can be made when its request is put together and its address suits. -/
theorem sendable_iff : (request x = .ok q ∧ isSuitable q.url = true) ↔
    ∃ url, Sendable x url ∧ q = carrying x url.withoutCredentials := by
  rw [request_ok_iff, requestHeaders_written, isHeaderText_iff, isSuitable_iff]
  constructor
  · rintro ⟨⟨url, haddress, hhost, htype, rfl⟩, hscheme, hwritten⟩
    exact ⟨url, ⟨haddress, hhost, hscheme, hwritten, htype⟩, rfl⟩
  · rintro ⟨url, hurl, rfl⟩
    exact ⟨⟨url, hurl.address, hurl.host, hurl.eventType, rfl⟩, hurl.scheme, hurl.written⟩

/-- The first request carries the payload to the webhook, and is made whenever that can be done. -/
theorem passes_transmit_head {z : SendReport} (h : (transmit limit elapsed x).Passes log z) :
    (log.head?.map fun e => (e.call : Request)) = some q ↔
      ∃ url, Sendable x url ∧ q = carrying x url.withoutCredentials := by
  rw [← sendable_iff]
  cases hrequest : request x with
  | error e =>
    rw [transmit_unbuilt hrequest] at h
    obtain ⟨rfl, -⟩ := Program.passes_done h
    exact ⟨nofun, nofun⟩
  | ok built =>
    rw [transmit_built hrequest] at h
    obtain ⟨result, hresult, -⟩ := Program.passes_map (fun _ => rfl) h
    rw [passes_follow_head hresult]
    constructor
    · intro h
      split at h
      · next hsuitable =>
        cases h
        exact ⟨rfl, hsuitable⟩
      · cases h
    · rintro ⟨hq, hsuitable⟩
      cases hq
      exact if_pos hsuitable

theorem not_success_of_redirect {r : Response} (h : r.isRedirect = true) :
    r.isSuccess = false := by
  simp only [Response.isRedirect, List.contains_iff_mem, List.mem_cons, List.not_mem_nil,
    or_false] at h
  rcases h with h | h | h | h | h <;> simp [Response.isSuccess, h]

/-- The last reply is a response of the two hundreds. -/
def Accepted (log : List network.Exchange) : Prop :=
  ∃ q r, log.getLast? = some ⟨q, .response r⟩ ∧ 200 ≤ r.status ∧ r.status ≤ 299

theorem isSuccess_iff {r : Response} :
    r.isSuccess = true ↔ 200 ≤ r.status ∧ r.status ≤ 299 := by
  simp [Response.isSuccess, Nat.lt_succ_iff]

/-- No redirect counts as success, so a response of the two hundreds is what the sending ends
with. -/
theorem Ends.accepted_iff (h : Ends x log result) :
    Accepted log ↔ ∃ r, result = .ok r ∧ r.isSuccess = true := by
  constructor
  · rintro ⟨q, r, hlast, hstatus⟩
    rw [← isSuccess_iff] at hstatus
    cases h with
    | unbuilt => cases hlast
    | built hq leads count stops =>
      cases stops with
      | unsuitable =>
        rw [List.append_nil] at hlast
        obtain ⟨r', hr', hredirect⟩ := leads.redirects (List.mem_of_getLast? hlast)
        cases hr'
        rw [not_success_of_redirect hredirect] at hstatus
        cases hstatus
      | unanswered hreply =>
        rw [List.getLast?_concat] at hlast
        cases hlast
        exact absurd rfl (hreply r)
      | answered =>
        rw [List.getLast?_concat] at hlast
        cases hlast
        exact ⟨r, rfl, hstatus⟩
      | exhausted hurl =>
        rw [List.getLast?_concat] at hlast
        cases hlast
        rw [not_success_of_redirect (isRedirect_of_location hurl)] at hstatus
        cases hstatus
  · rintro ⟨r, rfl, hstatus⟩
    cases h with
    | built hq leads count stops =>
      cases stops with
      | answered => exact ⟨_, r, List.getLast?_concat, isSuccess_iff.mp hstatus⟩

/-- The text that is reported: the body of the response, or what prevented one. -/
def resultText : Except ExchangeError Response → String
  | .error e => e.message
  | .ok r => r.body.elim "error decoding response body" Text.decodeUtf8Lossy

/-- A text that writes each byte in two lower-case digits. -/
structure Hexadecimal (s : String) (bs : Bytes) : Prop where
  length : s.length = 2 * bs.length
  digits : ∀ c ∈ s.toList, c ∈ "0123456789abcdef".toList
  bytes : ∀ i b, bs[i]? = some b →
    Text.hexNumber? ((s.toList.drop (2 * i)).take 2) = some b.toNat

/-- What the report on a sending says. -/
structure Reports (x : Sending) (limit : Nat) (log : List network.Exchange) (z : SendReport) :
    Prop where
  headers : z.requestHeaders =
    [("Content-Type", "application/json"), ("X-Event-Type", x.eventType)] ++
      (x.webhook.secretKey.map fun secret =>
        ("X-Webhook-Signature", signature secret x.payload.text)).toList
  signed : ∀ secret, Hexadecimal (signature secret x.payload.text)
    (Digest.hmac (Text.encodeUtf8 secret) (Text.encodeUtf8 x.payload.text))
  /-- The first request posts the payload, and it is made whenever that can be done. -/
  carried : ∀ q, (log.head?.map fun e => (e.call : Request)) = some q ↔
    ∃ url, Sendable x url ∧ q = ⟨url.withoutCredentials, .post, z.requestHeaders, x.payload.text⟩
  ended : ∃ result, Ends x log result ∧
    z.content = ⟨.ofList ((resultText result).toList.take limit),
      limit < (resultText result).length⟩ ∧
    ∀ e, result = .error e → z.status = .failed ∧ z.responseHeaders = []
  status : z.status = .success ∧ Accepted log ∨ z.status = .failed ∧ ¬Accepted log

theorem hexadecimal_hexBytes (bs : Bytes) : Hexadecimal (Text.hexBytes bs) bs where
  length := Text.length_hexBytes bs
  digits _ := Text.mem_hexBytes
  bytes _ _ := Text.hexNumber_hexBytes

theorem requestHeaders_eq (w : Webhook) (eventType payload : String) :
    requestHeaders w eventType payload =
      [("Content-Type", "application/json"), ("X-Event-Type", eventType)] ++
        (w.secretKey.map fun secret => ("X-Webhook-Signature", signature secret payload)).toList := by
  unfold requestHeaders
  cases w.secretKey with
  | none => rfl
  | some secret => rfl

theorem report_content (headers : Dict String) :
    (report headers limit elapsed result).content =
      ⟨.ofList ((resultText result).toList.take limit), limit < (resultText result).length⟩ := by
  cases result with
  | error e => exact Excerpt.ofText_eq e.message limit
  | ok r => exact Excerpt.ofText_eq (bodyText r) limit

/-- A report is of a success or of a failure. -/
theorem report_status (headers : Dict String) :
    ((report headers limit elapsed result).status = .success ∧
      ∃ r, result = .ok r ∧ r.isSuccess = true) ∨
    ((report headers limit elapsed result).status = .failed ∧
      ¬∃ r, result = .ok r ∧ r.isSuccess = true) := by
  cases result with
  | error e => exact .inr ⟨rfl, nofun⟩
  | ok r =>
    by_cases hr : r.isSuccess = true
    · exact .inl ⟨if_pos hr, r, rfl, hr⟩
    · refine .inr ⟨if_neg hr, ?_⟩
      rintro ⟨r', hr', hsuccess⟩
      cases hr'
      exact hr hsuccess

/-- What is reported of a sending is what was sent, and what it ended with. -/
theorem sending_reported {σ : Type} (reply : (c : network.Call) → σ → network.Reply c × σ) (s : σ)
    (limit : Nat) (elapsed : Number.Binary) (x : Sending) :
    Reports x limit ((transmit limit elapsed x).log reply s)
      ((transmit limit elapsed x).run reply s).1 := by
  have hpasses := Program.passes_run reply (transmit limit elapsed x) s
  obtain ⟨result, hends, hreport⟩ := passes_transmit_ends hpasses
  have hhead (q : Request) := passes_transmit_head (q := q) hpasses
  rw [hreport]
  have hheaders : (report (requestHeaders x.webhook x.eventType x.payload.text) limit elapsed
      result).requestHeaders = requestHeaders x.webhook x.eventType x.payload.text := by
    cases result with
    | error e => rfl
    | ok r => rfl
  refine ⟨hheaders.trans (requestHeaders_eq _ _ _), fun secret => hexadecimal_hexBytes _,
    ?carried, ⟨result, hends, report_content _, fun e he => ?failed⟩, ?success⟩
  case carried =>
    rw [hheaders]
    exact hhead
  case failed =>
    rw [he]
    exact ⟨rfl, rfl⟩
  case success =>
    rw [hends.accepted_iff]
    exact report_status _

end ShopRelay.Http
