import ShopRelay.Http.Exchange
import ShopRelay.Proofs.Program

/-!
Chains of redirects: which requests are made on the way to a response, and what is left of the first
one in the last.
-/

namespace ShopRelay.Http

/-- The redirects that lead from a request to another one. -/
inductive Leads : Request → List network.Exchange → Request → Prop where
  | here (q : Request) : Leads q [] q
  | on {q last : Request} {r : Response} {url : Url} {hops : List network.Exchange}
      (redirects : r.location? q.url = some url)
      (rest : Leads (redirected q r.status url) hops last) :
    Leads q (⟨q, .response r⟩ :: hops) last

variable {q last : Request} {hops log : List network.Exchange}

/-- How a chain of redirects from an address can end at its last request, when so many more may be
followed. -/
inductive Stops (first : Url) (last : Request) :
    Nat → List network.Exchange → Except ExchangeError Response → Prop where
  | unsuitable {left : Nat} (h : isSuitable last.url = false) :
    Stops first last left [] (.error (.unsuitable last.url))
  | unanswered {left : Nat} {reply : Reply} (h : ∀ r, reply ≠ .response r) :
    Stops first last left [⟨last, reply⟩] (.error (.unanswered first))
  | answered {left : Nat} {r : Response} (h : r.location? last.url = none) :
    Stops first last left [⟨last, .response r⟩] (.ok r)
  | exhausted {r : Response} {url : Url} (h : r.location? last.url = some url) :
    Stops first last 0 [⟨last, .response r⟩] (.error (.tooManyRedirects last.url))

/-- A request is the last one, or is followed by the one that a redirect leads to. -/
theorem passes_follow_cases {first : Url} {n : Nat} {result : Except ExchangeError Response}
    (h : (follow first n q).Passes log result) :
    Stops first q n log result ∨
      ∃ r url m rest, r.location? q.url = some url ∧ n = m + 1 ∧
        log = ⟨q, .response r⟩ :: rest ∧
        (follow first m (redirected q r.status url)).Passes rest result := by
  unfold follow at h
  split at h
  · next hunsuitable =>
    obtain ⟨rfl, rfl⟩ := Program.passes_done h
    exact .inl (.unsuitable (by simpa using hunsuitable))
  · cases h with
    | call reply rest =>
      cases reply with
      | refused =>
        obtain ⟨rfl, rfl⟩ := Program.passes_done rest
        exact .inl (.unanswered nofun)
      | lost =>
        obtain ⟨rfl, rfl⟩ := Program.passes_done rest
        exact .inl (.unanswered nofun)
      | response r =>
        dsimp only at rest
        split at rest
        · next hnowhere =>
          obtain ⟨rfl, rfl⟩ := Program.passes_done rest
          exact .inl (.answered hnowhere)
        · next url hurl =>
          cases n with
          | zero =>
            obtain ⟨rfl, rfl⟩ := Program.passes_done rest
            exact .inl (.exhausted hurl)
          | succ m => exact .inr ⟨r, url, m, _, hurl, rfl, rfl, rest⟩

/-- Following redirects goes along a chain to a request at which it stops. -/
theorem passes_follow {first : Url} {n : Nat} {result : Except ExchangeError Response}
    (h : (follow first n q).Passes log result) :
    ∃ hops last left rest, Leads q hops last ∧ hops.length + left = n ∧ log = hops ++ rest ∧
      Stops first last left rest result := by
  induction n generalizing q log with
  | zero =>
    obtain hstops | ⟨r, url, m, rest, -, hm, -⟩ := passes_follow_cases h
    · exact ⟨[], q, 0, log, .here q, rfl, rfl, hstops⟩
    · cases hm
  | succ n ih =>
    obtain hstops | ⟨r, url, m, rest, hurl, hm, rfl, hrest⟩ := passes_follow_cases h
    · exact ⟨[], q, n + 1, log, .here q, Nat.zero_add _, rfl, hstops⟩
    · cases hm
      obtain ⟨hops, last, left, tail, hleads, rfl, rfl, hstops⟩ := ih hrest
      exact ⟨_, last, left, tail, .on hurl hleads, Nat.succ_add _ _, rfl, hstops⟩

/-- A request is repeated after 307 and 308. -/
def Repeats (e : network.Exchange) : Prop :=
  match (e.reply : Reply) with
  | .response r => r.status = 307 ∨ r.status = 308
  | .refused => False
  | .lost => False

instance : DecidablePred Repeats
  | ⟨_, .response r⟩ => inferInstanceAs (Decidable (r.status = 307 ∨ r.status = 308))
  | ⟨_, .refused⟩ => .isFalse id
  | ⟨_, .lost⟩ => .isFalse id

theorem redirected_repeated {r : Response} (h : Repeats ⟨q, .response r⟩) (url : Url) :
    redirected q r.status url = { q with url } := by
  have hstatus : r.status = 307 ∨ r.status = 308 := h
  simp [redirected, hstatus]

/-- The request that asks where another one posts. -/
def Request.asking (q : Request) : Request :=
  { q with method := .get, headers := q.headers.filter (·.1 ≠ "Content-Type"), body := "" }

theorem redirected_asking {r : Response} (h : ¬Repeats ⟨q, .response r⟩) (url : Url) :
    redirected q r.status url = { q.asking with url } := by
  have hstatus : ¬(r.status = 307 ∨ r.status = 308) := h
  simp [redirected, hstatus, Request.asking]

theorem Request.asking_asking (q : Request) (url : Url) :
    { q.asking with url }.asking = { q.asking with url } := by
  simp [Request.asking]

theorem Request.lookup_asking (q : Request) {name : String} (h : name ≠ "Content-Type") :
    q.asking.headers.lookup name = q.headers.lookup name := by
  change (q.headers.filter (·.1 ≠ "Content-Type")).lookup name = q.headers.lookup name
  induction q.headers with
  | nil => rfl
  | cons entry headers ih =>
    obtain ⟨other, value⟩ := entry
    by_cases hother : other = "Content-Type"
    · have hname : (name == other) = false := by simpa [hother] using h
      rw [List.filter_cons_of_neg (by simpa using hother), List.lookup_cons, hname]
      exact ih
    · rw [List.filter_cons_of_pos (by simpa using hother), List.lookup_cons, List.lookup_cons, ih]

/-- Where each redirect has the request repeated, it is the same up to its address. -/
theorem Leads.repeated (h : Leads q hops last) (repeats : ∀ e ∈ hops, Repeats e) :
    last = { q with url := last.url } := by
  induction h with
  | here q => rfl
  | @on q last r url hops _ _ ih =>
    obtain ⟨hfirst, hrest⟩ := List.forall_mem_cons.mp repeats
    rw [redirected_repeated hfirst] at ih
    exact ih hrest

/-- After any other redirect nothing is posted any more. -/
theorem Leads.emptied (h : Leads q hops last) (other : ∃ e ∈ hops, ¬Repeats e) :
    last = { q.asking with url := last.url } := by
  induction h with
  | here q =>
    obtain ⟨e, he, -⟩ := other
    cases he
  | @on q last r url hops _ rest ih =>
    by_cases hfirst : Repeats ⟨q, .response r⟩
    · obtain ⟨e, he, hother⟩ := other
      obtain rfl | he := List.mem_cons.mp he
      · exact absurd hfirst hother
      · rw [redirected_repeated hfirst] at ih
        exact ih ⟨e, he, hother⟩
    · rw [redirected_asking hfirst] at ih rest
      by_cases hall : ∀ e ∈ hops, Repeats e
      · exact rest.repeated hall
      · rw [Request.asking_asking] at ih
        exact ih (by simpa using hall)

theorem isRedirect_of_location {r : Response} {base url : Url} (h : r.location? base = some url) :
    r.isRedirect = true := by
  unfold Response.location? at h
  cases hr : r.isRedirect with
  | true => rfl
  | false =>
    rw [hr] at h
    cases h

/-- No hop is a success. -/
theorem Leads.redirects (h : Leads q hops last) {e : network.Exchange} (he : e ∈ hops) :
    ∃ r, e.reply = .response r ∧ r.isRedirect = true := by
  induction h with
  | here q => cases he
  | on redirects _ ih =>
    obtain rfl | he := List.mem_cons.mp he
    · exact ⟨_, rfl, isRedirect_of_location redirects⟩
    · exact ih he

end ShopRelay.Http
