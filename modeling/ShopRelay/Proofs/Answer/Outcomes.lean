import ShopRelay.Answer.Payment
import ShopRelay.Proofs.Answer.Optional
import ShopRelay.Proofs.Dict
import ShopRelay.Proofs.Result

/-!
The outcome of a payment action is read from ten members of an answer, none of which has to be
there. Only what is no object is rejected.
-/

namespace ShopRelay.Answer

open Json
open Number (Decimal)

/-- The members that count. -/
def outcomeMembers : List String :=
  ["error", "action_required", "kind", "amount", "transaction_id", "customer_id", "psp_reference",
    "action_required_data", "payment_method", "transaction_already_processed"]

/-- Each part of a payment method is what the member of its name is read as. -/
structure MethodOf (d : Dict Value) (m : PaymentMethod) : Prop where
  brand : ∀ s, m.brand = some s ↔ Holds Spells d "brand" s
  expMonth : ∀ n, m.expMonth = some n ↔ Holds (toInt? · = some ·) d "exp_month" n
  expYear : ∀ n, m.expYear = some n ↔ Holds (toInt? · = some ·) d "exp_year" n
  last4 : ∀ s, m.last4 = some s ↔ Holds Spells d "last_4" s
  name : ∀ s, m.name = some s ↔ Holds Spells d "name" s
  kind : ∀ s, m.kind = some s ↔ Holds Spells d "type" s

/-- The outcome that an app answers to an action on a payment. -/
structure OutcomeOf (payment : Payment) (kind : String) (d : Dict Value) (o : PaymentOutcome) :
    Prop where
  success : o.isSuccess = true ↔ o.error = none
  error : o.error = none ↔ Denied d "error"
  message : ∀ v, d.get? "error" = some v → ¬Falsy v → o.error = some (errorText v)
  actionRequired : o.actionRequired = true ↔ ¬Denied d "action_required"
  kind : HoldsOr Spells d "kind" kind o.kind
  amount : HoldsOr (toDecimal? · = some ·) d "amount" payment.amount o.amount
  currency : o.currency = payment.currency
  transactionId : HoldsOr Spells d "transaction_id" "" o.transactionId
  customerId : ∀ s, o.customerId = some s ↔ Holds Spells d "customer_id" s
  pspReference : ∀ s, o.pspReference = some s ↔ Holds Spells d "psp_reference" s
  actionRequiredData : ∀ v, o.actionRequiredData = some v ↔
    d.get? "action_required_data" = some v ∧ v ≠ .null
  hasMethod : o.paymentMethod ≠ none ↔ ∃ e, d.get? "payment_method" = some (.obj e) ∧ e ≠ []
  method : ∀ m, o.paymentMethod = some m ↔
    ∃ e, (d.get? "payment_method" = some (.obj e) ∧ e ≠ []) ∧ MethodOf e m
  rawResponse : o.rawResponse = .obj d
  alreadyProcessed : o.alreadyProcessed = true ↔ ¬Denied d "transaction_already_processed"

attribute [ext] PaymentMethod PaymentOutcome

variable {payment : Payment} {kind key : String} {d e : Dict Value} {v : Value}
  {o o' : PaymentOutcome}

theorem optionalInt_eq_some {n : Int} :
    optionalInt d key = some n ↔ Holds (toInt? · = some ·) d key n :=
  bind_eq_some fun _ _ => Iff.rfl

/-- Two parts are the same when the same is said of both. -/
theorem eq_of_eq_some_iff {α : Type} {x y : Option α} {P : α → Prop} (hx : ∀ a, x = some a ↔ P a)
    (hy : ∀ a, y = some a ↔ P a) : x = y :=
  Option.ext fun a => (hx a).trans (hy a).symm

theorem paymentMethod_eq_iff {m : PaymentMethod} : paymentMethod d = m ↔ MethodOf d m := by
  constructor
  · rintro rfl
    exact ⟨fun _ => optionalText_eq_some, fun _ => optionalInt_eq_some,
      fun _ => optionalInt_eq_some, fun _ => optionalText_eq_some, fun _ => optionalText_eq_some,
      fun _ => optionalText_eq_some⟩
  · intro h
    apply PaymentMethod.ext
    case brand => exact eq_of_eq_some_iff (fun _ => optionalText_eq_some) h.brand
    case expMonth => exact eq_of_eq_some_iff (fun _ => optionalInt_eq_some) h.expMonth
    case expYear => exact eq_of_eq_some_iff (fun _ => optionalInt_eq_some) h.expYear
    case last4 => exact eq_of_eq_some_iff (fun _ => optionalText_eq_some) h.last4
    case name => exact eq_of_eq_some_iff (fun _ => optionalText_eq_some) h.name
    case kind => exact eq_of_eq_some_iff (fun _ => optionalText_eq_some) h.kind

/-- A member that is an object, and not empty. -/
theorem object_eq_some :
    ((d.get? key).filter isTrue).bind Value.asObj? = some e ↔
      d.get? key = some (.obj e) ∧ e ≠ [] := by
  simp only [Option.bind_eq_some_iff, Option.filter_eq_some_iff]
  constructor
  · rintro ⟨v, ⟨hv, htrue⟩, hobj⟩
    cases v with
    | obj members =>
      obtain rfl := Option.some.inj hobj
      exact ⟨hv, by simpa [isTrue] using htrue⟩
    | _ => cases hobj
  · rintro ⟨hv, hne⟩
    refine ⟨.obj e, ⟨hv, ?_⟩, rfl⟩
    simpa [isTrue] using hne

theorem given_eq_some :
    ((d.get? key).filter fun
      | .null => false
      | _ => true) = some v ↔ d.get? key = some v ∧ v ≠ .null := by
  rw [Option.filter_eq_some_iff]
  cases v <;> simp

theorem outcomeOf_of_ok (h : readPaymentOutcome payment (.obj d) kind = .ok o) :
    OutcomeOf payment kind d o := by
  obtain rfl := Except.ok.inj h
  constructor
  case success => exact Option.isNone_iff_eq_none
  case error => exact Option.map_eq_none_iff.trans filter_isTrue_eq_none
  case message =>
    intro v hv hfalsy
    rw [← isTrue_eq_false, Bool.not_eq_false] at hfalsy
    have htrue : (d.get? "error").filter isTrue = some v :=
      Option.filter_eq_some_iff.mpr ⟨hv, hfalsy⟩
    exact congrArg (Option.map errorText) htrue
  case actionRequired => exact flag_eq_true
  case kind => exact (getD_eq_iff fun _ => optionalText_eq_some).mp rfl
  case amount => exact (getD_eq_iff fun _ => bind_eq_some fun _ _ => Iff.rfl).mp rfl
  case currency => rfl
  case transactionId => exact (getD_eq_iff fun _ => optionalText_eq_some).mp rfl
  case customerId => exact fun _ => optionalText_eq_some
  case pspReference => exact fun _ => optionalText_eq_some
  case actionRequiredData => exact fun _ => given_eq_some
  case hasMethod =>
    rw [Ne, Option.map_eq_none_iff, ← Ne, Option.ne_none_iff_exists']
    simp only [object_eq_some]
  case method =>
    intro m
    simp only [Option.map_eq_some_iff, object_eq_some, paymentMethod_eq_iff]
  case rawResponse => rfl
  case alreadyProcessed => exact flag_eq_true

/-- Nothing is left open. -/
theorem OutcomeOf.unique (h : OutcomeOf payment kind d o) (h' : OutcomeOf payment kind d o') :
    o = o' := by
  have hamount (v : Value) (x y : Decimal) (hx : toDecimal? v = some x)
      (hy : toDecimal? v = some y) : x = y := Option.some.inj (hx.symm.trans hy)
  have htext (v : Value) (x y : String) (hx : Spells v x) (hy : Spells v y) : x = y := hx.unique hy
  apply PaymentOutcome.ext
  case isSuccess =>
    exact Bool.eq_iff_iff.mpr ((h.success.trans h.error).trans (h'.success.trans h'.error).symm)
  case actionRequired =>
    exact Bool.eq_iff_iff.mpr (h.actionRequired.trans h'.actionRequired.symm)
  case kind => exact h.kind.unique htext h'.kind
  case amount => exact h.amount.unique hamount h'.amount
  case currency => rw [h.currency, h'.currency]
  case transactionId => exact h.transactionId.unique htext h'.transactionId
  case error =>
    by_cases hdenied : Denied d "error"
    · rw [h.error.mpr hdenied, h'.error.mpr hdenied]
    · obtain ⟨v, hv⟩ := not_forall.mp hdenied
      obtain ⟨hget, hfalsy⟩ := Classical.not_imp.mp hv
      rw [h.message v hget hfalsy, h'.message v hget hfalsy]
  case customerId => exact eq_of_eq_some_iff h.customerId h'.customerId
  case pspReference => exact eq_of_eq_some_iff h.pspReference h'.pspReference
  case actionRequiredData => exact eq_of_eq_some_iff h.actionRequiredData h'.actionRequiredData
  case paymentMethod => exact eq_of_eq_some_iff h.method h'.method
  case rawResponse => rw [h.rawResponse, h'.rawResponse]
  case alreadyProcessed =>
    exact Bool.eq_iff_iff.mpr (h.alreadyProcessed.trans h'.alreadyProcessed.symm)

theorem readPaymentOutcome_ok :
    readPaymentOutcome payment v kind = .ok o ↔ ∃ d, v = .obj d ∧ OutcomeOf payment kind d o := by
  constructor
  · intro h
    obtain ⟨d, hd, -⟩ := Result.bind_ok h
    obtain rfl := object_ok hd
    exact ⟨d, rfl, outcomeOf_of_ok h⟩
  · rintro ⟨d, rfl, h⟩
    obtain ⟨o', ho⟩ : ∃ o', readPaymentOutcome payment (.obj d) kind = .ok o' := ⟨_, rfl⟩
    rw [ho, (outcomeOf_of_ok ho).unique h]

theorem readPaymentOutcome_error {e : AnswerError} :
    readPaymentOutcome payment v kind = .error e ↔
      (∀ d, v ≠ .obj d) ∧ e = .unexpectedShape "a payment action object" := by
  cases v with
  | obj d => exact ⟨nofun, fun h => absurd rfl (h.1 d)⟩
  | _ => exact ⟨fun h => ⟨nofun, (Except.error.inj h).symm⟩, fun h => h.2 ▸ rfl⟩

/-- Whatever else an answer holds is only handed on as it is. -/
theorem readPaymentOutcome_congr (payment : Payment) (kind : String)
    (h : ∀ key ∈ outcomeMembers, d.get? key = e.get? key) :
    ∃ o, readPaymentOutcome payment (.obj d) kind = .ok o ∧
      readPaymentOutcome payment (.obj e) kind = .ok { o with rawResponse := .obj e } := by
  have hmember (key : String) (hkey : key ∈ outcomeMembers) : e.get? key = d.get? key :=
    (h key hkey).symm
  refine ⟨_, rfl, ?_⟩
  unfold readPaymentOutcome optionalText flag
  rw [Result.ok_bind (x := object _ _) rfl]
  simp only [hmember "error" (by decide), hmember "action_required" (by decide),
    hmember "kind" (by decide), hmember "amount" (by decide), hmember "transaction_id" (by decide),
    hmember "customer_id" (by decide), hmember "psp_reference" (by decide),
    hmember "action_required_data" (by decide), hmember "payment_method" (by decide),
    hmember "transaction_already_processed" (by decide)]
  rfl

/-- An answer to a payment action is accepted exactly when it is an object, and ten of its members
settle the outcome: an error that is neither absent nor falsy makes it a failure, the amount and the
texts that are given count in place of those of the payment, and the currency is that of the
payment. With the same ten members only the answer that is handed on differs. -/
theorem outcome_of_ten_members (payment : Payment) (kind : String) (v : Value) :
    ((∃ o, readPaymentOutcome payment v kind = .ok o) ↔ ∃ d, v = .obj d) ∧
    (∀ o, readPaymentOutcome payment v kind = .ok o ↔
      ∃ d, v = .obj d ∧ OutcomeOf payment kind d o) ∧
    (∀ e, readPaymentOutcome payment v kind = .error e ↔
      (∀ d, v ≠ .obj d) ∧ e = .unexpectedShape "a payment action object") ∧
    ∀ d e, v = .obj d → (∀ key ∈ outcomeMembers, Dict.get? d key = Dict.get? e key) →
      ∃ o, readPaymentOutcome payment v kind = .ok o ∧
        readPaymentOutcome payment (.obj e) kind = .ok { o with rawResponse := .obj e } := by
  refine ⟨⟨?_, ?_⟩, fun o => readPaymentOutcome_ok, fun e => readPaymentOutcome_error, ?_⟩
  · rintro ⟨o, h⟩
    obtain ⟨d, hd, -⟩ := readPaymentOutcome_ok.mp h
    exact ⟨d, hd⟩
  · rintro ⟨d, rfl⟩
    exact ⟨_, rfl⟩
  · rintro d e rfl h
    exact readPaymentOutcome_congr payment kind h

namespace Sample

def tenDollars : Payment where
  gateway := "app:7:stripe"
  amount := { negative := false, mantissa := 1000, scale := 2 }
  currency := "USD"
  paymentId := 42
  publicPaymentId := "UGF5bWVudDo0Mg=="
  customerEmail := none

/-- An error that is none, an amount that is not one, and a member that does not count. -/
def outcome : Dict Value :=
  [("amount", .str "lots"), ("error", .int 0), ("kind", .int 5), ("note", .bool true),
    ("payment_method", .obj [("brand", .str "visa")])]

end Sample

theorem outcome_of_ten_members_noted :
    ∃ o, readPaymentOutcome Sample.tenDollars (.obj Sample.outcome) "capture" = .ok o ∧
      o.isSuccess = true ∧ o.amount = Sample.tenDollars.amount ∧ o.paymentMethod ≠ none ∧
      readPaymentOutcome Sample.tenDollars (.obj (Dict.erase Sample.outcome "note")) "capture" =
        .ok { o with rawResponse := .obj (Dict.erase Sample.outcome "note") } := by
  have hnote : ∀ key ∈ outcomeMembers, key ≠ "note" := by decide
  obtain ⟨-, outcomes, -, others⟩ :=
    outcome_of_ten_members Sample.tenDollars "capture" (.obj Sample.outcome)
  obtain ⟨o, ho, hother⟩ := others _ (Dict.erase Sample.outcome "note") rfl fun key hkey =>
    (Dict.get_erase_other (hnote key hkey) _).symm
  obtain ⟨_, heq, parts⟩ := (outcomes o).mp ho
  obtain rfl := Value.obj.inj heq
  refine ⟨o, ho, ?_, ?_, ?_, hother⟩
  · rw [parts.success, parts.error]
    rintro v hv
    obtain rfl : .int 0 = v := Option.some.inj hv
    exact .zero
  · have hlots : toDecimal? (.str "lots") = none := by decide +kernel
    have hamount := parts.amount
    generalize o.amount = amount at hamount ⊢
    cases hamount with
    | held h =>
      obtain ⟨v, hv, hx⟩ := h
      obtain rfl : .str "lots" = v := Option.some.inj hv
      rw [hlots] at hx
      cases hx
    | fallback => rfl
  · rw [parts.hasMethod]
    exact ⟨_, rfl, List.cons_ne_nil _ _⟩

end ShopRelay.Answer
