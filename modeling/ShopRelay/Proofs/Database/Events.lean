import ShopRelay.Database.Deliveries
import ShopRelay.Proofs.Database.Transaction
import ShopRelay.Proofs.Result
import ShopRelay.Tracker.Dispatch

/-!
Recording an event in the database: the webhooks are looked up, and the payload and its deliveries
are stored in one transaction.
-/

namespace ShopRelay.Database

open Tracker (Fresh newPayload pendingDeliveries triggerEvent store)

variable {α : Type} {es : List session.Exchange} {p : Payload} {ds : List Delivery}

theorem onDatabase_bind {β : Type} (t : Task Tracker.storage α) (f : α → Task Tracker.storage β) :
    onDatabase (t >>= f) = onDatabase t >>= fun x => onDatabase (f x) := by
  refine (Program.translate_bind storeCall t _).trans ?_
  refine congrArg (Program.bind (onDatabase t)) (funext fun r => ?_)
  cases r with
  | error e => rfl
  | ok x => rfl

theorem onDatabase_store (c : Tracker.StoreCall) : onDatabase (store c) = storeCall c :=
  Program.bind_pure (storeCall c)

/-- The changes by which a payload and its deliveries are stored. -/
def inserted (p : Payload) (ds : List Delivery) (x x' : Outcome) : List session.Exchange :=
  executed (insertPayloadRow p) (.ok x) ::
    if ds.isEmpty then [] else [executed (insertDeliveryRows ds) (.ok x')]

/-- How storing a payload and its deliveries can go. -/
inductive Inserts (p : Payload) (ds : List Delivery) :
    List session.Exchange → Except Fault (Payload × List Delivery) → Prop where
  | payloadRefused (text : String) :
    Inserts p ds [executed (insertPayloadRow p) (.error text)]
      (.error (.context "failed to persist event payload" (.database text)))
  | deliveriesRefused (filled : ds ≠ []) (x : Outcome) (text : String) :
    Inserts p ds
      [executed (insertPayloadRow p) (.ok x), executed (insertDeliveryRows ds) (.error text)]
      (.error (.context "failed to persist event deliveries" (.database text)))
  | all (x x' : Outcome) : Inserts p ds (inserted p ds x x') (.ok (p, ds))

/-- The transaction of an event, all of it acknowledged. -/
def recorded (p : Payload) (ds : List Delivery) (x x' : Outcome) : List session.Exchange :=
  begun (.ok ()) :: inserted p ds x x' ++ [ended (.ok ())]

theorem passes_effect {doing : String} {s : Statement} {y : Except Fault Unit}
    (h : (Task.context doing do let _ ← execute s).Passes es y) :
    (∃ text, es = [executed s (.error text)] ∧ y = .error (.context doing (.database text))) ∨
      ∃ x, es = [executed s (.ok x)] ∧ y = .ok () := by
  obtain ⟨r, hr, rfl⟩ := Task.passes_context h
  obtain ⟨r', hr', rfl⟩ := Task.passes_map hr
  obtain ⟨text | x, rfl, rfl⟩ := passes_perform hr'
  · exact .inl ⟨text, rfl, rfl⟩
  · exact .inr ⟨x, rfl, rfl⟩

theorem passes_storeDeliveries {y : Except Fault Unit} (h : (storeDeliveries ds).Passes es y) :
    (ds ≠ [] ∧ ∃ text, es = [executed (insertDeliveryRows ds) (.error text)] ∧
      y = .error (.context "failed to persist event deliveries" (.database text))) ∨
    (∃ x, es = (if ds.isEmpty then [] else [executed (insertDeliveryRows ds) (.ok x)])) ∧
      y = .ok () := by
  cases ds with
  | nil =>
    obtain ⟨rfl, rfl⟩ := Task.passes_done h
    exact .inr ⟨⟨⟨[], 0⟩, rfl⟩, rfl⟩
  | cons d ds =>
    rcases passes_effect h with ⟨text, rfl, rfl⟩ | ⟨x, rfl, rfl⟩
    · exact .inl ⟨List.cons_ne_nil d ds, text, rfl, rfl⟩
    · exact .inr ⟨⟨x, rfl⟩, rfl⟩

theorem passes_inserts {y : Except Fault (Payload × List Delivery)}
    (h : (do storePayload p; storeDeliveries ds; return (p, ds) : Task session _).Passes es y) :
    Inserts p ds es y := by
  obtain ⟨first, rest, r, rfl, hfirst, hrest⟩ := Task.passes_bind h
  rcases passes_effect hfirst with ⟨text, rfl, rfl⟩ | ⟨x, rfl, rfl⟩
  · obtain ⟨rfl, rfl⟩ := hrest
    exact .payloadRefused text
  · obtain ⟨r, hr, rfl⟩ := Task.passes_map hrest
    rcases passes_storeDeliveries hr with ⟨filled, text, rfl, rfl⟩ | ⟨⟨x', rfl⟩, rfl⟩
    · exact .deliveriesRefused filled x text
    · exact .all x x'

/-- What is asked to store a payload and its deliveries never ends a transaction. -/
theorem Inserts.open {y : Except Fault (Payload × List Delivery)} (h : Inserts p ds es y) :
    ended (.ok ()) ∉ es := by
  cases h with
  | payloadRefused text => simp
  | deliveriesRefused filled x text => simp
  | all x x' => cases ds <;> simp [inserted]

/-- An event is stored by an acknowledged transaction, or the call ends with a fault. -/
theorem passes_insertEvent {y : Except Fault (Payload × List Delivery)}
    (h : (storeCall (.insertEvent p ds)).Passes es y) :
    (∃ e, y = .error e ∧ ended (.ok ()) ∉ es) ∨
      ∃ x x', es = recorded p ds x x' ∧ y = .ok (p, ds) := by
  cases passes_transaction h with
  | unbegun text => exact .inl ⟨_, rfl, by simp⟩
  | failed body x =>
    have hopen := (passes_inserts body).open
    exact .inl ⟨_, rfl, by simp [hopen]⟩
  | uncommitted body text x =>
    have hopen := (passes_inserts body).open
    exact .inl ⟨_, rfl, by simp [hopen]⟩
  | committed body =>
    cases passes_inserts body with
    | all x x' => exact .inr ⟨x, x', rfl, rfl⟩

theorem passes_readAll {s : Statement} {read : Row → Except Fault α} {y : Except Fault (List α)}
    (h : (readAll s read).Passes es y) :
    (∃ text, es = [executed s (.error text)] ∧ y = .error (.database text)) ∨
      ∃ x, es = [executed s (.ok x)] ∧ y = x.rows.mapM read := by
  obtain ⟨first, rest, r, rfl, hfirst, hrest⟩ := Task.passes_bind h
  obtain ⟨r', hr', rfl⟩ := Task.passes_map hfirst
  obtain ⟨text | x, rfl, rfl⟩ := passes_perform hr'
  · obtain ⟨rfl, rfl⟩ := hrest
    exact .inl ⟨text, rfl, rfl⟩
  · obtain ⟨rfl, rfl⟩ := Program.passes_done hrest
    exact .inr ⟨x, rfl, rfl⟩

theorem webhookOfRow_id {row : Row} {w : Webhook} (h : webhookOfRow row = .ok w) :
    row.required "id" Cell.uuid? = .ok w.id := by
  obtain ⟨id, hid, hrest⟩ := Result.bind_ok h
  obtain ⟨appId, -, hrest⟩ := Result.bind_ok hrest
  obtain ⟨name, -, hrest⟩ := Result.bind_ok hrest
  obtain ⟨targetUrl, -, hrest⟩ := Result.bind_ok hrest
  obtain ⟨secretKey, -, hrest⟩ := Result.bind_ok hrest
  obtain ⟨isActive, -, hrest⟩ := Result.bind_ok hrest
  obtain ⟨events, -, hrest⟩ := Result.bind_ok hrest
  cases hrest
  exact hid

/-- The ids of the webhooks for which there are deliveries are those of the rows. -/
theorem pendingDeliveries_rows {fresh : Fresh} {eventType : String} {rows : List Row}
    {ws : List Webhook} (h : rows.mapM webhookOfRow = .ok ws) :
    (rows.map fun row => row.required "id" Cell.uuid?) =
      (pendingDeliveries fresh ws p eventType).map fun d => .ok d.webhookId := by
  rw [Result.map_eq_of_mapM (g := fun w => .ok w.id) (fun row w => webhookOfRow_id) h]
  apply List.ext_getElem?
  intro i
  simp [pendingDeliveries, Function.comp_def]

/-- An event is recorded with a delivery for each webhook that was found, in an acknowledged
transaction, or recording ends with a fault. -/
theorem passes_triggerEvent {fresh : Fresh} {eventType : String} {v : Json.Value}
    {y : Except Fault (Payload × List Delivery)}
    (h : (onDatabase (triggerEvent fresh eventType v)).Passes es y) :
    (∃ e, y = .error e ∧ ended (.ok ()) ∉ es) ∨
      ∃ found ws x x', found.rows.mapM webhookOfRow = .ok ws ∧
        let p := newPayload fresh v.print
        let ds := pendingDeliveries fresh ws p eventType
        es = executed (selectWebhooksForEvent eventType) (.ok found) :: recorded p ds x x' ∧
          y = .ok (p, ds) := by
  have hasked : (onDatabase (store (.webhooksForEvent eventType) >>= fun ws =>
      store (.insertEvent (newPayload fresh v.print)
        (pendingDeliveries fresh ws (newPayload fresh v.print) eventType)))).Passes es y := h
  rw [onDatabase_bind, onDatabase_store] at hasked
  obtain ⟨first, rest, r, rfl, hfirst, hrest⟩ := Task.passes_bind hasked
  rcases passes_readAll hfirst with ⟨text, rfl, rfl⟩ | ⟨found, rfl, hfound⟩
  · obtain ⟨rfl, rfl⟩ := hrest
    exact .inl ⟨_, rfl, by simp⟩
  cases r with
  | error e =>
    obtain ⟨rfl, rfl⟩ := hrest
    exact .inl ⟨e, rfl, by simp⟩
  | ok ws =>
    have hstored : (onDatabase (store (.insertEvent (newPayload fresh v.print)
        (pendingDeliveries fresh ws (newPayload fresh v.print) eventType)))).Passes rest y := hrest
    rw [onDatabase_store] at hstored
    rcases passes_insertEvent hstored with ⟨e, rfl, hopen⟩ | ⟨x, x', rfl, rfl⟩
    · exact .inl ⟨e, rfl, by simp [hopen]⟩
    · exact .inr ⟨found, ws, x, x', hfound.symm, rfl, rfl⟩

end ShopRelay.Database
