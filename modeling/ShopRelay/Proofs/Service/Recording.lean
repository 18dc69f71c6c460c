import ShopRelay.Proofs.Database.Events
import ShopRelay.Proofs.Service.Messages
import ShopRelay.Service.Gateway

/-!
Handling an event: the database is asked to record it, then the bus is asked to announce its
deliveries. A client is told of it when all of this went well.
-/

namespace ShopRelay.Service

open Tracker (Fresh newPayload pendingDeliveries)
open Database (Outcome Row Cell executed ended inserted recorded webhookOfRow insertPayloadRow
  insertDeliveryRows selectWebhooksForEvent)

variable {fresh : Fresh} {eventType : String} {v : Json.Value} {es : List gateway.Exchange}
  {base : List Database.session.Exchange} {sent : List bus.Exchange}

/-- How recording an event can go, with what the database and the bus are asked. -/
inductive Records (fresh : Fresh) (eventType : String) (v : Json.Value) :
    List Database.session.Exchange → List bus.Exchange → Except Fault TriggerAnswer → Prop where
  | refused {base : List Database.session.Exchange} (uncommitted : ended (.ok ()) ∉ base)
      (e : Fault) : Records fresh eventType v base [] (.error e)
  | stored {found : Outcome} {ws : List Webhook} (listed : found.rows.mapM webhookOfRow = .ok ws)
      {p : Payload} (payload : p = newPayload fresh v.print) {ds : List Delivery}
      (deliveries : ds = pendingDeliveries fresh ws p eventType) (x x' : Outcome)
      {sent : List bus.Exchange} {y : Except Fault Unit} (announced : Schedules ds sent y) :
    Records fresh eventType v
      (executed (selectWebhooksForEvent eventType) (.ok found) :: recorded p ds x x') sent
      (y.map fun _ => ⟨p.id, ds.map (·.id)⟩)

theorem passes_recordEvent {y : Except Fault TriggerAnswer}
    (h : (recordEvent fresh eventType v).Passes es y) :
    ∃ base sent, es = base.map .left ++ sent.map .right ∧
      Records fresh eventType v base sent y := by
  obtain ⟨first, rest, r, rfl, hfirst, hrest⟩ := Task.passes_bind h
  obtain ⟨base, rfl, hbase⟩ := Program.passes_left hfirst
  rcases Database.passes_triggerEvent hbase with ⟨e, rfl, hopen⟩ | ⟨found, ws, x, x', hws, rfl, rfl⟩
  · obtain ⟨rfl, rfl⟩ := hrest
    exact ⟨base, [], rfl, .refused hopen e⟩
  · obtain ⟨r, hr, rfl⟩ := Task.passes_map hrest
    obtain ⟨sent, rfl, hsent⟩ := Program.passes_right hr
    exact ⟨_, sent, rfl, .stored hws rfl rfl x x' (passes_schedule hsent)⟩

/-- The response that tells a result. -/
def telling {α : Type} (status : Nat) : Except Fault α → Response α
  | .ok x => .document status x
  | .error e => .problem 500 e.outermost

theorem passes_respond {α : Type} {status : Nat} {t : Task gateway α} {response : Response α}
    (h : Program.Passes (respond status t) es response) :
    ∃ y, t.Passes es y ∧ response = telling status y :=
  Program.passes_map (fun
    | .ok _ => rfl
    | .error _ => rfl) h

/-- How an event is handled: what the database and the bus are asked, and the response. -/
structure Handled (eventType : String) (p : Payload) (ds : List Delivery)
    (base : List Database.session.Exchange) (sent : List bus.Exchange)
    (response : Response TriggerAnswer) : Prop where
  /-- The payload is committed with one delivery for each row that the webhooks were found in. -/
  recorded : ended (.ok ()) ∈ base → ∃ found x x',
    base = executed (selectWebhooksForEvent eventType) (.ok found) :: recorded p ds x x' ∧
      (found.rows.map fun row => row.required "id" Cell.uuid?) = ds.map fun d => .ok d.webhookId
  committed : sent ≠ [] → ended (.ok ()) ∈ base
  ordered : (publications sent).map (fun q => (q.channel, q.message)) <+:
    ds.map fun d => (deliveriesChannel, announcement d)
  unbroken : ∀ e ∈ sent.dropLast, e.reply = .ok ()
  complete : ended (.ok ()) ∈ base → (∀ e ∈ sent, e.reply = .ok ()) →
    publications sent = ds.map (announced · (.ok ()))
  created_iff : (∃ a, response = .document 201 a) ↔
    ended (.ok ()) ∈ base ∧ publications sent = ds.map (announced · (.ok ()))
  /-- The answer has the ids that are bound in the statements and named in the messages. -/
  created : ∀ a, response = .document 201 a →
    (insertPayloadRow p).parameters.head? = some (.uuid a.payloadId) ∧
    (insertDeliveryRows ds).parameters.head? = some (.uuids a.deliveryIds) ∧
    (publications sent).map (fun q => ScheduledDelivery.codec.parse? q.message) =
      a.deliveryIds.map fun id => some ⟨id, eventType⟩

theorem parse_announcements {ws : List Webhook} {p : Payload} {ds : List Delivery}
    (h : ds = pendingDeliveries fresh ws p eventType) :
    (ds.map (announced · (.ok ()))).map (fun q => ScheduledDelivery.codec.parse? q.message) =
      (ds.map (·.id)).map fun id => some ⟨id, eventType⟩ := by
  rw [List.map_map, List.map_map]
  refine List.map_congr_left fun d hd => ?_
  rw [h] at hd
  obtain ⟨w, -, rfl⟩ := List.mem_map.mp hd
  exact parse_announcement _

theorem Records.handled {y : Except Fault TriggerAnswer}
    (h : Records fresh eventType v base sent y) :
    ∃ ds, Handled eventType (newPayload fresh v.print) ds base sent (telling 201 y) := by
  cases h with
  | refused uncommitted e =>
    exact ⟨[], fun h => absurd h uncommitted, fun h => absurd rfl h, List.nil_prefix, nofun,
      fun h => absurd h uncommitted, ⟨nofun, fun h => absurd h.1 uncommitted⟩, nofun⟩
  | @stored found ws listed p payload ds deliveries x x' sent y bus =>
    subst payload
    have hcommitted : ended (.ok ()) ∈ executed (selectWebhooksForEvent eventType) (.ok found) ::
        recorded (newPayload fresh v.print) ds x x' := by simp [recorded]
    have hrows : (found.rows.map fun row => row.required "id" Cell.uuid?) =
        ds.map fun d => .ok d.webhookId := deliveries ▸ Database.pendingDeliveries_rows listed
    refine ⟨ds, fun _ => ⟨found, x, x', rfl, hrows⟩, fun _ => hcommitted, bus.ordered,
      bus.unbroken, fun _ => bus.complete, ?_, ?_⟩
    · rw [and_iff_right hcommitted, ← bus.succeeds_iff]
      cases y with
      | error e => exact ⟨nofun, nofun⟩
      | ok u => exact ⟨fun _ => rfl, fun _ => ⟨_, rfl⟩⟩
    · intro a ha
      cases y with
      | error e => cases ha
      | ok u =>
        cases ha
        rw [bus.succeeds_iff.mp rfl, parse_announcements deliveries]
        exact ⟨rfl, rfl, rfl⟩

theorem createEvent_blank {r : TriggerRequest} (h : Text.trim r.eventType = "") :
    createEvent fresh r = .done (.problem 400 TriggerRequest.blankMessage) := by
  have hnone : r.eventType? = none := by simp [TriggerRequest.eventType?, h]
  rw [createEvent, hnone]

theorem createEvent_named {r : TriggerRequest} (h : Text.trim r.eventType ≠ "") :
    createEvent fresh r =
      respond 201 (recordEvent fresh (Text.trim r.eventType) r.payload) := by
  have hsome : r.eventType? = some (Text.trim r.eventType) := by
    simp [TriggerRequest.eventType?, h]
  rw [createEvent, hsome]

/-- The exchanges of a request and its response, unless its type is blank. -/
theorem createEvent_records {σ : Type} (reply : (c : gateway.Call) → σ → gateway.Reply c × σ)
    (s : σ) (fresh : Fresh) {r : TriggerRequest} (h : Text.trim r.eventType ≠ "") :
    ∃ base sent y, (createEvent fresh r).log reply s = base.map .left ++ sent.map .right ∧
      Records fresh (Text.trim r.eventType) r.payload base sent y ∧
      ((createEvent fresh r).run reply s).1 = telling 201 y := by
  have hpasses := Program.passes_run reply (createEvent fresh r) s
  rw [createEvent_named h] at hpasses ⊢
  obtain ⟨y, hy, hresponse⟩ := passes_respond hpasses
  obtain ⟨base, sent, hlog, hrecords⟩ := passes_recordEvent hy
  exact ⟨base, sent, y, hlog, hrecords, hresponse⟩

/-- An event is created when it is committed and each of its deliveries is announced. A blank type
is refused at once. -/
theorem event_handled {σ : Type} (reply : (c : gateway.Call) → σ → gateway.Reply c × σ) (s : σ)
    (fresh : Fresh) (r : TriggerRequest) :
    let eventType := Text.trim r.eventType
    let log := (createEvent fresh r).log reply s
    let response := ((createEvent fresh r).run reply s).1
    (eventType = "" → response = .problem 400 "event_type is required" ∧ log = []) ∧
    (eventType ≠ "" → ∃ base sent ds, log = base.map .left ++ sent.map .right ∧
      Handled eventType ⟨fresh.payloadId, r.payload.print, fresh.payloadTime⟩ ds base sent response) := by
  intro eventType log response
  constructor
  · intro hblank
    have hdone : createEvent fresh r = .done (.problem 400 TriggerRequest.blankMessage) :=
      createEvent_blank hblank
    simp only [log, response, hdone]
    exact ⟨rfl, rfl⟩
  · intro hnamed
    obtain ⟨base, sent, y, hlog, hrecords, hresponse⟩ := createEvent_records reply s fresh hnamed
    obtain ⟨ds, hhandled⟩ := hrecords.handled
    exact ⟨base, sent, ds, hlog, by rwa [← hresponse] at hhandled⟩

namespace Sample

def ids : Fresh :=
  ⟨.ofNat 10, .epoch, fun i => .ofNat (11 + i), .epoch, .ofNat 9, .epoch⟩

def row (n : Nat) : Row :=
  [("id", .uuid (.ofNat n)), ("app_id", .int 1), ("name", .text "erp"),
    ("target_url", .text "https://erp.example.com/hook"), ("secret_key", .null),
    ("is_active", .bool true), ("events", .texts ["order_created"])]

/-- The database finds two webhooks and acknowledges everything; the bus fails after so many
calls. -/
def reply : (c : gateway.Call) → Nat → gateway.Reply c × Nat :=
  Interface.sumReply (fun
    | .execute _, n => (.ok ⟨[row 1, row 2], 2⟩, n)
    | .connect, n => (.ok (), n)
    | .begin, n => (.ok (), n)
    | .commit, n => (.ok (), n)
    | .rollback, n => (.ok (), n)) fun
    | _, 0 => (.error .busDown, 0)
    | _, n + 1 => (.ok (), n)

/-- The deliveries of the two webhooks. -/
def twoDeliveries : List Delivery :=
  [⟨.ofNat 11, .pending, "order_created", .ofNat 10, .ofNat 1, .epoch⟩,
    ⟨.ofNat 12, .pending, "order_created", .ofNat 10, .ofNat 2, .epoch⟩]

/-- What the database is asked for an event without a payload. -/
def wholly : List Database.session.Exchange :=
  executed (selectWebhooksForEvent "order_created") (.ok ⟨[row 1, row 2], 2⟩) ::
    recorded ⟨.ofNat 10, "null", .epoch⟩ twoDeliveries ⟨[row 1, row 2], 2⟩ ⟨[row 1, row 2], 2⟩

end Sample

open Sample

theorem event_handled_announced :
    let r : TriggerRequest := ⟨" order_created\n", .null⟩
    Text.trim r.eventType = "order_created" ∧
      ∃ base sent ds a, (createEvent ids r).log reply 3 =
          base.map .left ++ sent.map .right ∧
        ((createEvent ids r).run reply 3).1 = .document 201 a ∧
        Handled "order_created" ⟨.ofNat 10, "null", .epoch⟩ ds base sent (.document 201 a) ∧
        a.deliveryIds = [.ofNat 11, .ofNat 12] := by
  intro r
  have htrim : Text.trim r.eventType = "order_created" := by decide
  have hresponse : ((createEvent ids r).run reply 3).1 =
      .document 201 ⟨.ofNat 10, [.ofNat 11, .ofNat 12]⟩ := by
    rw [createEvent_named (htrim ▸ by decide), htrim]
    rfl
  obtain ⟨-, hnamed⟩ := event_handled reply 3 ids r
  obtain ⟨base, sent, ds, hlog, hhandled⟩ := hnamed (htrim ▸ by decide)
  rw [htrim, hresponse] at hhandled
  exact ⟨htrim, base, sent, ds, _, hlog, hresponse, hhandled, rfl⟩

/-- When a request fails, its event is not committed and nothing is announced, unless it is the bus
that fails: then the event is committed as a whole, and its deliveries are announced up to the
failure. -/
theorem uncommitted_unless_bus_failed {σ : Type}
    (reply : (c : gateway.Call) → σ → gateway.Reply c × σ) (s : σ) (fresh : Fresh)
    (r : TriggerRequest) {status : Nat} {text : String}
    (h : ((createEvent fresh r).run reply s).1 = .problem status text) :
    ∃ base sent, (createEvent fresh r).log reply s = base.map .left ++ sent.map .right ∧
      ((ended (.ok ()) ∉ base ∧ sent = []) ∨
        status = 500 ∧ ∃ found ds x x' e,
          base = executed (selectWebhooksForEvent (Text.trim r.eventType)) (.ok found) ::
            recorded ⟨fresh.payloadId, r.payload.print, fresh.payloadTime⟩ ds x x' ∧
          (found.rows.map fun row => row.required "id" Cell.uuid?) =
            ds.map (fun d => .ok d.webhookId) ∧
          text = e.outermost ∧ BusFailed ds sent e) := by
  by_cases hblank : Text.trim r.eventType = ""
  · refine ⟨[], [], ?_, .inl ⟨List.not_mem_nil, rfl⟩⟩
    rw [createEvent_blank hblank]
    rfl
  · obtain ⟨base, sent, y, hlog, hrecords, hresponse⟩ := createEvent_records reply s fresh hblank
    refine ⟨base, sent, hlog, ?_⟩
    have hproblem := hresponse.symm.trans h
    cases hrecords with
    | refused uncommitted e => exact .inl ⟨uncommitted, rfl⟩
    | @stored found ws listed p payload ds deliveries x x' sent y bus =>
      subst payload
      cases y with
      | ok u => cases hproblem
      | error e =>
        cases hproblem
        refine .inr ⟨rfl, found, ds, x, x', e, rfl, ?_, rfl, bus.failed⟩
        rw [deliveries]
        exact Database.pendingDeliveries_rows listed

/-- The second delivery is not announced any more. -/
theorem uncommitted_unless_bus_failed_halfway :
    let r : TriggerRequest := ⟨"order_created", .null⟩
    ((createEvent ids r).run reply 2).1 = .problem 500 "Connection refused (os error 111)" ∧
      ∃ base sent found ds x x' e,
        (createEvent ids r).log reply 2 = base.map .left ++ sent.map .right ∧
        base = executed (selectWebhooksForEvent "order_created") (.ok found) ::
          recorded ⟨.ofNat 10, "null", .epoch⟩ ds x x' ∧
        BusFailed ds sent e := by
  intro r
  have htrim : Text.trim r.eventType = "order_created" := by decide
  have hnamed : createEvent ids r = respond 201 (recordEvent ids "order_created" .null) := by
    rw [createEvent_named (htrim ▸ by decide), htrim]
  have hproblem : ((createEvent ids r).run reply 2).1 =
      .problem 500 "Connection refused (os error 111)" := hnamed ▸ rfl
  have hlast : ((createEvent ids r).log reply 2).getLast? =
      some (published (announcement ⟨.ofNat 12, .pending, "order_created", .ofNat 10, .ofNat 2,
        .epoch⟩) (.error .busDown)).right := hnamed ▸ rfl
  refine ⟨hproblem, ?_⟩
  obtain ⟨base, sent, hlog, h⟩ := uncommitted_unless_bus_failed reply 2 ids r hproblem
  rcases h with ⟨-, rfl⟩ | ⟨-, found, ds, x, x', e, hbase, -, -, hfailed⟩
  · -- The last call was one to the bus.
    rw [hlog.trans (List.append_nil _)] at hlast
    obtain ⟨b, -, hb⟩ := List.mem_map.mp (List.mem_of_getLast? hlast)
    cases hb
  · rw [htrim] at hbase
    exact ⟨base, sent, found, ds, x, x', e, hlog, hbase, hfailed⟩

/-- A request fails although its event is committed, and none of its deliveries is announced. -/
theorem committed_event_unannounced :
    let r : TriggerRequest := ⟨"order_created", .null⟩
    ((createEvent ids r).run reply 0).1 = .problem 500 "Connection refused (os error 111)" ∧
      ended (.ok ()) ∈ wholly ∧
      (createEvent ids r).log reply 0 =
        wholly.map .left ++ [connected (.error .busDown)].map .right := by
  intro r
  have htrim : Text.trim r.eventType = "order_created" := by decide
  rw [createEvent_named (htrim ▸ by decide), htrim]
  exact ⟨rfl, by simp [wholly, recorded], rfl⟩

end ShopRelay.Service
