import Mathlib.Data.List.Nodup
import ShopRelay.Proofs.Tracker.Session

/-!
Recording an event in a memory: one payload, and one pending delivery for each webhook that
subscribes to the event, or nothing at all.
-/

namespace ShopRelay.Tracker

/-- None of the ids that are made up for an event with some number of deliveries is taken. -/
structure Memory.Unused (m : Memory) (fresh : Fresh) (count : Nat) : Prop where
  payload : ∀ p ∈ m.payloads, p.id ≠ fresh.payloadId
  delivery : ∀ i < count, ∀ d ∈ m.deliveries, d.id ≠ fresh.deliveryId i
  distinct : ∀ i < count, ∀ j < count, fresh.deliveryId i = fresh.deliveryId j → i = j

section
variable {m : Memory} {fresh : Fresh} {eventType : String} {v : Json.Value} {ws : List Webhook}
  {p : Payload}

theorem pendingDeliveries_length :
    (pendingDeliveries fresh ws p eventType).length = ws.length := by
  simp [pendingDeliveries]

theorem pendingDeliveries_getElem {i : Nat} {w : Webhook} (h : ws[i]? = some w) :
    (pendingDeliveries fresh ws p eventType)[i]? =
      some ⟨fresh.deliveryId i, .pending, eventType, p.id, w.id, fresh.deliveryTime⟩ := by
  simp [pendingDeliveries, h]

theorem pendingDeliveries_ids :
    (pendingDeliveries fresh ws p eventType).map Delivery.id =
      (List.range ws.length).map fresh.deliveryId := by
  apply List.ext_getElem?
  intro i
  simp only [pendingDeliveries, List.map_map, List.getElem?_map, List.getElem?_zipIdx]
  by_cases h : i < ws.length
  · simp [h]
  · simp [h]

/-- An event lists a webhook once, however often the webhook lists the event. -/
theorem subscribers_eq : m.webhooks.filter (·.subscribesTo eventType) =
    m.webhooks.filter fun w => w.isActive ∧ eventType ∈ w.events := by
  congr 1
  funext w
  simp [Webhook.subscribesTo]

/-- Under new ids an event is stored behind all that was there. -/
theorem announce_new
    (unused : m.Unused fresh (m.webhooks.filter (·.subscribesTo eventType)).length) :
    m.announce fresh eventType v = { m with
      payloads := m.payloads ++ [newPayload fresh v.print]
      deliveries := m.deliveries ++ m.announcements fresh eventType v } := by
  have hids : (m.announcements fresh eventType v).map Delivery.id =
      (List.range (m.webhooks.filter (·.subscribesTo eventType)).length).map fresh.deliveryId :=
    pendingDeliveries_ids
  have hdistinct : ((m.announcements fresh eventType v).map Delivery.id).Nodup := by
    rw [hids]
    refine List.Nodup.map_on ?_ List.nodup_range
    intro i hi j hj
    exact unused.distinct i (List.mem_range.mp hi) j (List.mem_range.mp hj)
  have hnew : ∀ d ∈ m.announcements fresh eventType v, ∀ e ∈ m.deliveries, e.id ≠ d.id := by
    intro d hd e he
    have hid : d.id ∈ (m.announcements fresh eventType v).map Delivery.id :=
      List.mem_map_of_mem hd
    rw [hids] at hid
    obtain ⟨i, hi, hid⟩ := List.mem_map.mp hid
    rw [← hid]
    exact unused.delivery i (List.mem_range.mp hi) e he
  unfold Memory.announce Memory.putPayload Memory.putDeliveries
  rw [Memory.put_new Payload.id _ unused.payload, Memory.puts_new Delivery.id hnew hdistinct]

end

/-- What there is after an event was stored with its deliveries: of deliveries with one id the last
counts, and all else is as before. -/
structure Memory.Gains (m : Memory) (p : Payload) (ds : List Delivery) (m' : Memory) : Prop where
  payload : m'.payload? p.id = some p
  payloads : ∀ id, id ≠ p.id → m'.payload? id = m.payload? id
  deliveries : ∀ id, m'.delivery? id = (ds.reverse.find? (·.id = id)).or (m.delivery? id)
  webhooks : m'.webhooks = m.webhooks
  attempts : m'.attempts = m.attempts

theorem gains_puts (m : Memory) (p : Payload) (ds : List Delivery) :
    m.Gains p ds ((m.putPayload p).putDeliveries ds) where
  payload := (Memory.find_put Payload.id p p.id m.payloads).trans (if_pos rfl)
  payloads id hne := (Memory.find_put Payload.id p id m.payloads).trans (if_neg hne.symm)
  deliveries id := Memory.find_puts Delivery.id id ds m.deliveries
  webhooks := rfl
  attempts := rfl

/-- An event whose deliveries are all of its payload is stored; the first other one is the fault. -/
theorem insertEvent_cases (m : Memory) (p : Payload) (ds : List Delivery) :
    (∀ d ∈ ds, d.payloadId = p.id) ∧ (∃ m', m.reply (.insertEvent p ds) = (.ok (p, ds), m') ∧
        m.Gains p ds m') ∨
      ∃ before d after, ds = before ++ d :: after ∧ (∀ e ∈ before, e.payloadId = p.id) ∧
        d.payloadId ≠ p.id ∧
        m.reply (.insertEvent p ds) = (.error (.foreignDelivery d.id p.id), m) := by
  cases h : ds.find? (·.payloadId ≠ p.id) with
  | none =>
    have hown : ∀ d ∈ ds, d.payloadId = p.id := by simpa using h
    refine .inl ⟨hown, _, ?_, gains_puts m p ds⟩
    simp only [Memory.reply, h]
  | some d =>
    obtain ⟨hd, before, after, rfl, hbefore⟩ := List.find?_eq_some_iff_append.mp h
    refine .inr ⟨before, d, after, rfl, ?_, by simpa using hd, ?_⟩
    · intro e he
      simpa using hbefore e he
    · simp only [Memory.reply, h]

/-- An event of which a call fails leaves nothing behind. -/
theorem Trial.triggerEvent_failed {t : Trial} {fresh : Fresh} {eventType : String}
    {v : Json.Value} {faults : List (Option Fault)} {f : Fault} (ready : t.refused = [])
    (h : (t.runFaltering faults (Task.left (triggerEvent fresh eventType v))).1 = .error f) :
    (t.runFaltering faults (Task.left (triggerEvent fresh eventType v))).2.memory = t.memory := by
  obtain ⟨next, htask, hfail, hnext⟩ := triggerEvent_calls fresh eventType v
  rw [htask] at h ⊢
  rcases run_call_cases hfail ready faults with ⟨-, he⟩ | ⟨rest, -, he⟩
  · rw [he]
  · rw [he, Memory.reply, hnext] at h ⊢
    let s : Trial := { t with calls := t.calls ++ [StoreCall.name (.webhooksForEvent eventType)] }
    change (s.runFaltering rest _).1 = .error f at h
    change (s.runFaltering rest _).2.memory = t.memory
    rcases run_call_cases (t := s) (fun _ => rfl) ready rest with ⟨-, he⟩ | ⟨rest', -, he⟩
    · rw [he]
    · rw [he] at h
      change (Memory.reply (.insertEvent (newPayload fresh v.print)
        (t.memory.announcements fresh eventType v)) t.memory).1 = .error f at h
      -- The combined write accepts the deliveries, so it was not this call that failed.
      rw [reply_announcements] at h
      cases h

/-- An event is recorded as a whole: a payload, and a delivery for each active webhook that lists
the event, in the order of the webhooks. What is stored together is of one payload, or nothing is
stored, and an event of which a call fails leaves nothing behind. -/
theorem event_recorded_whole (m : Memory) (report : SendReport) (calls : List String)
    (sent : List Sending) (fresh : Fresh) (eventType : String) (v : Json.Value) :
    let t : Trial := ⟨m, [], report, calls, sent⟩
    let ws := m.webhooks.filter fun w => w.isActive ∧ eventType ∈ w.events
    let p : Payload := ⟨fresh.payloadId, v.print, fresh.payloadTime⟩
    (m.Unused fresh ws.length → ∃ ds : List Delivery,
      t.runStore (triggerEvent fresh eventType v) = (.ok (p, ds), { t with
        memory := { m with payloads := m.payloads ++ [p], deliveries := m.deliveries ++ ds }
        calls := calls ++ ["webhooks_for_event", "insert_event"] }) ∧
      ds.length = ws.length ∧
      ∀ (i : Nat) (w : Webhook), ws[i]? = some w →
        ds[i]? = some ⟨fresh.deliveryId i, .pending, eventType, p.id, w.id, fresh.deliveryTime⟩) ∧
    (∀ (p : Payload) (ds : List Delivery),
      (∀ d ∈ ds, d.payloadId = p.id) ∧ (∃ m', m.reply (.insertEvent p ds) = (.ok (p, ds), m') ∧
          m.Gains p ds m') ∨
        ∃ before d after, ds = before ++ d :: after ∧ (∀ e ∈ before, e.payloadId = p.id) ∧
          d.payloadId ≠ p.id ∧
          m.reply (.insertEvent p ds) = (.error (.foreignDelivery d.id p.id), m)) ∧
    (∀ faults f s, t.runFaltering faults (Task.left (triggerEvent fresh eventType v)) =
      (.error f, s) → s.memory = m) ∧
    ∀ f later, (t.runFaltering (none :: some f :: later)
      (Task.left (triggerEvent fresh eventType v))).1 = .error f := by
  intro t ws p
  have hws : m.webhooks.filter (·.subscribesTo eventType) = ws := subscribers_eq
  refine ⟨fun unused => ?_, insertEvent_cases m, fun faults f s h => ?_, fun f later => rfl⟩
  · have hrun : t.runStore (triggerEvent fresh eventType v) =
        ((m.reply (.insertEvent p (m.announcements fresh eventType v))).1, { t with
          memory := (m.reply (.insertEvent p (m.announcements fresh eventType v))).2
          calls := calls ++ ["webhooks_for_event"] ++ ["insert_event"] }) := rfl
    refine ⟨m.announcements fresh eventType v, ?_, ?_, ?_⟩
    · rw [hrun, show m.reply (.insertEvent p _) = _ from reply_announcements,
        announce_new (hws ▸ unused), List.append_assoc]
      rfl
    · rw [← hws]
      exact pendingDeliveries_length
    · intro i w h
      rw [← hws] at h
      exact pendingDeliveries_getElem h
  · have herror := congrArg Prod.fst h
    have hfailed := Trial.triggerEvent_failed (t := t) rfl herror
    rwa [h] at hfailed

open Sample

/-- Of three webhooks one lists the event twice and one is not active. -/
theorem event_recorded_whole_twice_listed :
    let hooks : List Webhook := [{ hook with events := ["order_created", "order_created"] },
      { hook with id := .ofNat 6, isActive := false }, { hook with id := .ofNat 7 }]
    let m : Memory := { memory with webhooks := hooks }
    m.Unused (fresh 20) 2 ∧ ∃ ds s, (Trial.mk m [] (report .success) [] []).runStore
        (triggerEvent (fresh 20) "order_created" .null) =
          (.ok (⟨.ofNat 20, "null", .epoch⟩, ds), s) ∧
      s.memory.deliveries = m.deliveries ++ ds ∧ ds.length = 2 ∧
      ds[1]? = some ⟨.ofNat 22, .pending, "order_created", .ofNat 20, .ofNat 7, .epoch⟩ := by
  intro hooks m
  have unused : m.Unused (fresh 20) 2 := ⟨by decide, by decide, by decide⟩
  obtain ⟨hevent, -⟩ :=
    event_recorded_whole m (report .success) [] [] (fresh 20) "order_created" .null
  obtain ⟨ds, hrun, hlength, hds⟩ := hevent unused
  exact ⟨unused, ds, _, hrun, rfl, hlength, hds 1 _ rfl⟩

end ShopRelay.Tracker
