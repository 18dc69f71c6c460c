import ShopRelay.Proofs.Json.RoundTrip
import ShopRelay.Proofs.Tracker.Effects
import ShopRelay.Proofs.Tracker.Lifecycle

/-!
The books of a session in which no call fails. For a delivery that was announced with an event, as
many attempts are stored as sendings are made, all of them send the text that was stored for the
event, and none follows one that succeeded.
-/

namespace ShopRelay.Tracker

/-- What was exchanged, and the deliveries for which attempts were stored. -/
def exchanges (es : List Effect) : List Exchange := es.flatMap Effect.exchanged

def attempted (es : List Effect) : List (Option Uuid) :=
  (es.flatMap Effect.inserted).map Attempt.deliveryId

theorem exchanges_concat (es : List Effect) (e : Effect) :
    exchanges (es ++ [e]) = exchanges es ++ e.exchanged := by
  simp [exchanges]

theorem attempted_concat (es : List Effect) (e : Effect) :
    attempted (es ++ [e]) = attempted es ++ e.inserted.map Attempt.deliveryId := by
  simp [attempted]

/-- The delivery for which an attempt was stored that is not sent yet. -/
def Stage.unsent (j : Job) : Stage → List (Option Uuid)
  | .attempted .. => [some j.deliveryId]
  | _ => []

/-- For each exchange an attempt is stored, which is ahead of it by one call. -/
def Balanced (j : Job) (stage : Stage) (es : List Effect) : Prop :=
  attempted es = (exchanges es).map (fun _ => some j.deliveryId) ++ stage.unsent j

variable {m m' m'' : Memory} {j : Job} {stage stage' : Stage} {c : outside.Call}
  {x : outside.Reply c} {es : List Effect} {t : Trial}

theorem Balanced.turn (h : Balanced j stage es) (progress : Progress m j stage (exchanges es) m')
    (turn : Turn j m' stage c x stage' m'') : Balanced j stage' (es ++ [⟨c, x⟩]) := by
  unfold Balanced at h ⊢
  rw [attempted_concat, exchanges_concat, h]
  cases turn with
  | attempt =>
    obtain ⟨hs, -⟩ := progress
    have hid := Memory.id_of_delivery hs.stored
    simp [Effect.inserted, Effect.exchanged, exchange, Stage.unsent, newAttempt, hid]
  | _ => simp [Effect.inserted, Effect.exchanged, exchange, Stage.unsent]

/-- What is true of a delivery in a trial at each stage. -/
def Books (t : Trial) (j : Job) (stage : Stage) (es : List Effect) (s : Trial) : Prop :=
  Progress t.memory j stage (exchanges es) s.memory ∧ Trial.After t (exchanges es) s ∧
    Balanced j stage es

theorem Books.move {mv : Move} {s : Trial} (h : Books t j stage es s)
    (moves : stage.move? j = some mv) :
    Books t j (mv.after (Trial.world.reply mv.call s).1)
      (es ++ [⟨mv.call, (Trial.world.reply mv.call s).1⟩]) (Trial.world.reply mv.call s).2 := by
  obtain ⟨progress, after, balanced⟩ := h
  unfold Books
  rw [exchanges_concat]
  obtain ⟨c | x, next⟩ := mv
  · have hreply : Trial.world.reply (.inl c) s = _ := Trial.replyStore_ready after.ready c
    dsimp only
    rw [hreply]
    have turn := turn_of_answer moves (Answers.stored (m := s.memory) c)
    have hafter := after.stored c
    rw [← List.append_nil (exchanges es)] at hafter
    exact ⟨progress.turn turn, hafter, balanced.turn progress turn⟩
  · have turn := turn_of_answer moves (Answers.sent (m := s.memory) x s.report)
    exact ⟨progress.turn turn, after.sending x, balanced.turn progress turn⟩

/-- A job of which no call fails, with its books. -/
theorem Trial.run_books (ready : t.refused = []) (j : Job) :
    Books t j (.ended (world.run j.task t).result) (world.run j.task t).effects
      (world.run j.task t).state := by
  have start : Books t j .start [] t := ⟨⟨rfl, rfl⟩, .start ready, rfl⟩
  exact (task_follows j).accounts (Books t j) (fun _ _ _ _ h moves => h.move moves) start

namespace Operation

/-- What an operation does when no call fails. -/
def effects : Operation → Trial → List Effect
  | .addWebhook _, _ => []
  | .insertPayload p, t => Trial.world.effects (Task.left (store (.insertPayload p))) t
  | .triggerEvent fresh eventType payload, t =>
    Trial.world.effects (Task.left (Tracker.triggerEvent fresh eventType payload)) t
  | .deliver j r, t => Trial.world.effects j.task { t with report := r }

/-- What is sent for a delivery, with the answers. -/
def sends (id : Uuid) (op : Operation) (t : Trial) : List Exchange :=
  match op with
  | .deliver j _ => if j.deliveryId = id then exchanges (op.effects t) else []
  | _ => []

/-- The attempts that are stored for a delivery. -/
def attempts (id : Uuid) (op : Operation) (t : Trial) : List Attempt :=
  ((op.effects t).flatMap Effect.inserted).filter (·.deliveryId = some id)

/-- The ids of the payloads that an operation stores. -/
def payloadIds : Operation → List Uuid
  | .insertPayload p => [p.id]
  | .triggerEvent fresh _ _ => [fresh.payloadId]
  | _ => []

end Operation

variable {op : Operation} {id : Uuid} {p : Payload}

theorem deliver_books (ready : t.refused = []) (j : Job) (r : SendReport) :
    let op := Operation.deliver j r
    let es := exchanges (op.effects t)
    (∃ result, Delivers t.memory j result es (op.serve [] t).memory) ∧ (∀ e ∈ es, e.2 = r) ∧
      attempted (op.effects t) = es.map fun _ => some j.deliveryId := by
  intro op es
  obtain ⟨delivers, after, balanced⟩ := Trial.run_books (t := { t with report := r }) ready j
  have hserve : op.serve [] t = (Trial.world.run j.task { t with report := r }).state := by
    change ({ t with report := r }.runFaltering [] j.task).2 = _
    rw [Trial.runFaltering_nil]
    rfl
  rw [hserve]
  unfold Balanced Stage.unsent at balanced
  rw [List.append_nil] at balanced
  exact ⟨⟨_, delivers⟩, after.reports, balanced⟩

theorem sends_deliver (id : Uuid) (j : Job) (r : SendReport) (t : Trial) :
    (Operation.deliver j r).sends id t =
      if j.deliveryId = id then exchanges ((Operation.deliver j r).effects t) else [] := rfl

/-- Attempts are stored by deliveries alone. -/
theorem uninserted (op : Operation) (t : Trial) (h : ∀ j r, op ≠ .deliver j r) :
    (op.effects t).flatMap Effect.inserted = [] := by
  cases op with
  | addWebhook w => rfl
  | insertPayload p => rfl
  | triggerEvent fresh eventType payload =>
    obtain ⟨next, htask, hfail, hnext⟩ := triggerEvent_calls fresh eventType payload
    change (Trial.world.effects (Task.left _) t).flatMap _ = []
    rw [htask]
    change (Trial.world.effects (next (t.replyStore _).1) (t.replyStore _).2).flatMap _ = []
    generalize t.replyStore _ = reply
    obtain ⟨e | ws, s⟩ := reply
    · dsimp only
      rw [hfail]
      rfl
    · dsimp only
      rw [hnext]
      rfl
  | deliver j r => exact absurd rfl (h j r)

theorem attempts_counted (id : Uuid) (op : Operation) (t : Trial) :
    (op.attempts id t).length = (attempted (op.effects t)).countP (· = some id) := by
  unfold Operation.attempts attempted
  rw [List.countP_map, ← List.countP_eq_length_filter]
  rfl

/-- An operation stores as many attempts for a delivery as it sends something for it. -/
theorem attempts_length (ready : t.refused = []) (id : Uuid) (op : Operation) :
    (op.attempts id t).length = (op.sends id t).length := by
  rw [attempts_counted]
  by_cases hop : ∃ j r, op = .deliver j r
  · obtain ⟨j, r, rfl⟩ := hop
    obtain ⟨-, -, hattempted⟩ := deliver_books ready j r
    rw [hattempted, List.map_const', List.countP_replicate, sends_deliver]
    by_cases hid : j.deliveryId = id
    · simp [hid]
    · simp [hid]
  · have hother : ∀ j r, op ≠ .deliver j r := fun j r he => hop ⟨j, r, he⟩
    unfold attempted
    rw [uninserted op t hother]
    cases op with
    | deliver j r => exact absurd rfl (hother j r)
    | _ => rfl

theorem Delivers.payloads {result : Except Fault (Option DeliveryStatus)} {es : List Exchange}
    (h : Delivers m j result es m') : m'.payloads = m.payloads := by
  cases h with
  | absent | givenUp | payloadLost => rfl
  | sent => exact Memory.settled_payloads

theorem Memory.payload_congr (h : m'.payloads = m.payloads) : m'.payload? id = m.payload? id := by
  unfold Memory.payload?
  rw [h]

/-- A payload is changed by nothing but what stores it. -/
theorem Operates.payload {es : List Exchange} (h : Operates [] m op es m')
    (kept : id ∉ op.payloadIds) : m'.payload? id = m.payload? id := by
  cases h with
  | addWebhook w => rfl
  | insertPayload p =>
    have hne : p.id ≠ id := fun he => kept (he ▸ List.mem_cons_self)
    exact (Memory.find_put Payload.id p id m.payloads).trans (if_neg hne)
  | triggerEvent fresh eventType payload =>
    have hne : fresh.payloadId ≠ id := fun he => kept (he ▸ List.mem_cons_self)
    exact (Memory.find_put Payload.id _ id m.payloads).trans (if_neg hne)
  | stopped _ scheduled => exact absurd rfl scheduled
  | deliver progress reports complete =>
    obtain ⟨⟨result, hd⟩, -⟩ := Operates.delivers (.deliver progress reports complete)
    exact Memory.payload_congr hd.payloads

/-- A delivery, as long as it is stored, is of a payload that is. -/
structure Memory.Carries (m : Memory) (id : Uuid) (p : Payload) : Prop where
  delivery : ∀ d, m.delivery? id = some d → d.payloadId = p.id
  payload : m.payload? p.id = some p

/-- Nothing is sent for a delivery that does not exist. -/
theorem sends_absent (ready : t.refused = []) (h : t.memory.delivery? id = none) :
    op.sends id t = [] := by
  cases op with
  | deliver j r =>
    obtain ⟨⟨result, delivers⟩, -⟩ := deliver_books ready j r
    rw [sends_deliver]
    split
    · rename_i hid
      obtain rfl := hid
      exact (delivers.changes.absent h).2
    · rfl
  | _ => rfl

/-- One sending at most is made for a delivery, of its payload, and success removes it. -/
theorem sends_carried (ready : t.refused = []) (h : t.memory.Carries id p) :
    op.sends id t = [] ∨ ∃ x r, op.sends id t = [(x, r)] ∧ x.payload = p ∧
      (r.status = .success → (op.serve [] t).memory.delivery? id = none) := by
  cases op with
  | deliver j r =>
    obtain ⟨⟨result, delivers⟩, -⟩ := deliver_books ready j r
    rw [sends_deliver]
    split
    · rename_i hid
      obtain rfl := hid
      generalize exchanges ((Operation.deliver j r).effects t) = es at delivers
      generalize ((Operation.deliver j r).serve [] t).memory = m' at delivers
      cases delivers with
      | absent | givenUp | payloadLost => exact .inl rfl
      | @sent d w q hd ht hq r =>
        rw [h.delivery d hd, h.payload] at hq
        obtain rfl := Option.some.inj hq
        exact .inr ⟨_, r, rfl, rfl, fun hr => Memory.delivery_settled_success hr⟩
    · exact .inl rfl
  | _ => exact .inl rfl

theorem serve_carries (ready : t.refused = []) (h : t.memory.Carries id p)
    (unmade : id ∉ op.creates t.memory) (kept : p.id ∉ op.payloadIds) :
    (op.serve [] t).memory.Carries id p := by
  obtain ⟨es, hserves⟩ := serve_serves ready [] op
  refine ⟨fun d hd => ?_, (hserves.operates.payload kept).trans h.payload⟩
  let l : Ledger := ⟨t, []⟩
  have hnew : id ∉ (([], op) : Request).2.creates l.memory := unmade
  change (l.serve ([], op)).memory.delivery? id = some d at hd
  cases he : t.memory.delivery? id with
  | none =>
    rw [Ledger.serve_absent ready hnew he] at hd
    cases hd
  | some e =>
    have hpayload := h.delivery e he
    rcases Ledger.serve_stored ready hnew he with
      hsame | ⟨j, r, -, -, ⟨-, -, hfailed⟩ | ⟨w, q, -, -, -, hanswered | ⟨-, hnone⟩⟩⟩
    · rw [hsame] at hd
      exact Option.some.inj hd ▸ hpayload
    · rw [hfailed] at hd
      exact Option.some.inj hd ▸ hpayload
    · rw [hanswered] at hd
      exact Option.some.inj hd ▸ hpayload
    · rw [hnone] at hd
      cases hd

namespace Trial

def after (t : Trial) (ops : List Operation) : Trial := ops.foldl (fun t op => op.serve [] t) t

/-- What the operations of a session come to, one after the other. -/
def gather {α : Type} (f : Operation → Trial → List α) : Trial → List Operation → List α
  | _, [] => []
  | t, op :: ops => f op t ++ gather f (op.serve [] t) ops

def sends (id : Uuid) (t : Trial) (ops : List Operation) : List Exchange :=
  t.gather (Operation.sends id) ops

def attempts (id : Uuid) (t : Trial) (ops : List Operation) : List Attempt :=
  t.gather (Operation.attempts id) ops

/-- The ids that are made up for deliveries. -/
def created (t : Trial) (ops : List Operation) : List Uuid :=
  t.gather (fun op t => op.creates t.memory) ops

variable {ops : List Operation}

theorem gather_append {α : Type} (f : Operation → Trial → List α) (t : Trial)
    (first rest : List Operation) :
    t.gather f (first ++ rest) = t.gather f first ++ (t.after first).gather f rest := by
  induction first generalizing t with
  | nil => rfl
  | cons op first ih =>
    change f op t ++ gather f _ (first ++ rest) =
      (f op t ++ gather f _ first) ++ gather f ((op.serve [] t).after first) rest
    rw [ih, List.append_assoc]

theorem serve_ready (ready : t.refused = []) (op : Operation) : (op.serve [] t).refused = [] := by
  obtain ⟨es, h⟩ := serve_serves ready [] op
  exact h.ready

theorem after_ready (ready : t.refused = []) : (t.after ops).refused = [] := by
  induction ops generalizing t with
  | nil => exact ready
  | cons op ops ih => exact ih (serve_ready ready op)

theorem attempts_length (ready : t.refused = []) (id : Uuid) :
    (t.attempts id ops).length = (t.sends id ops).length := by
  induction ops generalizing t with
  | nil => rfl
  | cons op ops ih =>
    change (op.attempts id t ++ attempts id _ ops).length =
      (op.sends id t ++ sends id _ ops).length
    rw [List.length_append, List.length_append, Tracker.attempts_length ready,
      ih (serve_ready ready op)]

/-- As long as it is not made, there is nothing to send for a delivery. -/
theorem absent_after (ready : t.refused = []) (h : t.memory.delivery? id = none)
    (unmade : id ∉ t.created ops) :
    (t.after ops).memory.delivery? id = none ∧ t.sends id ops = [] := by
  induction ops generalizing t with
  | nil => exact ⟨h, rfl⟩
  | cons op ops ih =>
    obtain ⟨hop, hops⟩ := not_or.mp (mt List.mem_append.mpr unmade)
    let l : Ledger := ⟨t, []⟩
    have hnew : id ∉ (([], op) : Request).2.creates l.memory := hop
    have habsent : (op.serve [] t).memory.delivery? id = none := Ledger.serve_absent ready hnew h
    obtain ⟨hafter, hsends⟩ := ih (serve_ready ready op) habsent hops
    refine ⟨hafter, ?_⟩
    change op.sends id t ++ sends id _ ops = []
    rw [sends_absent ready h, hsends]
    rfl

/-- All sendings for a delivery are of its payload, and none follows a success. -/
theorem sends_after (ready : t.refused = []) (h : t.memory.Carries id p)
    (unmade : id ∉ t.created ops) (kept : p.id ∉ ops.flatMap Operation.payloadIds) :
    (∀ e ∈ t.sends id ops, e.1.payload = p) ∧
      (t.sends id ops).Pairwise fun e _ => e.2.status ≠ .success := by
  induction ops generalizing t with
  | nil => exact ⟨fun _ he => absurd he List.not_mem_nil, .nil⟩
  | cons op ops ih =>
    obtain ⟨hop, hops⟩ := not_or.mp (mt List.mem_append.mpr unmade)
    obtain ⟨hkept, hrest⟩ := not_or.mp (mt List.mem_append.mpr kept)
    have ready' := serve_ready ready op
    obtain ⟨hpayloads, hpairs⟩ := ih ready' (serve_carries ready h hop hkept) hops hrest
    change (∀ e ∈ op.sends id t ++ sends id _ ops, e.1.payload = p) ∧
      (op.sends id t ++ sends id _ ops).Pairwise _
    rcases sends_carried ready h with hnone | ⟨x, r, hone, hx, hsuccess⟩
    · rw [hnone]
      exact ⟨hpayloads, hpairs⟩
    · rw [hone]
      refine ⟨fun e he => ?_, List.pairwise_cons.mpr ⟨fun e he hr => ?_, hpairs⟩⟩
      · rcases List.mem_cons.mp he with rfl | he
        · exact hx
        · exact hpayloads e he
      · rw [(absent_after ready' (hsuccess hr) hops).2] at he
        cases he

end Trial

section
variable {fresh : Fresh} {eventType : String} {v : Json.Value}

theorem Trial.run_triggerEvent (ready : t.refused = []) :
    (t.run (Task.left (triggerEvent fresh eventType v))).1 =
      .ok (newPayload fresh v.print, t.memory.announcements fresh eventType v) := by
  obtain ⟨next, htask, -, hnext⟩ := triggerEvent_calls fresh eventType v
  rw [htask]
  change (Trial.run (t.replyStore _).2 (next (t.replyStore _).1)).1 = _
  rw [replyStore_ready ready, Memory.reply, hnext]
  let s : Trial := { t with calls := t.calls ++ [StoreCall.name (.webhooksForEvent eventType)] }
  change (s.replyStore (.insertEvent (newPayload fresh v.print)
    (t.memory.announcements fresh eventType v))).1 = _
  rw [replyStore_ready (t := s) ready]
  exact congrArg Prod.fst reply_announcements

theorem serve_triggerEvent (ready : t.refused = []) :
    ((Operation.triggerEvent fresh eventType v).serve [] t).memory =
      t.memory.announce fresh eventType v := by
  obtain ⟨es, h⟩ := serve_serves ready [] (.triggerEvent fresh eventType v)
  generalize ((Operation.triggerEvent fresh eventType v).serve [] t) = s at h
  have operates := h.operates
  generalize s.memory = m' at operates
  cases operates with
  | triggerEvent => rfl
  | stopped _ scheduled => exact absurd rfl scheduled

/-- What is found under a new id after an announcement was announced. -/
theorem announce_carries (new : m.delivery? id = none) :
    (m.announce fresh eventType v).Carries id (newPayload fresh v.print) where
  delivery d hd := by
    rcases Memory.mem_puts Delivery.id (Memory.mem_of_delivery hd) with hmem | hmem
    · exact (mem_pendingDeliveries hmem).1
    · have hne := List.find?_eq_none.mp new d hmem
      simp [Memory.id_of_delivery hd] at hne
  payload := (Memory.find_put Payload.id _ _ m.payloads).trans (if_pos rfl)

end

section
variable {es : List Exchange} (h : es.Pairwise fun e _ => e.2.status ≠ .success)
include h

theorem success_last {early late : List Exchange} {e : Exchange} (he : es = early ++ e :: late)
    (success : e.2.status = .success) : late = [] := by
  rw [he] at h
  obtain ⟨hlate, -⟩ := List.pairwise_cons.mp (List.pairwise_append.mp h).2.1
  cases late with
  | nil => rfl
  | cons e' late => exact absurd success (hlate e' List.mem_cons_self)

theorem success_once : (es.filter (·.2.status = .success)).length ≤ 1 := by
  have hpairs := h.filter (·.2.status = .success)
  have hall : ∀ e ∈ es.filter (·.2.status = .success), e.2.status = .success := by simp
  generalize es.filter (·.2.status = .success) = successes at hpairs hall
  rcases successes with _ | ⟨e, _ | ⟨e', rest⟩⟩
  · exact Nat.zero_le 1
  · exact Nat.le_refl 1
  · have hfirst := (List.pairwise_cons.mp hpairs).1 e' List.mem_cons_self
    exact absurd (hall e List.mem_cons_self) hfirst

end

/-- In a session in which no call fails and all ids that are made up are new, an announced delivery
has as many attempts as sendings. One of these at most succeeds, and is the last. What they send is
the text that was stored for the event, and that reads as the payload. -/
theorem delivery_accounts {t : Trial} (ready : t.refused = []) (before after : List Operation)
    (fresh : Fresh) (eventType : String) {v : Json.Value} (plain : v.Plain Json.maxDepth)
    (unique : (t.created (before ++ .triggerEvent fresh eventType v :: after)).Nodup)
    (new : ∀ id ∈ t.created (before ++ .triggerEvent fresh eventType v :: after),
      t.memory.delivery? id = none)
    (payloads : ((before ++ .triggerEvent fresh eventType v :: after).flatMap
      Operation.payloadIds).Nodup)
    {p : Payload} {ds : List Delivery}
    (triggered : ((t.after before).run (Task.left (triggerEvent fresh eventType v))).1 =
      .ok (p, ds)) {d : Delivery} (hd : d ∈ ds) :
    let ops := before ++ .triggerEvent fresh eventType v :: after
    let sends := t.sends d.id ops
    (t.attempts d.id ops).length = sends.length ∧
      (sends.filter (·.2.status = .success)).length ≤ 1 ∧
      (∀ early e late, sends = early ++ e :: late → e.2.status = .success → late = []) ∧
      (∀ e ∈ sends, e.1.payload.text = p.text) ∧
      (t.after (before ++ [.triggerEvent fresh eventType v])).memory.payload? p.id = some p ∧
      Json.Value.parse? p.text = some v := by
  intro ops sends
  let trigger := Operation.triggerEvent fresh eventType v
  let announced := trigger.serve [] (t.after before)
  have ready' : (t.after before).refused = [] := Trial.after_ready ready
  rw [Trial.run_triggerEvent ready'] at triggered
  obtain ⟨rfl, rfl⟩ := Prod.mk.inj (Except.ok.inj triggered)
  have hid : d.id ∈ trigger.creates (t.after before).memory := List.mem_map_of_mem hd
  -- The id is made up by the trigger, so by no other operation.
  have hcreated : t.created ops = t.created before ++
      (trigger.creates (t.after before).memory ++ announced.created after) :=
    Trial.gather_append _ t before (trigger :: after)
  have hnew : t.memory.delivery? d.id = none := by
    refine new d.id ?_
    change d.id ∈ t.created ops
    rw [hcreated]
    exact List.mem_append_right _ (List.mem_append_left _ hid)
  change (t.created ops).Nodup at unique
  rw [hcreated] at unique
  obtain ⟨-, hrest, hbefore⟩ := List.nodup_append.mp unique
  have hunmade : d.id ∉ t.created before := fun h =>
    hbefore _ h _ (List.mem_append_left _ hid) rfl
  have hunmade' : d.id ∉ announced.created after := fun h =>
    (List.nodup_append.mp hrest).2.2 _ hid _ h rfl
  have hkept : fresh.payloadId ∉ after.flatMap Operation.payloadIds := by
    rw [List.flatMap_append, List.flatMap_cons] at payloads
    have hrest := (List.nodup_append.mp payloads).2.1
    exact fun h => (List.nodup_append.mp hrest).2.2 _ List.mem_cons_self _ h rfl
  obtain ⟨habsent, hunsent⟩ := Trial.absent_after ready hnew hunmade
  have hcarries : announced.memory.Carries d.id (newPayload fresh v.print) := by
    rw [show announced.memory = _ from serve_triggerEvent ready']
    exact announce_carries habsent
  obtain ⟨hpayloads, hpairs⟩ :=
    Trial.sends_after (Trial.serve_ready ready' trigger) hcarries hunmade' hkept
  have hsends : sends = announced.sends d.id after := by
    change t.gather _ (before ++ trigger :: after) = _
    rw [Trial.gather_append]
    change t.sends d.id before ++ _ = _
    rw [hunsent]
    rfl
  rw [hsends]
  refine ⟨?_, success_once hpairs, fun _ _ _ => success_last hpairs, ?_, ?_, ?_⟩
  · rw [← hsends]
    exact Trial.attempts_length ready d.id
  · exact fun e he => by rw [hpayloads e he]
  · rw [Trial.after, List.foldl_append]
    exact hcarries.payload
  · exact Json.Value.parse_print plain

namespace Sample

def total : Json.Value := .obj [("total", .int 7)]

theorem total_plain : total.Plain Json.maxDepth := by
  refine .obj (List.pairwise_singleton _ _) fun m hm => ?_
  rw [List.mem_singleton.mp hm]
  exact .int (by decide) (by decide)

/-- A delivery fails, succeeds and is asked for once more. -/
def redelivered : List Operation :=
  [.deliver ⟨fresh 20, .ofNat 11, none⟩ (report .failed),
    .deliver ⟨fresh 30, .ofNat 11, none⟩ (report .success),
    .deliver ⟨fresh 40, .ofNat 11, none⟩ (report .failed)]

end Sample

open Sample

theorem delivery_accounts_redelivered :
    let ops := .addWebhook hook :: .triggerEvent (fresh 10) "order_created" total :: redelivered
    (Trial.start.sends (.ofNat 11) ops).map (·.2.status) = [.failed, .success] ∧
      (Trial.start.attempts (.ofNat 11) ops).length = 2 ∧
      Json.Value.parse? total.print = some total := by
  intro ops
  have hsends : (Trial.start.sends (.ofNat 11) ops).map (·.2.status) = [.failed, .success] := rfl
  let d : Delivery := ⟨.ofNat 11, .pending, "order_created", .ofNat 10, hook.id, .epoch⟩
  have triggered : ((Trial.start.after [.addWebhook hook]).run
      (Task.left (triggerEvent (fresh 10) "order_created" total))).1 =
      .ok (newPayload (fresh 10) total.print, [d]) := rfl
  have h := delivery_accounts rfl [.addWebhook hook] redelivered (fresh 10) "order_created"
    total_plain (by decide) (by decide) (by decide) triggered List.mem_cons_self
  obtain ⟨hlength, -, -, -, -, hparse⟩ := h
  refine ⟨hsends, hlength.trans ?_, hparse⟩
  exact (List.length_map _).symm.trans (congrArg List.length hsends)

end ShopRelay.Tracker
