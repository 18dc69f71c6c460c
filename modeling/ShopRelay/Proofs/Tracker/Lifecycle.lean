import ShopRelay.Proofs.Tracker.Session

/-!
How the stored deliveries change in a session in which any call of the store may fail. No transition
of their status is checked; what restrains them is who may change them, and to what.
-/

namespace ShopRelay.Tracker

/-- The ids that an operation makes up for deliveries. -/
def Operation.creates (m : Memory) : Operation → List Uuid
  | .triggerEvent fresh eventType payload =>
    (m.announcements fresh eventType payload).map Delivery.id
  | _ => []

/-- An operation, and which of its calls fail. -/
abbrev Request : Type := List (Option Fault) × Operation

/-- A trial with the ids that were ever made up for deliveries. -/
structure Ledger where
  trial : Trial
  created : List Uuid

namespace Ledger

def memory (l : Ledger) : Memory := l.trial.memory

/-- An operation, with the failures of its calls. -/
def serve (l : Ledger) (step : Request) : Ledger :=
  ⟨step.2.serve step.1 l.trial, l.created ++ step.2.creates l.memory⟩

def after (l : Ledger) (steps : List Request) : Ledger :=
  steps.foldl serve l

def start : Ledger := ⟨.start, []⟩

theorem after_append (l : Ledger) (first rest : List Request) :
    l.after (first ++ rest) = (l.after first).after rest :=
  List.foldl_append

end Ledger

variable {m m' : Memory} {j : Job} {es : List Exchange} {id : Uuid}

/-- What a job that may be cut short can do to the stored deliveries. -/
inductive Changes (m : Memory) (j : Job) : List Exchange → Memory → Prop where
  | unsent {m' : Memory} (same : m'.deliveries = m.deliveries) : Changes m j [] m'
  | unrecorded {d : Delivery} {w : Webhook} {p : Payload} {m' : Memory} (h : Sendable m j d w p)
      (r : SendReport) (same : m'.deliveries = m.deliveries) :
    Changes m j [(⟨w, d.eventType, p⟩, r)] m'
  | givenUp {d : Delivery} {m' : Memory} (h : m.delivery? j.deliveryId = some d)
      (ht : m.target? d = none)
      (now : m'.deliveries = (m.setStatus j.deliveryId .failed).deliveries) :
    Changes m j [] m'
  | answered {d : Delivery} {w : Webhook} {p : Payload} {m' : Memory} (h : Sendable m j d w p)
      (r : SendReport) (now : m'.deliveries = (m.setStatus j.deliveryId r.status).deliveries) :
    Changes m j [(⟨w, d.eventType, p⟩, r)] m'
  | cleared {d : Delivery} {w : Webhook} {p : Payload} {m' : Memory} (h : Sendable m j d w p)
      (r : SendReport) (hr : r.status = .success)
      (now : m'.deliveries = (m.removeDelivery j.deliveryId).deliveries) :
    Changes m j [(⟨w, d.eventType, p⟩, r)] m'

theorem Delivers.changes {result : Except Fault (Option DeliveryStatus)}
    (h : Delivers m j result es m') : Changes m j es m' := by
  cases h with
  | absent => exact .unsent rfl
  | givenUp hd ht => exact .givenUp hd ht rfl
  | payloadLost => exact .unsent rfl
  | sent hd ht hp r =>
    unfold Memory.settled
    split
    · rename_i hr
      refine .cleared ⟨hd, ht, hp⟩ r hr ?_
      unfold Memory.recorded
      rw [Memory.removeDelivery_setStatus]
      rfl
    · exact .answered ⟨hd, ht, hp⟩ r rfl

theorem Progress.changes {stage : Stage} (h : Progress m j stage es m') : Changes m j es m' := by
  cases stage with
  | start =>
    obtain ⟨rfl, rfl⟩ := h
    exact .unsent rfl
  | loaded =>
    obtain ⟨-, rfl, rfl⟩ := h
    exact .unsent rfl
  | untargeted =>
    obtain ⟨-, -, rfl, rfl⟩ := h
    exact .unsent rfl
  | targeted =>
    obtain ⟨-, -, rfl, rfl⟩ := h
    exact .unsent rfl
  | ready =>
    obtain ⟨-, rfl, rfl⟩ := h
    exact .unsent rfl
  | attempted =>
    obtain ⟨-, -, rfl, rfl⟩ := h
    exact .unsent rfl
  | answered d a r =>
    obtain ⟨w, p, hs, -, rfl, rfl⟩ := h
    exact .unrecorded hs r rfl
  | recorded d r =>
    obtain ⟨w, p, hs, rfl, a, -, rfl⟩ := h
    exact .unrecorded hs r rfl
  | succeeded d r =>
    obtain ⟨w, p, hs, -, rfl, rfl⟩ := h
    exact .answered hs r rfl
  | ended result => exact Delivers.changes h

theorem Memory.delivery_congr (h : m'.deliveries = m.deliveries) :
    m'.delivery? id = m.delivery? id := by
  unfold Memory.delivery?
  rw [h]

namespace Changes

theorem other (h : Changes m j es m') (hne : id ≠ j.deliveryId) :
    m'.delivery? id = m.delivery? id := by
  cases h with
  | unsent same => exact Memory.delivery_congr same
  | unrecorded _ _ same => exact Memory.delivery_congr same
  | givenUp _ _ now => rw [Memory.delivery_congr now, Memory.delivery_setStatus_other m hne]
  | answered _ _ now => rw [Memory.delivery_congr now, Memory.delivery_setStatus_other m hne]
  | cleared _ _ _ now => rw [Memory.delivery_congr now, Memory.delivery_removeDelivery, if_neg hne]

theorem unsent_or_stored (h : Changes m j es m') :
    m'.deliveries = m.deliveries ∧ es = [] ∨ ∃ d, m.delivery? j.deliveryId = some d := by
  cases h with
  | unsent same => exact .inl ⟨same, rfl⟩
  | unrecorded hs => exact .inr ⟨_, hs.stored⟩
  | givenUp hs => exact .inr ⟨_, hs⟩
  | answered hs => exact .inr ⟨_, hs.stored⟩
  | cleared hs => exact .inr ⟨_, hs.stored⟩

/-- Nothing is done about a delivery that does not exist. -/
theorem absent (h : Changes m j es m') (hd : m.delivery? j.deliveryId = none) :
    m'.delivery? j.deliveryId = none ∧ es = [] := by
  rcases h.unsent_or_stored with ⟨same, hes⟩ | ⟨d, hs⟩
  · exact ⟨(Memory.delivery_congr same).trans hd, hes⟩
  · rw [hd] at hs
    cases hs

/-- A stored delivery is left alone, fails unsent, or takes the answer of the one sending. -/
theorem stored {d : Delivery} (h : Changes m j es m') (hd : m.delivery? j.deliveryId = some d) :
    m'.delivery? j.deliveryId = some d ∨
      es = [] ∧ m.target? d = none ∧
        m'.delivery? j.deliveryId = some { d with status := .failed } ∨
      ∃ w p r, m.target? d = some w ∧ m.payload? d.payloadId = some p ∧
        es = [(⟨w, d.eventType, p⟩, r)] ∧
        (m'.delivery? j.deliveryId = some { d with status := r.status } ∨
          r.status = .success ∧ m'.delivery? j.deliveryId = none) := by
  cases h with
  | unsent same => exact .inl ((Memory.delivery_congr same).trans hd)
  | unrecorded _ _ same => exact .inl ((Memory.delivery_congr same).trans hd)
  | givenUp hs ht now =>
    obtain rfl := Option.some.inj (hd.symm.trans hs)
    exact .inr (.inl ⟨rfl, ht,
      (Memory.delivery_congr now).trans (Memory.delivery_setStatus_self m hd)⟩)
  | answered hs r now =>
    obtain rfl := Option.some.inj (hd.symm.trans hs.stored)
    exact .inr (.inr ⟨_, _, r, hs.target, hs.payload, rfl,
      .inl ((Memory.delivery_congr now).trans (Memory.delivery_setStatus_self m hd))⟩)
  | cleared hs r hr now =>
    obtain rfl := Option.some.inj (hd.symm.trans hs.stored)
    refine .inr (.inr ⟨_, _, r, hs.target, hs.payload, rfl, .inr ⟨hr, ?_⟩⟩)
    rw [Memory.delivery_congr now, Memory.delivery_removeDelivery, if_pos rfl]

/-- A delivery that was tried is not pending again unless the target answers so. -/
theorem tried (h : Changes m j es m') (reports : ∀ e ∈ es, e.2.status ≠ .pending)
    (hm : ∀ d, m.delivery? j.deliveryId = some d → d.status ≠ .pending) :
    ∀ d, m'.delivery? j.deliveryId = some d → d.status ≠ .pending := by
  intro d hd
  cases he : m.delivery? j.deliveryId with
  | none =>
    rw [(h.absent he).1] at hd
    cases hd
  | some e =>
    rcases h.stored he with hsame | ⟨-, -, hfailed⟩ | ⟨w, p, r, -, -, rfl, hanswered | ⟨-, hnone⟩⟩
    · rw [hsame] at hd
      exact Option.some.inj hd ▸ hm e he
    · rw [hfailed] at hd
      exact Option.some.inj hd ▸ DeliveryStatus.noConfusion
    · rw [hanswered] at hd
      exact Option.some.inj hd ▸ reports _ List.mem_cons_self
    · rw [hnone] at hd
      cases hd

end Changes

variable {faults : List (Option Fault)} {op : Operation}

theorem Operates.changes {r : SendReport} (h : Operates faults m (.deliver j r) es m') :
    Changes m j es m' ∧ ∀ e ∈ es, e.2 = r := by
  cases h with
  | stopped => exact ⟨.unsent rfl, fun _ h => absurd h List.not_mem_nil⟩
  | deliver progress reports => exact ⟨progress.changes, reports⟩

/-- A delivery is changed by nothing but what stores it or sends it. -/
theorem Operates.other (h : Operates faults m op es m') (fresh : id ∉ op.creates m)
    (other : ∀ j r, op = .deliver j r → id ≠ j.deliveryId) :
    m'.delivery? id = m.delivery? id := by
  cases h with
  | addWebhook w => rfl
  | insertPayload p => rfl
  | triggerEvent fresh' eventType payload =>
    refine Memory.find_puts_other Delivery.id id fun d hd he => fresh ?_
    exact List.mem_map.mpr ⟨d, hd, he⟩
  | stopped => rfl
  | deliver progress => exact progress.changes.other (other _ _ rfl)

namespace Ledger

variable {l : Ledger} {step : Request} {steps : List Request}

theorem serve_ready (ready : l.trial.refused = []) : (l.serve step).trial.refused = [] := by
  obtain ⟨es, h⟩ := serve_serves ready step.1 step.2
  exact h.ready

theorem after_ready (ready : l.trial.refused = []) : (l.after steps).trial.refused = [] := by
  induction steps generalizing l with
  | nil => exact ready
  | cons step steps ih => exact ih (serve_ready ready)

theorem serve_deliver (ready : l.trial.refused = []) (faults : List (Option Fault)) (j : Job)
    (r : SendReport) :
    ∃ es, Changes l.memory j es (l.serve (faults, .deliver j r)).memory ∧
      (l.serve (faults, .deliver j r)).trial.sent = l.trial.sent ++ es.map Prod.fst ∧
      ∀ e ∈ es, e.2 = r := by
  obtain ⟨es, h⟩ := serve_serves ready faults (.deliver j r)
  obtain ⟨hchanges, hreports⟩ := h.operates.changes
  exact ⟨es, hchanges, h.sent, hreports⟩

theorem serve_other (ready : l.trial.refused = []) (fresh : id ∉ step.2.creates l.memory)
    (other : ∀ j r, step.2 = .deliver j r → id ≠ j.deliveryId) :
    (l.serve step).memory.delivery? id = l.memory.delivery? id := by
  obtain ⟨es, h⟩ := serve_serves ready step.1 step.2
  exact h.operates.other fresh other

theorem created_after (l : Ledger) (steps : List Request) :
    ∃ ids, (l.after steps).created = l.created ++ ids := by
  induction steps generalizing l with
  | nil => exact ⟨[], (List.append_nil _).symm⟩
  | cons step steps ih =>
    obtain ⟨ids, hids⟩ := ih (l.serve step)
    exact ⟨step.2.creates l.memory ++ ids, by rw [← List.append_assoc]; exact hids⟩

theorem created_nodup (l : Ledger) (steps : List Request) (h : (l.after steps).created.Nodup) :
    l.created.Nodup := by
  obtain ⟨ids, hids⟩ := created_after l steps
  rw [hids] at h
  exact (List.nodup_append.mp h).1

/-- An id that was made up before is not made up again. -/
theorem not_created (h : (l.serve step).created.Nodup) (hid : id ∈ l.created) :
    id ∉ step.2.creates l.memory :=
  fun hnew => (List.nodup_append.mp h).2.2 id hid id hnew rfl

/-- What holds of the delivery with an id that was made up, and is kept by each operation, holds
after all of them. -/
theorem after_keeps {P : Option Delivery → Prop} (ready : l.trial.refused = [])
    (hid : id ∈ l.created) (fresh : (l.after steps).created.Nodup)
    (kept : ∀ (l : Ledger) (step), step ∈ steps → l.trial.refused = [] →
      id ∉ step.2.creates l.memory → P (l.memory.delivery? id) →
        P ((l.serve step).memory.delivery? id))
    (h : P (l.memory.delivery? id)) : P ((l.after steps).memory.delivery? id) := by
  induction steps generalizing l with
  | nil => exact h
  | cons step steps ih =>
    -- The ids of a part of the run are among those of the whole.
    have hnew := not_created (created_nodup (l.serve step) steps fresh) hid
    refine ih (serve_ready ready) (List.mem_append_left _ hid) fresh
      (fun l s hs => kept l s (List.mem_cons_of_mem _ hs)) ?_
    exact kept l step List.mem_cons_self ready hnew h

/-- An operation leaves a delivery as it is, or sends it. -/
theorem serve_cases (ready : l.trial.refused = []) (fresh : id ∉ step.2.creates l.memory) :
    (l.serve step).memory.delivery? id = l.memory.delivery? id ∨
      ∃ j r es, step.2 = .deliver j r ∧ j.deliveryId = id ∧
        Changes l.memory j es (l.serve step).memory ∧
        (l.serve step).trial.sent = l.trial.sent ++ es.map Prod.fst ∧ ∀ e ∈ es, e.2 = r := by
  by_cases h : ∃ j r, step.2 = .deliver j r ∧ j.deliveryId = id
  · obtain ⟨j, r, hstep, hid⟩ := h
    obtain ⟨faults, op⟩ := step
    obtain rfl : op = .deliver j r := hstep
    obtain ⟨es, hes⟩ := serve_deliver ready faults j r
    exact .inr ⟨j, r, es, rfl, hid, hes⟩
  · exact .inl (serve_other ready fresh fun j r hop hid => h ⟨j, r, hop, hid.symm⟩)

/-- A stored delivery changes only when it is sent, as its webhook and the answer say. -/
theorem serve_stored {d : Delivery} (ready : l.trial.refused = [])
    (fresh : id ∉ step.2.creates l.memory) (hd : l.memory.delivery? id = some d) :
    (l.serve step).memory.delivery? id = some d ∨
      ∃ j r, step.2 = .deliver j r ∧ j.deliveryId = id ∧
        (l.memory.target? d = none ∧ (l.serve step).trial.sent = l.trial.sent ∧
            (l.serve step).memory.delivery? id = some { d with status := .failed } ∨
          ∃ w p, l.memory.target? d = some w ∧ l.memory.payload? d.payloadId = some p ∧
            (l.serve step).trial.sent = l.trial.sent ++ [⟨w, d.eventType, p⟩] ∧
            ((l.serve step).memory.delivery? id = some { d with status := r.status } ∨
              r.status = .success ∧ (l.serve step).memory.delivery? id = none)) := by
  rcases serve_cases ready fresh with hsame | ⟨j, r, es, hop, rfl, hchanges, hsent, hreports⟩
  · exact .inl (hsame.trans hd)
  · rw [hsent]
    rcases hchanges.stored hd with hsame | ⟨rfl, ht, hd'⟩ | ⟨w, p, r', ht, hp, rfl, hd'⟩
    · exact .inl hsame
    · exact .inr ⟨j, r, hop, rfl, .inl ⟨ht, List.append_nil _, hd'⟩⟩
    · obtain rfl : r' = r := hreports _ List.mem_cons_self
      exact .inr ⟨j, r', hop, rfl, .inr ⟨w, p, ht, hp, rfl, hd'⟩⟩

theorem serve_unsent {r : SendReport} (ready : l.trial.refused = [])
    (hop : step.2 = .deliver j r) (h : l.memory.delivery? j.deliveryId = none) :
    (l.serve step).trial.sent = l.trial.sent := by
  obtain ⟨faults, op⟩ := step
  obtain rfl : op = .deliver j r := hop
  obtain ⟨es, hchanges, hsent, -⟩ := serve_deliver ready faults j r
  rw [hsent, (hchanges.absent h).2, List.map_nil, List.append_nil]

theorem serve_absent (ready : l.trial.refused = []) (fresh : id ∉ step.2.creates l.memory)
    (h : l.memory.delivery? id = none) : (l.serve step).memory.delivery? id = none := by
  rcases serve_cases ready fresh with hsame | ⟨j, r, es, -, rfl, hchanges, -⟩
  · exact hsame.trans h
  · exact (hchanges.absent h).1

/-- A delivery that is gone stays away. -/
theorem after_absent (ready : l.trial.refused = []) (hid : id ∈ l.created)
    (fresh : (l.after steps).created.Nodup) (h : l.memory.delivery? id = none) :
    (l.after steps).memory.delivery? id = none :=
  after_keeps (P := (· = none)) ready hid fresh
    (fun _ _ _ ready fresh h => serve_absent ready fresh h) h

/-- A delivery that was tried is not pending again unless a target answers so. -/
theorem after_tried (ready : l.trial.refused = []) (hid : id ∈ l.created)
    (fresh : (l.after steps).created.Nodup)
    (reports : ∀ step ∈ steps, ∀ j r, step.2 = .deliver j r → r.status ≠ .pending)
    (h : ∀ d, l.memory.delivery? id = some d → d.status ≠ .pending) :
    ∀ d, (l.after steps).memory.delivery? id = some d → d.status ≠ .pending := by
  refine after_keeps (P := fun x => ∀ d, x = some d → d.status ≠ .pending) ready hid fresh ?_ h
  intro l step hstep ready fresh h
  rcases serve_cases ready fresh with hsame | ⟨j, r, es, hop, rfl, hchanges, -, hreports⟩
  · rw [hsame]
    exact h
  · refine hchanges.tried (fun e he => ?_) h
    rw [hreports e he]
    exact reports step hstep j r hop

theorem created_of_stored_after (h : ∀ id d, l.memory.delivery? id = some d → id ∈ l.created)
    (ready : l.trial.refused = []) (steps : List Request) :
    ∀ id d, (l.after steps).memory.delivery? id = some d → id ∈ (l.after steps).created := by
  induction steps generalizing l with
  | nil => exact h
  | cons step steps ih =>
    refine ih (fun id d hd => ?_) (serve_ready ready)
    by_cases hnew : id ∈ step.2.creates l.memory
    · exact List.mem_append_right _ hnew
    · cases hold : l.memory.delivery? id with
      | none =>
        rw [serve_absent ready hnew hold] at hd
        cases hd
      | some e => exact List.mem_append_left _ (h id e hold)

/-- Every stored delivery has an id that was made up. -/
theorem created_of_stored (steps : List Request) (id : Uuid) (d : Delivery)
    (h : (start.after steps).memory.delivery? id = some d) : id ∈ (start.after steps).created := by
  refine created_of_stored_after (fun id d h => ?_) rfl steps id d h
  cases h

/-- When no call fails, a delivery that can be sent is sent, whatever its status. -/
theorem serve_sends {d : Delivery} {w : Webhook} {p : Payload} (ready : l.trial.refused = [])
    (r : SendReport) (hs : Sendable l.memory j d w p) :
    (l.serve ([], .deliver j r)).trial.sent = l.trial.sent ++ [⟨w, d.eventType, p⟩] ∧
      (l.serve ([], .deliver j r)).memory.delivery? j.deliveryId =
        if r.status = .success then none else some { d with status := r.status } := by
  obtain ⟨es, h⟩ := serve_serves ready [] (.deliver j r)
  obtain ⟨⟨result, hd⟩, reports⟩ := h.operates.delivers
  obtain ⟨r', rfl, hm⟩ := hd.of_sendable hs
  obtain rfl : r' = r := reports _ List.mem_cons_self
  refine ⟨h.sent, ?_⟩
  change Memory.delivery? (Operation.serve [] (.deliver j r') l.trial).memory _ = _
  rw [hm]
  split
  · rename_i hr
    exact Memory.delivery_settled_success hr
  · rename_i hr
    rw [Memory.settled, if_neg hr]
    exact Memory.delivery_recorded hs.stored

end Ledger

/-- What restrains the status of deliveries in a session in which any call of the store may fail.
Only the sending of a delivery changes it, to failed or to what the target answered; a delivery that
failed is sent again, one that was removed is not. -/
theorem session_lifecycle (before later : List Request)
    (step : Request)
    (fresh : (Ledger.start.after (before ++ later ++ [step])).created.Nodup) :
    let l := Ledger.start.after before
    let l' := Ledger.start.after (before ++ later)
    let l'' := Ledger.start.after (before ++ later ++ [step])
    (∀ id d, l'.memory.delivery? id = some d →
      l''.memory.delivery? id = some d ∨
      ∃ j r, step.2 = .deliver j r ∧ j.deliveryId = id ∧
        (l'.memory.target? d = none ∧ l''.trial.sent = l'.trial.sent ∧
            l''.memory.delivery? id = some { d with status := .failed } ∨
          ∃ w p, l'.memory.target? d = some w ∧ l'.memory.payload? d.payloadId = some p ∧
            l''.trial.sent = l'.trial.sent ++ [⟨w, d.eventType, p⟩] ∧
            (l''.memory.delivery? id = some { d with status := r.status } ∨
              r.status = .success ∧ l''.memory.delivery? id = none))) ∧
    (∀ id d e, l.memory.delivery? id = some d → d.status ≠ .pending →
      (∀ s ∈ later, ∀ j r, s.2 = .deliver j r → r.status ≠ .pending) →
      l'.memory.delivery? id = some e → e.status ≠ .pending) ∧
    (∀ id ∈ l.created, l.memory.delivery? id = none →
      l''.memory.delivery? id = none ∧
        ∀ j r, step.2 = .deliver j r → j.deliveryId = id → l''.trial.sent = l'.trial.sent) ∧
    (∀ j r d w p, step = ([], .deliver j r) → l'.memory.delivery? j.deliveryId = some d →
      l'.memory.target? d = some w → l'.memory.payload? d.payloadId = some p →
      l''.trial.sent = l'.trial.sent ++ [⟨w, d.eventType, p⟩] ∧
        l''.memory.delivery? j.deliveryId =
          if r.status = .success then none else some { d with status := r.status }) := by
  intro l l' l''
  have hl' : l' = l.after later := Ledger.after_append ..
  have hl'' : l'' = l'.serve step := Ledger.after_append ..
  change l''.created.Nodup at fresh
  have ready : l.trial.refused = [] := Ledger.after_ready rfl
  have ready' : l'.trial.refused = [] := Ledger.after_ready rfl
  have hstored : ∀ id d, l.memory.delivery? id = some d → id ∈ l.created :=
    Ledger.created_of_stored before
  have hstored' : ∀ id d, l'.memory.delivery? id = some d → id ∈ l'.created :=
    Ledger.created_of_stored (before ++ later)
  have hnew : ∀ id ∈ l'.created, id ∉ step.2.creates l'.memory := by
    rw [hl''] at fresh
    exact fun id hid => Ledger.not_created fresh hid
  have fresh' : (l.after later).created.Nodup := by
    rw [hl'', hl'] at fresh
    exact Ledger.created_nodup (l.after later) [step] fresh
  refine ⟨?_, ?_, ?_, ?_⟩
  · intro id d hd
    rw [hl'']
    exact Ledger.serve_stored ready' (hnew id (hstored' id d hd)) hd
  · intro id d e hd htried hreports he
    rw [hl'] at he
    refine Ledger.after_tried ready (hstored id d hd) fresh' hreports ?_ e he
    intro d' hd'
    obtain rfl := Option.some.inj (hd.symm.trans hd')
    exact htried
  · intro id hid hd
    have hd' : l'.memory.delivery? id = none := by
      rw [hl']
      exact Ledger.after_absent ready hid fresh' hd
    have hid' : id ∈ l'.created := by
      rw [hl']
      obtain ⟨ids, hids⟩ := Ledger.created_after l later
      rw [hids]
      exact List.mem_append_left _ hid
    rw [hl'']
    refine ⟨Ledger.serve_absent ready' (hnew id hid') hd', ?_⟩
    rintro j r hop rfl
    exact Ledger.serve_unsent ready' hop hd'
  · rintro j r d w p rfl hd ht hp
    rw [hl'']
    exact Ledger.serve_sends ready' r ⟨hd, ht, hp⟩

namespace Sample

/-- A delivery is made and sent in vain. -/
def inVain : List Request :=
  [([], .addWebhook hook), ([], .triggerEvent (fresh 10) "order_created" .null),
    ([], .deliver ⟨fresh 20, .ofNat 11, none⟩ (report .failed))]

def again (r : SendReport) : Request :=
  ([], .deliver ⟨fresh 30, .ofNat 11, none⟩ r)

end Sample

open Sample

/-- A delivery that failed once and succeeded then is not sent a third time. -/
theorem session_lifecycle_third :
    let steps := inVain ++ [again (report .success)]
    (Ledger.start.after (steps ++ [] ++ [again (report .failed)])).created.Nodup ∧
      (Ledger.start.after (steps ++ [] ++ [again (report .failed)])).trial.sent =
        (Ledger.start.after (steps ++ [])).trial.sent := by
  intro steps
  have hfresh : (Ledger.start.after (steps ++ [] ++ [again (report .failed)])).created.Nodup := by
    decide
  obtain ⟨-, -, hgone, -⟩ := session_lifecycle steps [] (again (report .failed)) hfresh
  exact ⟨hfresh, (hgone (.ofNat 11) (by decide) (by decide)).2 _ _ rfl rfl⟩

/-- The status of a delivery that failed is not the end of it. -/
theorem failed_delivery_sent_again :
    ¬ ∀ (before : List Request) (faults : List (Option Fault)) (j : Job)
        (r : SendReport) (d : Delivery),
      (Ledger.start.after (before ++ [(faults, .deliver j r)])).created.Nodup →
      (Ledger.start.after before).memory.delivery? j.deliveryId = some d →
      d.status = .success ∨ d.status = .failed →
      (Ledger.start.after (before ++ [(faults, .deliver j r)])).trial.sent =
          (Ledger.start.after before).trial.sent ∧
        (Ledger.start.after (before ++ [(faults, .deliver j r)])).memory.delivery? j.deliveryId =
          some d := by
  intro h
  have hsent := (h inVain [] ⟨fresh 30, .ofNat 11, none⟩ (report .success)
    ⟨.ofNat 11, .failed, "order_created", .ofNat 10, hook.id, .epoch⟩
    (by decide) (by decide) (by decide)).1
  revert hsent
  decide

end ShopRelay.Tracker
