import ShopRelay.Proofs.Tracker.Serving

/-!
Sessions: any sequence of complete operations on one memory, from the empty one on, and what links
its collections in every state that a session without failing calls can reach.
-/

namespace ShopRelay.Tracker

/-- What can be asked of a memory, with what is made up for it and what the target will answer. -/
inductive Operation where
  | addWebhook (webhook : Webhook)
  | insertPayload (payload : Payload)
  | triggerEvent (fresh : Fresh) (eventType : String) (payload : Json.Value)
  | deliver (job : Job) (report : SendReport)

/-- The trial after an operation in which some calls of the store may fail. -/
def Operation.serve (faults : List (Option Fault)) : Operation → Trial → Trial
  | .addWebhook w, t => { t with memory := t.memory.addWebhook w }
  | .insertPayload p, t => (t.runFaltering faults (Task.left (store (.insertPayload p)))).2
  | .triggerEvent fresh eventType payload, t =>
    (t.runFaltering faults (Task.left (Tracker.triggerEvent fresh eventType payload))).2
  | .deliver j report, t => ({ t with report }.runFaltering faults j.task).2

/-- The trial after a session in which no call of the store fails. -/
def Trial.session (ops : List Operation) : Trial :=
  ops.foldl (fun t op => op.serve [] t) .start

variable {m : Memory} {fresh : Fresh} {eventType : String} {payload : Json.Value}

theorem mem_pendingDeliveries {ws : List Webhook} {p : Payload} {d : Delivery}
    (h : d ∈ pendingDeliveries fresh ws p eventType) :
    d.payloadId = p.id ∧ d.status = .pending := by
  obtain ⟨⟨w, i⟩, -, rfl⟩ := List.mem_map.mp h
  exact ⟨rfl, rfl⟩

/-- The deliveries by which an event is announced to those who subscribe to it. -/
def Memory.announcements (m : Memory) (fresh : Fresh) (eventType : String)
    (payload : Json.Value) : List Delivery :=
  pendingDeliveries fresh (m.webhooks.filter (·.subscribesTo eventType))
    (newPayload fresh payload.print) eventType

def Memory.announce (m : Memory) (fresh : Fresh) (eventType : String) (payload : Json.Value) :
    Memory :=
  (m.putPayload (newPayload fresh payload.print)).putDeliveries
    (m.announcements fresh eventType payload)

theorem reply_announcements :
    Memory.reply (.insertEvent (newPayload fresh payload.print)
        (m.announcements fresh eventType payload)) m =
      (.ok (newPayload fresh payload.print, m.announcements fresh eventType payload),
        m.announce fresh eventType payload) := by
  have hown : (m.announcements fresh eventType payload).find?
      (·.payloadId ≠ (newPayload fresh payload.print).id) = none := by
    rw [List.find?_eq_none]
    intro d hd
    simpa using (mem_pendingDeliveries hd).1
  simp only [Memory.reply, hown]
  rfl

namespace Trial

variable {t : Trial}

/-- The first call of a program fails and ends the run, or the rest of the program runs on. -/
theorem run_call_cases {α : Type} {c : StoreCall}
    {next : outside.Reply (.inl c) → Task outside α}
    (fails : ∀ f, next (.error f) = Task.fail f) (ready : t.refused = [])
    (faults : List (Option Fault)) :
    (faults ≠ [] ∧ (t.runFaltering faults (Program.call (.inl c) next)).2 = t) ∨
      ∃ rest, (rest ≠ [] → faults ≠ []) ∧
        t.runFaltering faults (Program.call (.inl c) next) =
          runFaltering rest { t with
            memory := (Memory.reply c t.memory).2
            calls := t.calls ++ [c.name] } (next (Memory.reply c t.memory).1) := by
  have hrun : Task.run replyFaltering (Program.call (.inl c) next) (t, faults) =
      Task.run replyFaltering (next (replyFaltering (.inl c) (t, faults)).1)
        (replyFaltering (.inl c) (t, faults)).2 := rfl
  unfold runFaltering
  rw [hrun]
  rcases replyFaltering_cases ready c faults with ⟨f, rest, hne, he⟩ | ⟨rest, hne, he⟩
  · rw [he]
    dsimp only
    rw [fails]
    exact .inl ⟨hne, rfl⟩
  · rw [he]
    exact .inr ⟨rest, hne, rfl⟩

end Trial

/-- What an operation does to a memory, and what it exchanges with the targets. A failing call stops
it on the way. -/
inductive Operates (faults : List (Option Fault)) (m : Memory) :
    Operation → List Exchange → Memory → Prop where
  | addWebhook (w : Webhook) : Operates faults m (.addWebhook w) [] (m.addWebhook w)
  | insertPayload (p : Payload) : Operates faults m (.insertPayload p) [] (m.putPayload p)
  | triggerEvent (fresh : Fresh) (eventType : String) (payload : Json.Value) :
    Operates faults m (.triggerEvent fresh eventType payload) []
      (m.announce fresh eventType payload)
  | stopped (op : Operation) (scheduled : faults ≠ []) : Operates faults m op [] m
  | deliver {j : Job} {r : SendReport} {stage : Stage} {es : List Exchange}
      {m' : Memory} (progress : Progress m j stage es m') (reports : ∀ e ∈ es, e.2 = r)
      (complete : faults = [] → ∃ result, stage = .ended result) :
    Operates faults m (.deliver j r) es m'

/-- A trial before and after an operation, with what that exchanged with the targets. -/
structure Serves (faults : List (Option Fault)) (t : Trial) (op : Operation)
    (es : List Exchange) (s : Trial) : Prop where
  operates : Operates faults t.memory op es s.memory
  sent : s.sent = t.sent ++ es.map Prod.fst
  ready : s.refused = []

variable {t : Trial} {faults : List (Option Fault)}

theorem Serves.quiet {op : Operation} {s : Trial}
    (operates : Operates faults t.memory op [] s.memory) (sent : s.sent = t.sent)
    (ready : s.refused = []) : Serves faults t op [] s :=
  ⟨operates, by simp [sent], ready⟩

theorem Serves.stopped (ready : t.refused = []) (op : Operation) (scheduled : faults ≠ []) :
    Serves faults t op [] t :=
  .quiet (.stopped op scheduled) rfl ready

theorem insertPayload_serves (ready : t.refused = []) (p : Payload) :
    Serves faults t (.insertPayload p) [] ((Operation.insertPayload p).serve faults t) := by
  change Serves faults t _ []
    (t.runFaltering faults (Program.call (.inl (.insertPayload p)) Program.done)).2
  rcases Trial.run_call_cases (fun _ => rfl) ready faults with ⟨hne, he⟩ | ⟨rest, hne, he⟩
  · rw [he]
    exact .stopped ready _ hne
  · rw [he]
    exact .quiet (.insertPayload p) rfl ready

/-- The two calls by which an event is announced. -/
theorem triggerEvent_calls (fresh : Fresh) (eventType : String) (payload : Json.Value) :
    ∃ next : outside.Reply (.inl (.webhooksForEvent eventType)) →
        Task outside (Payload × List Delivery),
      Task.left (Tracker.triggerEvent fresh eventType payload) = Program.call _ next ∧
      (∀ e, next (.error e) = Task.fail e) ∧
      ∀ ws, next (.ok ws) = Program.call (I := outside) (.inl (.insertEvent
        (newPayload fresh payload.print)
        (pendingDeliveries fresh ws (newPayload fresh payload.print) eventType))) Program.done :=
  ⟨_, rfl, fun _ => rfl, fun _ => rfl⟩

theorem triggerEvent_serves (ready : t.refused = []) :
    Serves faults t (.triggerEvent fresh eventType payload) []
      ((Operation.triggerEvent fresh eventType payload).serve faults t) := by
  obtain ⟨next, htask, hfail, hnext⟩ := triggerEvent_calls fresh eventType payload
  change Serves faults t _ []
    (t.runFaltering faults (Task.left (Tracker.triggerEvent fresh eventType payload))).2
  rw [htask]
  rcases Trial.run_call_cases hfail ready faults with ⟨hne, he⟩ | ⟨rest, hne, he⟩
  · rw [he]
    exact .stopped ready _ hne
  · rw [he, Memory.reply, hnext]
    dsimp only
    let s : Trial := { t with calls := t.calls ++ [StoreCall.name (.webhooksForEvent eventType)] }
    change Serves faults t _ [] (s.runFaltering rest _).2
    rcases Trial.run_call_cases (t := s) (fun _ => rfl) ready rest with
      ⟨hrest, he⟩ | ⟨rest', hrest, he⟩
    · rw [he]
      exact .quiet (.stopped _ (hne hrest)) rfl ready
    · rw [he]
      refine .quiet ?_ rfl ready
      change Operates faults t.memory _ []
        (Memory.reply (.insertEvent (newPayload fresh payload.print)
          (t.memory.announcements fresh eventType payload)) t.memory).2
      -- The deliveries refer to the payload that goes with them, so the memory accepts them.
      rw [reply_announcements]
      exact .triggerEvent fresh eventType payload

theorem deliver_serves (ready : t.refused = []) (j : Job) (r : SendReport) :
    ∃ es, Serves faults t (.deliver j r) es ((Operation.deliver j r).serve faults t) := by
  obtain ⟨rest, h⟩ := Trial.run_standing (t := { t with report := r }) ready j faults
  change ∃ es, Serves faults t (.deliver j r) es
    (({ t with report := r }).runFaltering faults j.task).2
  generalize Trial.runFaltering faults _ _ = run at h ⊢
  obtain ⟨result, s⟩ := run
  cases h with
  | going left progress after =>
    exact ⟨_, .deliver progress after.reports fun _ => ⟨_, rfl⟩, after.sent, after.ready⟩
  | failed f scheduled progress after =>
    exact ⟨_, .deliver progress after.reports fun h => absurd h scheduled, after.sent, after.ready⟩

theorem serve_serves (ready : t.refused = []) (faults : List (Option Fault)) (op : Operation) :
    ∃ es, Serves faults t op es (op.serve faults t) := by
  cases op with
  | addWebhook w => exact ⟨[], .quiet (.addWebhook w) rfl ready⟩
  | insertPayload p => exact ⟨[], insertPayload_serves ready p⟩
  | triggerEvent fresh eventType payload => exact ⟨[], triggerEvent_serves ready⟩
  | deliver j r => exact deliver_serves ready j r

/-- Deliveries have their payloads and are not finished; attempts refer to deliveries that exist. -/
structure Memory.Sound (m : Memory) : Prop where
  payloads : ∀ d ∈ m.deliveries, (m.payload? d.payloadId).isSome
  unfinished : ∀ d ∈ m.deliveries, d.status ≠ .success
  references : ∀ a ∈ m.attempts, ∀ id, a.deliveryId = some id → (m.delivery? id).isSome

namespace Memory.Sound

variable {m : Memory}

theorem empty : Memory.empty.Sound :=
  ⟨fun _ h => absurd h List.not_mem_nil, fun _ h => absurd h List.not_mem_nil,
    fun _ h => absurd h List.not_mem_nil⟩

theorem addWebhook (h : m.Sound) (w : Webhook) : (m.addWebhook w).Sound :=
  ⟨h.payloads, h.unfinished, h.references⟩

theorem putPayload (h : m.Sound) (p : Payload) : (m.putPayload p).Sound :=
  ⟨fun d hd => payload_putPayload_isSome m p _ (.inr (h.payloads d hd)), h.unfinished,
    h.references⟩

theorem announce (h : m.Sound) (fresh : Fresh) (eventType : String) (payload : Json.Value) :
    (m.announce fresh eventType payload).Sound := by
  have hstored := h.putPayload (newPayload fresh payload.print)
  refine ⟨?_, ?_, ?_⟩
  · intro d hd
    rcases mem_puts Delivery.id hd with hd | hd
    · exact payload_putPayload_isSome m _ _ (.inl (mem_pendingDeliveries hd).1)
    · exact hstored.payloads d hd
  · intro d hd
    rcases mem_puts Delivery.id hd with hd | hd
    · rw [(mem_pendingDeliveries hd).2]
      exact DeliveryStatus.noConfusion
    · exact h.unfinished d hd
  · intro a ha id hid
    exact find_puts_isSome Delivery.id id (h.references a ha id hid)

theorem addAttempt {a : Attempt} {id : Uuid} (h : m.Sound) (ha : a.deliveryId = some id)
    (stored : (m.delivery? id).isSome) : (m.addAttempt a).Sound := by
  refine ⟨h.payloads, h.unfinished, ?_⟩
  intro b hb other hother
  rcases List.mem_append.mp hb with hb | hb
  · exact h.references b hb other hother
  · rw [List.mem_singleton.mp hb, ha] at hother
    rw [← Option.some.inj hother]
    exact stored

theorem saveOutcome (h : m.Sound) (a : Attempt) : (m.saveOutcome a).Sound :=
  ⟨h.payloads, h.unfinished, (retains_saveOutcome m a).stored m h.references⟩

theorem setStatus {status : DeliveryStatus} (h : m.Sound) (id : Uuid)
    (unfinished : status ≠ .success) : (m.setStatus id status).Sound := by
  refine ⟨?_, ?_, ?_⟩
  · intro d hd
    obtain ⟨e, he, rfl⟩ := List.mem_map.mp hd
    have hp := h.payloads e he
    split
    · exact hp
    · exact hp
  · intro d hd
    obtain ⟨e, he, rfl⟩ := List.mem_map.mp hd
    split
    · exact unfinished
    · exact h.unfinished e he
  · exact (retains_setStatus m id status).stored m h.references

theorem removeDelivery (h : m.Sound) (id : Uuid) : (m.removeDelivery id).Sound where
  payloads d hd := h.payloads d (List.mem_filter.mp hd).1
  unfinished d hd := h.unfinished d (List.mem_filter.mp hd).1
  references := (retains_removeDelivery m id).stored m h.references

theorem settled {j : Job} (h : m.Sound) (r : SendReport)
    (stored : (m.delivery? j.deliveryId).isSome) : (m.settled j r).Sound := by
  let a := newAttempt j.fresh j.deliveryId j.taskId
  have hanswered := (h.addAttempt (a := a) rfl stored).saveOutcome (withReport a r)
  unfold Memory.settled recorded
  split
  · rw [removeDelivery_setStatus]
    exact hanswered.removeDelivery _
  · rename_i hr
    exact hanswered.setStatus _ hr

end Memory.Sound

variable {m m' : Memory} {j : Job} {es : List Exchange}

theorem Delivers.sound {result : Except Fault (Option DeliveryStatus)} (h : m.Sound)
    (hd : Delivers m j result es m') : m'.Sound := by
  cases hd with
  | absent => exact h
  | givenUp => exact h.setStatus _ DeliveryStatus.noConfusion
  | payloadLost => exact h
  | sent hd _ _ r => exact h.settled r (by simp [hd])

/-- Where the collections are linked, no sending of a delivery ends with a fault. -/
theorem Delivers.returns {result : Except Fault (Option DeliveryStatus)} (h : m.Sound)
    (hd : Delivers m j result es m') : ∃ answer, result = .ok answer := by
  cases hd with
  | absent => exact ⟨_, rfl⟩
  | givenUp => exact ⟨_, rfl⟩
  | payloadLost hd _ hp =>
    have hstored := h.payloads _ (Memory.mem_of_delivery hd)
    rw [hp] at hstored
    cases hstored
  | sent => exact ⟨_, rfl⟩

theorem Operates.delivers {r : SendReport} (h : Operates [] m (.deliver j r) es m') :
    (∃ result, Delivers m j result es m') ∧ ∀ e ∈ es, e.2 = r := by
  cases h with
  | stopped _ scheduled => exact absurd rfl scheduled
  | deliver progress reports complete =>
    obtain ⟨result, rfl⟩ := complete rfl
    exact ⟨⟨result, progress⟩, reports⟩

theorem Operates.sound {op : Operation} (h : m.Sound) (ho : Operates [] m op es m') : m'.Sound := by
  cases ho with
  | addWebhook w => exact h.addWebhook w
  | insertPayload p => exact h.putPayload p
  | triggerEvent fresh eventType payload => exact h.announce fresh eventType payload
  | stopped _ scheduled => exact absurd rfl scheduled
  | deliver progress reports complete =>
    obtain ⟨⟨result, hd⟩, -⟩ := Operates.delivers (.deliver progress reports complete)
    exact hd.sound h

theorem serve_sound (ready : t.refused = []) (h : t.memory.Sound) (op : Operation) :
    (op.serve [] t).memory.Sound ∧ (op.serve [] t).refused = [] := by
  obtain ⟨es, hs⟩ := serve_serves ready [] op
  exact ⟨hs.operates.sound h, hs.ready⟩

theorem session_sound (ops : List Operation) :
    (Trial.session ops).memory.Sound ∧ (Trial.session ops).refused = [] := by
  unfold Trial.session
  have hrun : ∀ t : Trial, t.memory.Sound ∧ t.refused = [] →
      (ops.foldl (fun t op => op.serve [] t) t).memory.Sound ∧
        (ops.foldl (fun t op => op.serve [] t) t).refused = [] := by
    induction ops with
    | nil => exact fun _ h => h
    | cons op ops ih => exact fun t h => ih _ (serve_sound h.2 h.1 op)
  exact hrun .start ⟨.empty, rfl⟩

/-- In every state that a session reaches the collections are linked, and no further sending of a
delivery ends with a fault. -/
theorem session_consistent (ops : List Operation) :
    let m := (Trial.session ops).memory
    (∀ d ∈ m.deliveries, ∃ p ∈ m.payloads, p.id = d.payloadId) ∧
      (∀ d ∈ m.deliveries, d.status ≠ .success) ∧
      (∀ a ∈ m.attempts, a.deliveryId = none ∨ ∃ d ∈ m.deliveries, a.deliveryId = some d.id) ∧
      ∀ (fresh : Fresh) (id : Uuid) (taskId : Option String) (report : SendReport),
        ∃ answer, (({ Trial.session ops with report }).run (deliver fresh id taskId)).1 =
          .ok answer := by
  obtain ⟨hsound, hready⟩ := session_sound ops
  refine ⟨?_, hsound.unfinished, ?_, ?_⟩
  · intro d hd
    obtain ⟨p, hp⟩ := Option.isSome_iff_exists.mp (hsound.payloads d hd)
    exact ⟨p, List.mem_of_find?_eq_some hp, by simpa using List.find?_some hp⟩
  · intro a ha
    cases hid : a.deliveryId with
    | none => exact .inl rfl
    | some id =>
      obtain ⟨d, hd⟩ := Option.isSome_iff_exists.mp (hsound.references a ha id hid)
      exact .inr ⟨d, Memory.mem_of_delivery hd, by rw [Memory.id_of_delivery hd]⟩
  · intro fresh id taskId report
    obtain ⟨es, hd, -⟩ := Trial.run_delivers (t := { Trial.session ops with report }) hready
      ⟨fresh, id, taskId⟩
    exact hd.returns hsound

end ShopRelay.Tracker
