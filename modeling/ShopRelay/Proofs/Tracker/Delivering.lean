import ShopRelay.Proofs.Tracker.Turns
import ShopRelay.Tracker.Trial

/-!
What one undisturbed sending of a delivery comes to, for every content of the memory and every
answer of the target: its four exits, and what it leaves alone.
-/

namespace ShopRelay.Tracker

/-- What is sent, and what comes back. -/
abbrev Exchange : Type := Sending × SendReport

def exchange : (c : outside.Call) → outside.Reply c → List Exchange
  | .inl _, _ => []
  | .inr x, r => [(x, r)]

namespace Memory

/-- The memory in which the report is recorded, with the delivery still there. -/
def recorded (m : Memory) (j : Job) (r : SendReport) : Memory :=
  let a := newAttempt j.fresh j.deliveryId j.taskId
  ((m.addAttempt a).saveOutcome (withReport a r)).setStatus j.deliveryId r.status

/-- The memory that a sending leaves behind. -/
def settled (m : Memory) (j : Job) (r : SendReport) : Memory :=
  if r.status = .success then (m.recorded j r).removeDelivery j.deliveryId else m.recorded j r

end Memory

/-- The exits of a job that finds a memory and runs alone: its result, what it exchanged with the
target, and the memory after it. -/
inductive Delivers (m : Memory) (j : Job) :
    Except Fault (Option DeliveryStatus) → List Exchange → Memory → Prop where
  | absent (h : m.delivery? j.deliveryId = none) : Delivers m j (.ok none) [] m
  | givenUp {d : Delivery} (h : m.delivery? j.deliveryId = some d) (ht : m.target? d = none) :
    Delivers m j (.ok (some .failed)) [] (m.setStatus j.deliveryId .failed)
  | payloadLost {d : Delivery} {w : Webhook} (h : m.delivery? j.deliveryId = some d)
      (ht : m.target? d = some w) (hp : m.payload? d.payloadId = none) :
    Delivers m j (.error (.payloadMissing d.payloadId j.deliveryId)) [] m
  | sent {d : Delivery} {w : Webhook} {p : Payload} (h : m.delivery? j.deliveryId = some d)
      (ht : m.target? d = some w) (hp : m.payload? d.payloadId = some p) (r : SendReport) :
    Delivers m j (.ok (some r.status)) [(⟨w, d.eventType, p⟩, r)] (m.settled j r)

/-- A delivery that can be sent, with what is sent and where. -/
structure Sendable (m : Memory) (j : Job) (d : Delivery) (w : Webhook) (p : Payload) : Prop where
  stored : m.delivery? j.deliveryId = some d
  target : m.target? d = some w
  payload : m.payload? d.payloadId = some p

/-- How far a job that runs alone has come at each stage, counted from the memory it found. -/
def Progress (m : Memory) (j : Job) :
    Stage → List Exchange → Memory → Prop
  | .start, es, m' => es = [] ∧ m' = m
  | .loaded d, es, m' => m.delivery? j.deliveryId = some d ∧ es = [] ∧ m' = m
  | .untargeted d, es, m' =>
    m.delivery? j.deliveryId = some d ∧ m.target? d = none ∧ es = [] ∧ m' = m
  | .targeted d w, es, m' =>
    m.delivery? j.deliveryId = some d ∧ m.target? d = some w ∧ es = [] ∧ m' = m
  | .ready d w p, es, m' => Sendable m j d w p ∧ es = [] ∧ m' = m
  | .attempted d w p a, es, m' =>
    Sendable m j d w p ∧ a = newAttempt j.fresh j.deliveryId j.taskId ∧ es = [] ∧
      m' = m.addAttempt a
  | .answered d a r, es, m' =>
    ∃ w p, Sendable m j d w p ∧ a = newAttempt j.fresh j.deliveryId j.taskId ∧
      es = [(⟨w, d.eventType, p⟩, r)] ∧ m' = m.addAttempt a
  | .recorded d r, es, m' =>
    ∃ w p, Sendable m j d w p ∧ es = [(⟨w, d.eventType, p⟩, r)] ∧
      ∃ a, a = newAttempt j.fresh j.deliveryId j.taskId ∧
        m' = (m.addAttempt a).saveOutcome (withReport a r)
  | .succeeded d r, es, m' =>
    ∃ w p, Sendable m j d w p ∧ r.status = .success ∧ es = [(⟨w, d.eventType, p⟩, r)] ∧
      m' = m.recorded j r
  | .ended result, es, m' => Delivers m j result es m'

variable {m m' m'' : Memory} {j : Job}

/-- No turn of a job that runs alone is one that loses its delivery or its attempt. -/
theorem Progress.turn {stage stage' : Stage} {es : List Exchange}
    {c : outside.Call} {x : outside.Reply c} (hp : Progress m j stage es m')
    (ht : Turn j m' stage c x stage' m'') :
    Progress m j stage' (es ++ exchange c x) m'' := by
  cases ht with
  | absent h =>
    obtain ⟨rfl, rfl⟩ := hp
    exact .absent h
  | load h =>
    obtain ⟨rfl, rfl⟩ := hp
    exact ⟨h, rfl, rfl⟩
  | untarget h =>
    obtain ⟨hd, rfl, rfl⟩ := hp
    exact ⟨hd, h, rfl, rfl⟩
  | target h =>
    obtain ⟨hd, rfl, rfl⟩ := hp
    exact ⟨hd, h, rfl, rfl⟩
  | giveUpLost h =>
    obtain ⟨hd, -, rfl, rfl⟩ := hp
    rw [Memory.id_of_delivery hd, hd] at h
    cases h
  | giveUp h =>
    obtain ⟨hd, ht, rfl, rfl⟩ := hp
    rw [Memory.id_of_delivery hd]
    exact .givenUp hd ht
  | payloadLost h =>
    obtain ⟨hd, ht, rfl, rfl⟩ := hp
    exact .payloadLost hd ht h
  | prepare h =>
    obtain ⟨hd, ht, rfl, rfl⟩ := hp
    exact ⟨⟨hd, ht, h⟩, rfl, rfl⟩
  | attempt =>
    obtain ⟨hs, rfl, rfl⟩ := hp
    rw [Memory.id_of_delivery hs.stored]
    exact ⟨hs, rfl, rfl, rfl⟩
  | send r =>
    obtain ⟨hs, ha, rfl, rfl⟩ := hp
    exact ⟨_, _, hs, ha, rfl, rfl⟩
  | recordLost h =>
    obtain ⟨w, p, hs, rfl, rfl, rfl⟩ := hp
    have ha := Memory.attempt_addAttempt m (newAttempt j.fresh j.deliveryId j.taskId)
    rw [h] at ha
    cases ha
  | record h =>
    obtain ⟨w, p, hs, rfl, rfl, rfl⟩ := hp
    exact ⟨w, p, hs, rfl, _, rfl, rfl⟩
  | saveLost h =>
    obtain ⟨w, p, hs, rfl, a, rfl, rfl⟩ := hp
    rw [Memory.id_of_delivery hs.stored, Memory.delivery_saveOutcome, Memory.delivery_addAttempt,
      hs.stored] at h
    cases h
  | saveSuccess h hr =>
    obtain ⟨w, p, hs, rfl, a, rfl, rfl⟩ := hp
    rw [Memory.id_of_delivery hs.stored]
    exact ⟨w, p, hs, hr, rfl, rfl⟩
  | @save d e r h hr =>
    obtain ⟨w, p, hs, rfl, a, rfl, rfl⟩ := hp
    rw [Memory.id_of_delivery hs.stored]
    have hsent := Delivers.sent hs.stored hs.target hs.payload r
    rw [Memory.settled, if_neg hr] at hsent
    exact hsent
  | @clear d r =>
    obtain ⟨w, p, hs, hr, rfl, rfl⟩ := hp
    rw [Memory.id_of_delivery hs.stored]
    have hsent := Delivers.sent hs.stored hs.target hs.payload r
    rw [Memory.settled, if_pos hr] at hsent
    exact hsent

theorem Delivers.of_sendable {result : Except Fault (Option DeliveryStatus)} {d : Delivery}
    {w : Webhook} {p : Payload} {es : List Exchange} (h : Delivers m j result es m')
    (hs : Sendable m j d w p) :
    ∃ r, es = [(⟨w, d.eventType, p⟩, r)] ∧ m' = m.settled j r := by
  cases h with
  | absent h =>
    rw [hs.stored] at h
    cases h
  | givenUp h ht =>
    obtain rfl := Option.some.inj (hs.stored.symm.trans h)
    rw [hs.target] at ht
    cases ht
  | payloadLost h ht hp =>
    obtain rfl := Option.some.inj (hs.stored.symm.trans h)
    rw [hs.payload] at hp
    cases hp
  | sent h ht hp r =>
    obtain rfl := Option.some.inj (hs.stored.symm.trans h)
    obtain rfl := Option.some.inj (hs.target.symm.trans ht)
    obtain rfl := Option.some.inj (hs.payload.symm.trans hp)
    exact ⟨r, rfl, rfl⟩

/-- The attempt that a sending leaves: the outcome is the report. -/
def answeredAttempt (fresh : Fresh) (deliveryId : Option Uuid) (taskId : Option String)
    (r : SendReport) : Attempt where
  id := fresh.attemptId
  deliveryId := deliveryId
  taskId := taskId
  duration := some r.duration
  response := some (Excerpt.codec.print r.content)
  requestHeaders := some (headersCodec.print r.requestHeaders)
  responseHeaders := some (headersCodec.print r.responseHeaders)
  status := r.status
  createdAt := fresh.attemptTime

namespace Memory

variable {d : Delivery} {r : SendReport}

theorem attempts_recorded (unused : ∀ a ∈ m.attempts, a.id ≠ j.fresh.attemptId) :
    (m.recorded j r).attempts =
      m.attempts ++ [answeredAttempt j.fresh (some j.deliveryId) j.taskId r] :=
  updateFirst_append rfl unused

theorem delivery_recorded (h : m.delivery? j.deliveryId = some d) :
    (m.recorded j r).delivery? j.deliveryId = some { d with status := r.status } := by
  unfold recorded
  apply delivery_setStatus_self
  rw [delivery_saveOutcome, delivery_addAttempt]
  exact h

theorem delivery_recorded_other {other : Uuid} (h : other ≠ j.deliveryId) :
    (m.recorded j r).delivery? other = m.delivery? other := by
  unfold recorded
  rw [delivery_setStatus_other _ h, delivery_saveOutcome, delivery_addAttempt]

theorem attempts_settled_success (unused : ∀ a ∈ m.attempts, a.id ≠ j.fresh.attemptId)
    (hr : r.status = .success) :
    (m.settled j r).attempts = m.attempts.map (unlink j.deliveryId) ++
      [answeredAttempt j.fresh none j.taskId r] := by
  rw [settled, if_pos hr, attempts_removeDelivery, attempts_recorded unused, List.map_append]
  simp [unlink, answeredAttempt]

theorem delivery_settled_success (hr : r.status = .success) :
    (m.settled j r).delivery? j.deliveryId = none := by
  rw [settled, if_pos hr, delivery_removeDelivery, if_pos rfl]

theorem delivery_settled_other {other : Uuid} (h : other ≠ j.deliveryId) :
    (m.settled j r).delivery? other = m.delivery? other := by
  unfold settled
  split
  · rw [delivery_removeDelivery, if_neg h, delivery_recorded_other h]
  · exact delivery_recorded_other h

theorem settled_payloads : (m.settled j r).payloads = m.payloads := by
  unfold settled
  split <;> rfl

theorem settled_webhooks : (m.settled j r).webhooks = m.webhooks := by
  unfold settled
  split <;> rfl

end Memory

end ShopRelay.Tracker
