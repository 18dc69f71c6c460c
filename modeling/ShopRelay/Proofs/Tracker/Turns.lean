import ShopRelay.Proofs.Tracker.Memory
import ShopRelay.Proofs.Tracker.Stages

/-!
The stages of a job over a memory: every way in which one call can be answered. Whether jobs run
alone or between the calls of others, each of their steps is one of these turns.
-/

namespace ShopRelay.Tracker

/-- The store answers as its content says, a target as it likes. -/
inductive Answers (m : Memory) : (c : outside.Call) → outside.Reply c → Memory → Prop where
  | stored (c : StoreCall) : Answers m (.inl c) (Memory.reply c m).1 (Memory.reply c m).2
  | sent (x : Sending) (r : SendReport) : Answers m (.inr x) r m

/-- One call of a job that finds the memory as it is: what is called and replied, and the stage and
the memory after it. -/
inductive Turn (j : Job) (m : Memory) :
    Stage → (c : outside.Call) → outside.Reply c → Stage → Memory → Prop where
  | absent (h : m.delivery? j.deliveryId = none) :
    Turn j m .start (.inl (.delivery j.deliveryId)) (.ok none) (.ended (.ok none)) m
  | load {d : Delivery} (h : m.delivery? j.deliveryId = some d) :
    Turn j m .start (.inl (.delivery j.deliveryId)) (.ok (some d)) (.loaded d) m
  | untarget {d : Delivery} (h : m.target? d = none) :
    Turn j m (.loaded d) (.inl (.webhook d.webhookId)) (.ok (m.webhook? d.webhookId))
      (.untargeted d) m
  | target {d : Delivery} {w : Webhook} (h : m.target? d = some w) :
    Turn j m (.loaded d) (.inl (.webhook d.webhookId)) (.ok (m.webhook? d.webhookId))
      (.targeted d w) m
  | giveUpLost {d : Delivery} (h : m.delivery? d.id = none) :
    Turn j m (.untargeted d) (.inl (.saveDeliveryStatus d.id .failed))
      (.error (.deliveryMissing d.id)) (.ended (.error (.deliveryMissing d.id))) m
  | giveUp {d e : Delivery} (h : m.delivery? d.id = some e) :
    Turn j m (.untargeted d) (.inl (.saveDeliveryStatus d.id .failed)) (.ok ())
      (.ended (.ok (some .failed))) (m.setStatus d.id .failed)
  | payloadLost {d : Delivery} {w : Webhook} (h : m.payload? d.payloadId = none) :
    Turn j m (.targeted d w) (.inl (.payload d.payloadId)) (.ok none)
      (.ended (.error (.payloadMissing d.payloadId j.deliveryId))) m
  | prepare {d : Delivery} {w : Webhook} {p : Payload} (h : m.payload? d.payloadId = some p) :
    Turn j m (.targeted d w) (.inl (.payload d.payloadId)) (.ok (some p)) (.ready d w p) m
  | attempt {d : Delivery} {w : Webhook} {p : Payload} :
    Turn j m (.ready d w p) (.inl (.insertAttempt (newAttempt j.fresh d.id j.taskId)))
      (.ok (newAttempt j.fresh d.id j.taskId))
      (.attempted d w p (newAttempt j.fresh d.id j.taskId))
      (m.addAttempt (newAttempt j.fresh d.id j.taskId))
  | send {d : Delivery} {w : Webhook} {p : Payload} {a : Attempt} (r : SendReport) :
    Turn j m (.attempted d w p a) (.inr ⟨w, d.eventType, p⟩) r (.answered d a r) m
  | recordLost {d : Delivery} {a : Attempt} {r : SendReport} (h : m.attempt? a.id = none) :
    Turn j m (.answered d a r) (.inl (.saveAttemptOutcome (withReport a r)))
      (.error (.attemptMissing a.id)) (.ended (.error (.attemptMissing a.id))) m
  | record {d : Delivery} {a b : Attempt} {r : SendReport} (h : m.attempt? a.id = some b) :
    Turn j m (.answered d a r) (.inl (.saveAttemptOutcome (withReport a r))) (.ok ())
      (.recorded d r) (m.saveOutcome (withReport a r))
  | saveLost {d : Delivery} {r : SendReport} (h : m.delivery? d.id = none) :
    Turn j m (.recorded d r) (.inl (.saveDeliveryStatus d.id r.status))
      (.error (.deliveryMissing d.id)) (.ended (.error (.deliveryMissing d.id))) m
  | saveSuccess {d e : Delivery} {r : SendReport} (h : m.delivery? d.id = some e)
      (hr : r.status = .success) :
    Turn j m (.recorded d r) (.inl (.saveDeliveryStatus d.id r.status)) (.ok ())
      (.succeeded d r) (m.setStatus d.id r.status)
  | save {d e : Delivery} {r : SendReport} (h : m.delivery? d.id = some e)
      (hr : r.status ≠ .success) :
    Turn j m (.recorded d r) (.inl (.saveDeliveryStatus d.id r.status)) (.ok ())
      (.ended (.ok (some r.status))) (m.setStatus d.id r.status)
  | clear {d : Delivery} {r : SendReport} :
    Turn j m (.succeeded d r) (.inl (.deleteDelivery d.id)) (.ok ())
      (.ended (.ok (some r.status))) (m.removeDelivery d.id)

variable {j : Job} {m m' : Memory}

/-- Every answered call of a job is one of the turns. -/
theorem turn_of_answer {stage : Stage} {mv : Move} {x : outside.Reply mv.call}
    (moves : stage.move? j = some mv) (answers : Answers m mv.call x m') :
    Turn j m stage mv.call x (mv.after x) m' := by
  cases stage with
  | start =>
    cases moves
    cases answers
    change Turn j m .start (.inl (.delivery j.deliveryId)) (.ok (m.delivery? j.deliveryId))
      ((Move.ask (.delivery j.deliveryId) _).after (.ok (m.delivery? j.deliveryId))) m
    cases h : m.delivery? j.deliveryId with
    | none => exact .absent h
    | some d => exact .load h
  | loaded d =>
    cases moves
    cases answers
    dsimp only [Move.ask, Memory.reply]
    split
    · rename_i h
      exact .untarget h
    · rename_i w h
      exact .target h
  | untargeted d =>
    cases moves
    cases answers
    cases h : m.delivery? d.id with
    | none =>
      rw [Memory.reply_saveStatus_lost h]
      exact .giveUpLost h
    | some e =>
      rw [Memory.reply_saveStatus h]
      exact .giveUp h
  | targeted d w =>
    cases moves
    cases answers
    change Turn j m (.targeted d w) (.inl (.payload d.payloadId)) (.ok (m.payload? d.payloadId))
      ((Move.ask (.payload d.payloadId) _).after (.ok (m.payload? d.payloadId))) m
    cases h : m.payload? d.payloadId with
    | none => exact .payloadLost h
    | some p => exact .prepare h
  | ready d w p =>
    cases moves
    cases answers
    exact .attempt
  | attempted d w p a =>
    cases moves
    cases answers
    exact .send _
  | answered d a r =>
    cases moves
    cases answers
    cases h : m.attempt? a.id with
    | none =>
      rw [Memory.reply_saveOutcome_lost (a := withReport a r) h]
      exact .recordLost h
    | some b =>
      rw [Memory.reply_saveOutcome (a := withReport a r) h]
      exact .record h
  | recorded d r =>
    cases moves
    cases answers
    cases h : m.delivery? d.id with
    | none =>
      rw [Memory.reply_saveStatus_lost h]
      exact .saveLost h
    | some e =>
      rw [Memory.reply_saveStatus h]
      change Turn j m (.recorded d r) (.inl (.saveDeliveryStatus d.id r.status)) (.ok ())
        (if r.status = .success then .succeeded d r else .ended (.ok (some r.status))) _
      split
      · rename_i hr
        exact .saveSuccess h hr
      · rename_i hr
        exact .save h hr
  | succeeded d r =>
    cases moves
    cases answers
    exact .clear
  | ended result => cases moves

end ShopRelay.Tracker
