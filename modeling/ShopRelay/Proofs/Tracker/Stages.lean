import ShopRelay.Tracker.Dispatch

/-!
The sending of a delivery as a walk through stages. A stage says which call comes next and to which
stage the reply leads; what is true at each stage is proved once, whoever answers the calls.
-/

namespace ShopRelay.Tracker

/-- A message by which a delivery is to be sent, with what is made up for its attempt. -/
structure Job where
  fresh : Fresh
  deliveryId : Uuid
  taskId : Option String

def Job.task (j : Job) : Task outside (Option DeliveryStatus) :=
  deliver j.fresh j.deliveryId j.taskId

/-- Where a job stands between two of its calls, with what it holds in its hands. -/
inductive Stage where
  | start
  | loaded (delivery : Delivery)
  | untargeted (delivery : Delivery)
  | targeted (delivery : Delivery) (webhook : Webhook)
  | ready (delivery : Delivery) (webhook : Webhook) (payload : Payload)
  | attempted (delivery : Delivery) (webhook : Webhook) (payload : Payload) (attempt : Attempt)
  | answered (delivery : Delivery) (attempt : Attempt) (report : SendReport)
  | recorded (delivery : Delivery) (report : SendReport)
  | succeeded (delivery : Delivery) (report : SendReport)
  | ended (result : Except Fault (Option DeliveryStatus))

/-- The next call, and the stage to which each reply leads. -/
structure Move where
  call : outside.Call
  after : outside.Reply call → Stage

/-- A call on the store, of which a fault ends the job. -/
def Move.ask (c : StoreCall) (after : c.Answer → Stage) : Move where
  call := .inl c
  after
    | .ok x => after x
    | .error e => .ended (.error e)

def Stage.move? (j : Job) : Stage → Option Move
  | .start => some <| .ask (.delivery j.deliveryId) fun
    | none => .ended (.ok none)
    | some d => .loaded d
  | .loaded d => some <| .ask (.webhook d.webhookId) fun w =>
    match w.filter (·.isActive) with
    | none => .untargeted d
    | some w => .targeted d w
  | .untargeted d => some <| .ask (.saveDeliveryStatus d.id .failed) fun _ =>
    .ended (.ok (some .failed))
  | .targeted d w => some <| .ask (.payload d.payloadId) fun
    | none => .ended (.error (.payloadMissing d.payloadId j.deliveryId))
    | some p => .ready d w p
  | .ready d w p => some <| .ask (.insertAttempt (newAttempt j.fresh d.id j.taskId)) fun a =>
    .attempted d w p a
  | .attempted d w p a => some ⟨.inr ⟨w, d.eventType, p⟩, fun r => .answered d a r⟩
  | .answered d a r => some <| .ask (.saveAttemptOutcome (withReport a r)) fun _ => .recorded d r
  | .recorded d r => some <| .ask (.saveDeliveryStatus d.id r.status) fun _ =>
    if r.status = .success then .succeeded d r else .ended (.ok (some r.status))
  | .succeeded d r => some <| .ask (.deleteDelivery d.id) fun _ => .ended (.ok (some r.status))
  | .ended _ => none

/-- What is left of a job's program at a stage. -/
inductive Follows (j : Job) : Task outside (Option DeliveryStatus) → Stage → Prop where
  | ended (result : Except Fault (Option DeliveryStatus)) :
    Follows j (Program.done result) (.ended result)
  | call {stage : Stage} {m : Move}
      {next : outside.Reply m.call → Task outside (Option DeliveryStatus)}
      (moves : stage.move? j = some m) (then_ : ∀ r, Follows j (next r) (m.after r)) :
    Follows j (Program.call m.call next) stage

variable {j : Job} {d : Delivery} {w : Webhook} {p : Payload} {a : Attempt} {r : SendReport}

theorem Follows.fail (e : Fault) : Follows j (Task.fail e) (.ended (.error e)) := .ended _

theorem Follows.step {t : Task outside (Option DeliveryStatus)} {stage : Stage} {m : Move}
    (next : outside.Reply m.call → Task outside (Option DeliveryStatus))
    (moves : stage.move? j = some m) (ht : t = Program.call m.call next)
    (then_ : ∀ r, Follows j (next r) (m.after r)) : Follows j t stage :=
  ht ▸ .call moves then_

theorem clearing_follows :
    Follows j (Task.left (clearIfSuccessful (withStatus d r.status) >>= fun _ =>
        pure (some r.status)))
      (if r.status = .success then .succeeded d r else .ended (.ok (some r.status))) := by
  unfold clearIfSuccessful
  by_cases hr : r.status = .success
  · rw [if_pos (show (withStatus d r.status).status = .success from hr), if_pos hr]
    refine .step _ rfl rfl fun x => ?_
    rcases x with e | _
    · exact .fail e
    · exact .ended _
  · rw [if_neg (show (withStatus d r.status).status ≠ .success from hr), if_neg hr]
    exact .ended _

theorem recordReport_follows :
    Follows j (Task.left (recordReport d a r)) (.answered d a r) := by
  refine .step _ rfl rfl fun x => ?_
  rcases x with e | _
  · exact .fail e
  refine .step _ rfl rfl fun x => ?_
  rcases x with e | _
  · exact .fail e
  exact clearing_follows

theorem attemptDelivery_follows :
    Follows j (attemptDelivery j.fresh d w p j.taskId) (.ready d w p) := by
  refine .step _ rfl rfl fun x => ?_
  rcases x with e | a
  · exact .fail e
  refine .step _ rfl rfl fun r => ?_
  exact recordReport_follows

theorem unsent_follows :
    Follows j (Task.left (updateDeliveryStatus d .failed) >>= fun _ => pure (some .failed))
      (.untargeted d) := by
  refine .step _ rfl rfl fun x => ?_
  rcases x with e | _
  · exact .fail e
  · exact .ended _

/-- The program of a job is exactly the walk through the stages. -/
theorem task_follows (j : Job) : Follows j j.task .start := by
  refine .step _ rfl rfl fun x => ?_
  rcases x with e | _ | d
  · exact .fail e
  · exact .ended _
  refine .step _ rfl rfl fun x => ?_
  -- An inactive webhook is as good as none.
  rcases x with e | _ | ⟨id, appId, name, url, key, _ | _, events⟩
  · exact .fail e
  · exact unsent_follows
  · exact unsent_follows
  change Follows j _ (.targeted d ⟨id, appId, name, url, key, true, events⟩)
  refine .step _ rfl rfl fun x => ?_
  rcases x with e | _ | p
  · exact .fail e
  · exact .ended _
  · exact attemptDelivery_follows

theorem Follows.ended_eq {result : Except Fault (Option DeliveryStatus)} {stage : Stage}
    (h : Follows j (Program.done result) stage) : stage = .ended result := by
  cases h
  rfl

/-- A program at a stage makes the call of the stage. -/
theorem Follows.moves {stage : Stage} {c : outside.Call}
    {next : outside.Reply c → Task outside (Option DeliveryStatus)}
    (h : Follows j (Program.call c next) stage) :
    ∃ after, stage.move? j = some ⟨c, after⟩ ∧ ∀ r, Follows j (next r) (after r) := by
  cases h with
  | call moves then_ => exact ⟨_, moves, then_⟩

/-- What holds at the first stage and is kept by each answered call holds at the end. -/
theorem Follows.ensures {σ : Type} {reply : (c : outside.Call) → σ → outside.Reply c × σ}
    {holds : Stage → σ → Prop}
    (kept : ∀ stage s m, holds stage s → stage.move? j = some m →
      holds (m.after (reply m.call s).1) (reply m.call s).2)
    {t : Task outside (Option DeliveryStatus)} {stage : Stage} (h : Follows j t stage) {s : σ}
    (hs : holds stage s) :
    holds (.ended (t.run reply s).1) (t.run reply s).2 := by
  induction h generalizing s with
  | ended result => exact hs
  | call moves then_ ih => exact ih _ (kept _ _ _ hs moves)

end ShopRelay.Tracker
