import ShopRelay.Proofs.Tracker.Delivering

/-!
Jobs as a trial runs them, with and without failing calls of the store. Failures cut a job short at
one of the stages that it passes when nothing fails.
-/

namespace ShopRelay.Tracker

/-- A fault ends the job, whichever call it answers. -/
theorem Stage.after_error {j : Job} {stage : Stage} {c : StoreCall}
    {after : outside.Reply (.inl c) → Stage} (moves : stage.move? j = some ⟨.inl c, after⟩)
    (f : Fault) : after (.error f) = .ended (.error f) := by
  cases stage <;> cases moves <;> rfl

/-- Answers calls of which some fail. Each entry of the schedule stands for one call: a fault makes
it fail without effect; calls after the last entry do not fail. -/
def faltering {Call : Type} {Answer : Call → Type} {σ : Type}
    (reply : (c : Call) → σ → Except Fault (Answer c) × σ) (c : Call) :
    σ × List (Option Fault) → Except Fault (Answer c) × (σ × List (Option Fault))
  | (s, some f :: rest) => (.error f, (s, rest))
  | (s, none :: rest) => ((reply c s).1, ((reply c s).2, rest))
  | (s, []) => ((reply c s).1, ((reply c s).2, []))

namespace Trial

variable {α : Type} {t s : Trial} {j : Job} {es : List Exchange}

/-- Answers the calls of a trial of which some fail. -/
def replyFaltering : (c : outside.Call) → Trial × List (Option Fault) →
    outside.Reply c × (Trial × List (Option Fault)) :=
  Interface.sumReply (I := storage) (J := sender) (faltering replyStore) fun x (t, faults) =>
    ((t.replySending x).1, ((t.replySending x).2, faults))

/-- A run in which the calls of the store fail as the schedule says. -/
def runFaltering (faults : List (Option Fault)) (t : Trial) (task : Task outside α) :
    Except Fault α × Trial :=
  ((task.run replyFaltering (t, faults)).1, (task.run replyFaltering (t, faults)).2.1)

theorem run_replyFaltering_nil (task : Task outside α) (t : Trial) :
    task.run replyFaltering (t, []) = ((t.run task).1, ((t.run task).2, [])) := by
  induction task generalizing t with
  | done x => rfl
  | call c next ih =>
    rcases c with c | x
    · exact ih _ _
    · exact ih _ _

theorem runFaltering_nil (t : Trial) (task : Task outside α) :
    t.runFaltering [] task = t.run task := by
  unfold runFaltering
  rw [run_replyFaltering_nil]

theorem replyStore_ready (ready : t.refused = []) (c : StoreCall) :
    t.replyStore c = ((Memory.reply c t.memory).1,
      { t with memory := (Memory.reply c t.memory).2, calls := t.calls ++ [c.name] }) := by
  simp [replyStore, Memory.replyUnless, ready]

/-- A call of the store fails without effect, or is answered as the memory says. -/
theorem replyFaltering_cases (ready : t.refused = []) (c : StoreCall)
    (faults : List (Option Fault)) :
    (∃ f rest, faults ≠ [] ∧ replyFaltering (.inl c) (t, faults) = (.error f, (t, rest))) ∨
      ∃ rest, (rest ≠ [] → faults ≠ []) ∧
        replyFaltering (.inl c) (t, faults) = ((Memory.reply c t.memory).1, ({ t with
          memory := (Memory.reply c t.memory).2
          calls := t.calls ++ [c.name] }, rest)) := by
  have hreply := replyStore_ready ready c
  match faults with
  | some f :: rest => exact .inl ⟨f, rest, List.cons_ne_nil _ _, rfl⟩
  | none :: rest =>
    refine .inr ⟨rest, fun _ => List.cons_ne_nil _ _, ?_⟩
    change ((t.replyStore c).1, ((t.replyStore c).2, rest)) = _
    rw [hreply]
  | [] =>
    refine .inr ⟨[], id, ?_⟩
    change ((t.replyStore c).1, ((t.replyStore c).2, [])) = _
    rw [hreply]

/-- The trial after an exchange with the targets: what was sent is logged, and the target answers as
before. -/
structure After (t : Trial) (es : List Exchange) (s : Trial) : Prop where
  sent : s.sent = t.sent ++ es.map Prod.fst
  report : s.report = t.report
  reports : ∀ e ∈ es, e.2 = t.report
  ready : s.refused = []

theorem After.eq (h : After t es s) :
    s = ⟨s.memory, [], t.report, s.calls, t.sent ++ es.map Prod.fst⟩ := by
  rw [← h.sent, ← h.report, ← h.ready]

theorem After.start (ready : t.refused = []) : After t [] t :=
  ⟨by simp, rfl, by simp, ready⟩

theorem After.stored (h : After t es s) (c : StoreCall) :
    After t es { s with
      memory := (Memory.reply c s.memory).2
      calls := s.calls ++ [c.name] } :=
  ⟨h.sent, h.report, h.reports, h.ready⟩

theorem After.sending (h : After t es s) (x : Sending) :
    After t (es ++ [(x, s.report)]) (s.replySending x).2 := by
  refine ⟨?_, h.report, ?_, h.ready⟩
  · simp [replySending, h.sent]
  · intro e he
    rcases List.mem_append.mp he with he | he
    · exact h.reports e he
    · rw [List.mem_singleton.mp he]
      exact h.report

/-- How a job whose calls may fail stands: at a stage to which nothing failed, or at its end because
a call failed at such a stage. -/
inductive Standing (t : Trial) (j : Job) (faults : List (Option Fault)) :
    Stage → Trial × List (Option Fault) → Prop where
  | going {stage : Stage} {es : List Exchange} {s : Trial} {rest : List (Option Fault)}
      (left : rest ≠ [] → faults ≠ []) (progress : Progress t.memory j stage es s.memory)
      (after : After t es s) : Standing t j faults stage (s, rest)
  | failed {stage : Stage} {es : List Exchange} {s : Trial}
      {rest : List (Option Fault)} (f : Fault) (scheduled : faults ≠ [])
      (progress : Progress t.memory j stage es s.memory) (after : After t es s) :
    Standing t j faults (.ended (.error f)) (s, rest)

theorem Standing.move {faults : List (Option Fault)} {stage : Stage}
    {s : Trial × List (Option Fault)} {m : Move} (h : Standing t j faults stage s)
    (moves : stage.move? j = some m) :
    Standing t j faults (m.after (replyFaltering m.call s).1) (replyFaltering m.call s).2 := by
  cases h with
  | failed f scheduled progress after => cases moves
  | @going stage es s rest left progress after =>
    rcases m with ⟨c | x, next⟩
    · rcases replyFaltering_cases after.ready c rest with ⟨f, rest', hne, he⟩ | ⟨rest', hne, he⟩
      · rw [he]
        dsimp only
        -- The job stays where it was: it ends without another call.
        rw [Stage.after_error moves f]
        exact .failed f (left hne) progress after
      · rw [he]
        have hp := progress.turn (turn_of_answer moves (.stored c))
        rw [exchange, List.append_nil] at hp
        exact .going (left ∘ hne) hp (after.stored c)
    · have hp := progress.turn (turn_of_answer moves (.sent x s.report))
      exact .going left hp (after.sending x)

/-- A job whose calls may fail has stopped at one of the stages it passes when none fails. -/
theorem run_standing (ready : t.refused = []) (j : Job) (faults : List (Option Fault)) :
    ∃ rest, Standing t j faults (.ended (t.runFaltering faults j.task).1)
      ((t.runFaltering faults j.task).2, rest) :=
  ⟨_, (task_follows j).ensures (fun _ _ _ h moves => h.move moves)
    (.going id ⟨rfl, rfl⟩ (.start ready))⟩

/-- A job of which no call fails goes through all its stages. -/
theorem run_delivers (ready : t.refused = []) (j : Job) :
    ∃ es, Delivers t.memory j (t.run j.task).1 es (t.run j.task).2.memory ∧
      After t es (t.run j.task).2 := by
  obtain ⟨rest, h⟩ := run_standing ready j []
  rw [runFaltering_nil] at h
  generalize t.run j.task = run at h ⊢
  obtain ⟨result, s⟩ := run
  cases h with
  | going left progress after => exact ⟨_, progress, after⟩
  | failed f scheduled => exact absurd rfl scheduled

theorem run_deliver (m : Memory) (report : SendReport) (calls : List String) (sent : List Sending)
    (fresh : Fresh) (id : Uuid) (taskId : Option String) :
    ∃ result m' calls' es,
      (Trial.mk m [] report calls sent).run (deliver fresh id taskId) =
        (result, ⟨m', [], report, calls', sent ++ es.map Prod.fst⟩) ∧
      Delivers m ⟨fresh, id, taskId⟩ result es m' ∧ ∀ e ∈ es, e.2 = report := by
  obtain ⟨es, h, after⟩ := run_delivers (t := ⟨m, [], report, calls, sent⟩) rfl ⟨fresh, id, taskId⟩
  exact ⟨_, _, _, es, Prod.ext rfl after.eq, h, after.reports⟩

end Trial

/-- The whole effect of one call of `deliver` on a memory that does not fail. -/
theorem deliver_outcome (m : Memory) (report : SendReport) (calls : List String)
    (sent : List Sending) (fresh : Fresh) (id : Uuid) (taskId : Option String)
    (unused : ∀ a ∈ m.attempts, a.id ≠ fresh.attemptId) :
    ∃ result m' calls' sends,
      (Trial.mk m [] report calls sent).run (deliver fresh id taskId) =
        (result, ⟨m', [], report, calls', sent ++ sends⟩) ∧
      m'.payloads = m.payloads ∧ m'.webhooks = m.webhooks ∧
      (∀ other, other ≠ id → m'.delivery? other = m.delivery? other) ∧
      match m.delivery? id with
      | none => result = .ok none ∧ sends = [] ∧ m' = m
      | some d =>
        match m.target? d, m.payload? d.payloadId with
        | none, _ =>
          result = .ok (some .failed) ∧ sends = [] ∧ m'.attempts = m.attempts ∧
            m'.delivery? id = some { d with status := .failed }
        | some _, none =>
          result = .error (.payloadMissing d.payloadId id) ∧ sends = [] ∧ m' = m
        | some w, some p =>
          result = .ok (some report.status) ∧ sends = [⟨w, d.eventType, p⟩] ∧
            if report.status = .success then
              m'.delivery? id = none ∧
                m'.attempts = m.attempts.map (Memory.unlink id) ++
                  [answeredAttempt fresh none taskId report]
            else
              m'.delivery? id = some { d with status := report.status } ∧
                m'.attempts = m.attempts ++ [answeredAttempt fresh (some id) taskId report] := by
  obtain ⟨result, m', calls', es, hrun, h, reports⟩ :=
    Trial.run_deliver m report calls sent fresh id taskId
  refine ⟨result, m', calls', es.map Prod.fst, hrun, ?_⟩
  clear hrun
  cases h with
  | absent h =>
    rw [h]
    exact ⟨rfl, rfl, fun _ _ => rfl, rfl, rfl, rfl⟩
  | givenUp h ht =>
    rw [h]
    dsimp only
    rw [ht]
    exact ⟨rfl, rfl, fun _ hne => Memory.delivery_setStatus_other m hne, rfl, rfl, rfl,
      Memory.delivery_setStatus_self m h⟩
  | payloadLost h ht hp =>
    rw [h]
    dsimp only
    rw [ht, hp]
    exact ⟨rfl, rfl, fun _ _ => rfl, rfl, rfl, rfl⟩
  | @sent d w p h ht hp r =>
    obtain rfl : r = report := reports _ List.mem_cons_self
    refine ⟨Memory.settled_payloads, Memory.settled_webhooks,
      fun _ hne => Memory.delivery_settled_other hne, ?_⟩
    rw [h]
    dsimp only
    rw [ht, hp]
    refine ⟨rfl, rfl, ?_⟩
    split
    · rename_i hr
      exact ⟨Memory.delivery_settled_success hr, Memory.attempts_settled_success unused hr⟩
    · rename_i hr
      rw [Memory.settled, if_neg hr]
      exact ⟨Memory.delivery_recorded h, Memory.attempts_recorded unused⟩

namespace Sample

def hook : Webhook :=
  ⟨.ofNat 1, 1, "erp", "https://erp.example.com/hook", none, true, ["order_created"]⟩

def order : Payload := ⟨.ofNat 2, "null", .epoch⟩

def delivery (status : DeliveryStatus) : Delivery :=
  ⟨.ofNat 3, status, "order_created", order.id, hook.id, .epoch⟩

def fresh (n : Nat) : Fresh :=
  ⟨.ofNat n, .epoch, fun i => .ofNat (n + 1 + i), .epoch, .ofNat n, .epoch⟩

def report (status : DeliveryStatus) : SendReport := { Trial.noReport with status }

/-- A delivery that was sent in vain before. -/
def memory : Memory :=
  ⟨[order], [hook], [delivery .failed],
    [answeredAttempt (fresh 4) (some (.ofNat 3)) none (report .failed)]⟩

end Sample

open Sample

theorem deliver_outcome_cleared :
    ∃ m' calls',
      (Trial.mk memory [] (report .success) [] []).run (deliver (fresh 5) (.ofNat 3) none) =
        (.ok (some .success), ⟨m', [], report .success, calls', [⟨hook, "order_created", order⟩]⟩) ∧
      m'.delivery? (.ofNat 3) = none ∧
      m'.attempts = [answeredAttempt (fresh 4) none none (report .failed),
        answeredAttempt (fresh 5) none none (report .success)] := by
  obtain ⟨result, m', calls', sends, hrun, -, -, -, hresult, hsends, hd, ha⟩ :=
    deliver_outcome memory (report .success) [] [] (fresh 5) (.ofNat 3) none (by decide)
  subst hresult hsends
  exact ⟨m', calls', hrun, hd, ha⟩

end ShopRelay.Tracker
