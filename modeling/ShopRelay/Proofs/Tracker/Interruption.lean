import ShopRelay.Proofs.Tracker.Effects

/-!
Deliveries that are cut short. Whatever the store, a delivery takes one of a few courses, and stops
at the first call that fails: what was done by then is the beginning of such a course, and nothing
is sent for which no pending attempt was stored before.
-/

namespace ShopRelay.Tracker

/-- What is done until all is there that is to be sent. -/
def prepared (j : Job) (d : Delivery) (w : Webhook) (p : Payload) : List Effect :=
  [.stored (.delivery j.deliveryId) (some d), .stored (.webhook d.webhookId) (some w),
    .stored (.payload d.payloadId) (some p)]

/-- What is done until a report has come back, with the attempt that the store returned. -/
def exchanged (j : Job) (d : Delivery) (w : Webhook) (p : Payload) (a : Attempt) (r : SendReport) :
    List Effect :=
  prepared j d w p ++ [.stored (.insertAttempt (newAttempt j.fresh d.id j.taskId)) a,
    .sent ⟨w, d.eventType, p⟩ r]

theorem exchanged_append (j : Job) (d : Delivery) (w : Webhook) (p : Payload) (a : Attempt)
    (r : SendReport) (rest : List Effect) :
    exchanged j d w p a r ++ rest =
      prepared j d w p ++ .stored (.insertAttempt (newAttempt j.fresh d.id j.taskId)) a ::
        .sent ⟨w, d.eventType, p⟩ r :: rest := by
  rw [exchanged, List.append_assoc]
  rfl

/-- What is done about a report. -/
def recording (d : Delivery) (a : Attempt) (r : SendReport) : List Effect :=
  [.stored (.saveAttemptOutcome (withReport a r)) (), .stored (.saveDeliveryStatus d.id r.status) ()]

/-- The courses that a delivery can take when no call fails, and their results. -/
inductive Course (j : Job) : List Effect → Except Fault (Option DeliveryStatus) → Prop where
  | absent : Course j [.stored (.delivery j.deliveryId) none] (.ok none)
  | givenUp {d : Delivery} {w : Option Webhook} (untargeted : w.filter (·.isActive) = none) :
    Course j [.stored (.delivery j.deliveryId) (some d), .stored (.webhook d.webhookId) w,
      .stored (.saveDeliveryStatus d.id .failed) ()] (.ok (some .failed))
  | payloadLost {d : Delivery} {w : Webhook} (active : w.isActive) :
    Course j [.stored (.delivery j.deliveryId) (some d), .stored (.webhook d.webhookId) (some w),
      .stored (.payload d.payloadId) none] (.error (.payloadMissing d.payloadId j.deliveryId))
  | unsuccessful {d : Delivery} {w : Webhook} {p : Payload} {a : Attempt} {r : SendReport}
      (active : w.isActive) (hr : r.status ≠ .success) :
    Course j (exchanged j d w p a r ++ recording d a r) (.ok (some r.status))
  | successful {d : Delivery} {w : Webhook} {p : Payload} {a : Attempt} {r : SendReport}
      (active : w.isActive) (hr : r.status = .success) :
    Course j (exchanged j d w p a r ++ recording d a r ++ [.stored (.deleteDelivery d.id) ()])
      (.ok (some r.status))

/-- Once something is sent, a course goes on with what is done about the report. -/
theorem Course.through {w : Webhook} (active : w.isActive) (j : Job) (d : Delivery) (p : Payload)
    (a : Attempt) (r : SendReport) :
    ∃ es result, Course j es result ∧ exchanged j d w p a r ++ recording d a r <+: es := by
  by_cases hr : r.status = .success
  · exact ⟨_, _, .successful active hr, List.prefix_append _ _⟩
  · exact ⟨_, _, .unsuccessful active hr, List.prefix_rfl⟩

/-- A course taken to its end, or to the first call that fails. -/
inductive Keeps (j : Job) : List Effect → Except Fault (Option DeliveryStatus) → Prop where
  | whole {es : List Effect} {result : Except Fault (Option DeliveryStatus)}
      (course : Course j es result) : Keeps j es result
  | stopped {es before : List Effect} {result : Except Fault (Option DeliveryStatus)}
      {c : StoreCall} {x : c.Answer} (course : Course j es result)
      (on : before ++ [.stored c x] <+: es) (f : Fault) :
    Keeps j (before ++ [.failed c f]) (.error f)

/-- What was done by the time a delivery is at a stage. -/
def Walked (j : Job) : Stage → List Effect → Prop
  | .start, es => es = []
  | .loaded d, es => es = [.stored (.delivery j.deliveryId) (some d)]
  | .untargeted d, es => ∃ w : Option Webhook, w.filter (·.isActive) = none ∧
    es = [.stored (.delivery j.deliveryId) (some d), .stored (.webhook d.webhookId) w]
  | .targeted d w, es => w.isActive ∧
    es = [.stored (.delivery j.deliveryId) (some d), .stored (.webhook d.webhookId) (some w)]
  | .ready d w p, es => w.isActive ∧ es = prepared j d w p
  | .attempted d w p a, es => w.isActive ∧
    es = prepared j d w p ++ [.stored (.insertAttempt (newAttempt j.fresh d.id j.taskId)) a]
  | .answered d a r, es => ∃ w p, w.isActive ∧ es = exchanged j d w p a r
  | .recorded d r, es => ∃ w p a, w.isActive ∧
    es = exchanged j d w p a r ++ [.stored (.saveAttemptOutcome (withReport a r)) ()]
  | .succeeded d r, es => ∃ w p a, w.isActive ∧ r.status = .success ∧
    es = exchanged j d w p a r ++ recording d a r
  | .ended result, es => Keeps j es result

variable {j : Job} {stage : Stage} {es : List Effect}

/-- A delivery of which a call of the store fails has kept to a course until then. -/
theorem Walked.stopped {c : StoreCall} {after : outside.Reply (.inl c) → Stage}
    (h : Walked j stage es) (moves : stage.move? j = some ⟨.inl c, after⟩) (f : Fault) :
    Keeps j (es ++ [.failed c f]) (.error f) := by
  cases stage with
  | start =>
    cases moves
    obtain rfl := h
    exact .stopped .absent List.prefix_rfl f
  | loaded d =>
    cases moves
    obtain rfl := h
    exact .stopped (.givenUp (d := d) (w := none) rfl) ⟨_, rfl⟩ f
  | untargeted d =>
    cases moves
    obtain ⟨w, hw, rfl⟩ := h
    exact .stopped (.givenUp hw) ⟨_, rfl⟩ f
  | targeted d w =>
    cases moves
    obtain ⟨active, rfl⟩ := h
    exact .stopped (.payloadLost active) ⟨_, rfl⟩ f
  | ready d w p =>
    cases moves
    obtain ⟨active, rfl⟩ := h
    let a := newAttempt j.fresh d.id j.taskId
    obtain ⟨es, result, course, on⟩ := Course.through active j d p a Trial.noReport
    exact .stopped course (.trans ⟨_, rfl⟩ on) f
  | attempted => cases moves
  | answered d a r =>
    cases moves
    obtain ⟨w, p, active, rfl⟩ := h
    obtain ⟨es, result, course, on⟩ := Course.through active j d p a r
    exact .stopped course (.trans ⟨_, rfl⟩ on) f
  | recorded d r =>
    cases moves
    obtain ⟨w, p, a, active, rfl⟩ := h
    obtain ⟨es, result, course, on⟩ := Course.through active j d p a r
    exact .stopped course (.trans ⟨_, rfl⟩ on) f
  | succeeded d r =>
    cases moves
    obtain ⟨w, p, a, active, hr, rfl⟩ := h
    exact .stopped (.successful active hr) ⟨_, rfl⟩ f
  | ended => cases moves

/-- One call of a delivery, whatever the reply. -/
theorem Walked.move {m : Move} (h : Walked j stage es) (moves : stage.move? j = some m)
    (x : outside.Reply m.call) : Walked j (m.after x) (es ++ [⟨m.call, x⟩]) := by
  obtain ⟨c | s, after⟩ := m
  · rcases x with f | x
    · dsimp only
      rw [Stage.after_error moves f]
      exact h.stopped moves f
    · cases stage with
      | start =>
        cases moves
        obtain rfl := h
        rcases x with _ | d
        · exact .whole .absent
        · exact rfl
      | loaded d =>
        cases moves
        obtain rfl := h
        rcases x with _ | ⟨id, appId, name, url, key, _ | _, events⟩
        · exact ⟨_, rfl, rfl⟩
        · exact ⟨_, rfl, rfl⟩
        · exact ⟨rfl, rfl⟩
      | untargeted d =>
        cases moves
        obtain ⟨w, hw, rfl⟩ := h
        exact .whole (.givenUp hw)
      | targeted d w =>
        cases moves
        obtain ⟨active, rfl⟩ := h
        rcases x with _ | p
        · exact .whole (.payloadLost active)
        · exact ⟨active, rfl⟩
      | ready d w p =>
        cases moves
        obtain ⟨active, rfl⟩ := h
        exact ⟨active, rfl⟩
      | attempted => cases moves
      | answered d a r =>
        cases moves
        obtain ⟨w, p, active, rfl⟩ := h
        exact ⟨w, p, a, active, rfl⟩
      | recorded d r =>
        cases moves
        obtain ⟨w, p, a, active, rfl⟩ := h
        change Walked j (if r.status = .success then .succeeded d r else .ended (.ok (some r.status))) _
        split
        · rename_i hr
          exact ⟨w, p, a, active, hr, rfl⟩
        · rename_i hr
          exact .whole (.unsuccessful active hr)
      | succeeded d r =>
        cases moves
        obtain ⟨w, p, a, active, hr, rfl⟩ := h
        exact .whole (.successful active hr)
      | ended => cases moves
  · cases stage with
    | attempted d w p a =>
      cases moves
      obtain ⟨active, rfl⟩ := h
      exact ⟨w, p, active, List.append_assoc ..⟩
    | _ => cases moves

/-- Every delivery, in any world, keeps to a course until a call fails. -/
theorem World.keeps {σ : Type} (w : World σ) (j : Job) (s : σ) :
    Keeps j (w.run j.task s).effects (w.run j.task s).result :=
  (task_follows j).accounts (fun stage es _ => Walked j stage es)
    (fun _ _ _ _ h moves => h.move moves _) rfl

section
variable {α : Type} {before first rest : List α} {e x : α}

/-- What stands behind a beginning without it stands behind all of that. -/
theorem beginning_before (h : before ++ [e] <+: first ++ rest) (he : e ∉ first) :
    first <+: before := by
  rcases List.prefix_or_prefix_of_prefix (List.prefix_append first rest) h with hfirst | hbefore
  · rcases List.prefix_concat_iff.mp hfirst with rfl | hfirst
    · exact absurd List.mem_concat_self he
    · exact hfirst
  · exact absurd (hbefore.mem List.mem_concat_self) he

theorem before_dropLast (h : before ++ [e] <+: first) : before <+: first.dropLast := by
  obtain ⟨after, rfl⟩ := h
  rw [List.append_assoc, List.dropLast_append_of_ne_nil (l := [e] ++ after) (List.cons_ne_nil _ _)]
  exact List.prefix_append _ _

/-- What stands before something, and is not behind it, is in the beginning up to it. -/
theorem before_beginning (h : before ++ [e] <+: first ++ x :: rest) (hx : x ∉ before) :
    before <+: first := by
  have hbefore : before <+: first ++ x :: rest := (List.prefix_append _ _).trans h
  have hfirst : first ++ [x] <+: first ++ x :: rest :=
    (List.prefix_append_right_inj first).mpr ⟨rest, rfl⟩
  rcases List.prefix_or_prefix_of_prefix hbefore hfirst with hbefore | hfirst
  · rcases List.prefix_concat_iff.mp hbefore with rfl | hbefore
    · exact absurd List.mem_concat_self hx
    · exact hbefore
  · exact absurd (hfirst.mem List.mem_concat_self) hx

end

/-- Calls that only look something up. -/
def StoreCall.reads : StoreCall → Bool
  | .payload _ | .webhooksForEvent _ | .webhook _ | .delivery _ | .attempts _ => true
  | _ => false

def Effect.reads : Effect → Bool
  | ⟨.inl c, _⟩ => c.reads
  | ⟨.inr _, _⟩ => false

variable {result : Except Fault (Option DeliveryStatus)} {before : List Effect} {e : Effect}

theorem Course.unfailing (h : Course j es result) : ∀ e ∈ es, e.fault? = none := by
  cases h <;> simp [exchanged, prepared, recording, Effect.stored, Effect.sent, Effect.fault?]

/-- A course asks the store alone, and may change it in the end, or sends something once all is
prepared for it. -/
theorem Course.sends (h : Course j es result) :
    (∀ e ∈ es, e.isStoreCall) ∧ (∀ e ∈ es.dropLast, e.reads) ∨
      ∃ d w p a r rest, es = exchanged j d w p a r ++ rest := by
  cases h with
  | absent | givenUp | payloadLost =>
    left
    simp [Effect.stored, Effect.isStoreCall, Effect.reads, StoreCall.reads]
  | unsuccessful => exact .inr ⟨_, _, _, _, _, _, rfl⟩
  | successful => exact .inr ⟨_, _, _, _, _, _, List.append_assoc ..⟩

theorem prepared_stored {d : Delivery} {w : Webhook} {p : Payload} :
    ∀ e ∈ prepared j d w p, e.isStoreCall := by
  simp [prepared, Effect.stored, Effect.isStoreCall]

theorem prepared_reads {d : Delivery} {w : Webhook} {p : Payload} :
    ∀ e ∈ prepared j d w p, e.reads := by
  simp [prepared, Effect.stored, Effect.reads, StoreCall.reads]

theorem not_mem_of_stored {x : Sending} {r : SendReport} (h : ∀ e ∈ es, e.isStoreCall) :
    Effect.sent x r ∉ es :=
  fun hsent => Bool.noConfusion (h _ hsent)

/-- Before something is sent, a pending attempt of the delivery has been stored. -/
theorem Course.writes_ahead {x : Sending} {r : SendReport} (h : Course j es result)
    (on : before ++ [.sent x r] <+: es) :
    ∃ d a, .stored (.delivery j.deliveryId) (some d) ∈ before ∧
      .stored (.insertAttempt (newAttempt j.fresh d.id j.taskId)) a ∈ before := by
  rcases h.sends with ⟨hstored, -⟩ | ⟨d, w, p, a, r', rest, rfl⟩
  · exact absurd (on.mem List.mem_concat_self) (not_mem_of_stored hstored)
  · let insertion := Effect.stored (.insertAttempt (newAttempt j.fresh d.id j.taskId)) a
    have hon : before ++ [.sent x r] <+:
        (prepared j d w p ++ [insertion]) ++ .sent ⟨w, d.eventType, p⟩ r' :: rest := by
      rwa [← List.append_cons, ← exchanged_append]
    have hstored : ∀ e ∈ prepared j d w p ++ [insertion], e.isStoreCall := by
      intro e he
      rcases List.mem_append.mp he with he | he
      · exact prepared_stored e he
      · rw [List.mem_singleton.mp he]
        rfl
    have hfirst : prepared j d w p ++ [insertion] <+: before :=
      beginning_before hon (not_mem_of_stored hstored)
    exact ⟨d, a, hfirst.mem List.mem_cons_self, hfirst.mem List.mem_concat_self⟩

/-- Until an attempt is stored, a course has looked things up and no more. -/
theorem Course.unwritten (h : Course j es result) (on : before ++ [e] <+: es)
    (none : ∀ b a, .stored (.insertAttempt b) a ∉ before) : ∀ e ∈ before, e.reads := by
  rcases h.sends with ⟨-, hreads⟩ | ⟨d, w, p, a, r', rest, rfl⟩
  · exact fun e he => hreads e ((before_dropLast on).mem he)
  · have hfirst : before <+: prepared j d w p :=
      before_beginning (exchanged_append j d w p a r' rest ▸ on) (none _ a)
    exact fun e he => prepared_reads e (hfirst.mem he)

/-- What a delivery has done before one of its calls is the beginning of a course. -/
theorem Keeps.on_course (h : Keeps j es result) (on : before ++ [e] <+: es) :
    ∃ es' result' e', Course j es' result' ∧ before ++ [e'] <+: es' ∧
      (e' = e ∨ ∃ c f, e = .failed c f ∧ es = before ++ [e] ∧ result = .error f) := by
  cases h with
  | whole course => exact ⟨_, _, e, course, on, .inl rfl⟩
  | @stopped es' before' result' c x course on' f =>
    rcases List.prefix_concat_iff.mp on with he | hbefore
    · obtain ⟨rfl, hlast⟩ := List.append_inj' he rfl
      obtain rfl := List.singleton_inj.mp hlast
      exact ⟨_, _, _, course, on', .inr ⟨c, f, rfl, rfl, rfl⟩⟩
    · have hlonger : before ++ [e] <+: es' :=
        hbefore.trans ((List.prefix_append _ _).trans on')
      exact ⟨_, _, e, course, hlonger, .inl rfl⟩

theorem Keeps.stops {c : StoreCall} {f : Fault} (h : Keeps j es result)
    (on : before ++ [.failed c f] <+: es) : es = before ++ [.failed c f] ∧ result = .error f := by
  obtain ⟨es', result', e', course, on', rfl | ⟨c', f', he, hes, hresult⟩⟩ := h.on_course on
  · cases course.unfailing _ (on'.mem List.mem_concat_self)
  · have hf : some f = some f' := congrArg Effect.fault? he
    exact ⟨hes, Option.some.inj hf ▸ hresult⟩

theorem Keeps.writes_ahead {x : Sending} {r : SendReport} (h : Keeps j es result)
    (on : before ++ [.sent x r] <+: es) :
    ∃ d a, .stored (.delivery j.deliveryId) (some d) ∈ before ∧
      .stored (.insertAttempt (newAttempt j.fresh d.id j.taskId)) a ∈ before := by
  obtain ⟨es', result', e', course, on', rfl | ⟨c, f, he, -⟩⟩ := h.on_course on
  · exact course.writes_ahead on'
  · cases congrArg Effect.isStoreCall he

theorem Keeps.unwritten (h : Keeps j es result) (on : before ++ [e] <+: es)
    (none : ∀ b a, .stored (.insertAttempt b) a ∉ before) : ∀ e ∈ before, e.reads := by
  obtain ⟨es', result', e', course, on', -⟩ := h.on_course on
  exact course.unwritten on' none

/-- A run in which a call of the store fails, beside the run in which it does not. Where the run does
not come to that call, it is the same; else it ends there with the fault, and the state is what the
effects before have made of it. -/
inductive Interrupts {σ α : Type} (w : World σ) (s : σ) (k : Nat) (f : Fault) (run : Run σ α) :
    Run σ α → Prop where
  | late (few : run.effects.countP Effect.isStoreCall ≤ k) : Interrupts w s k f run run
  | stopped {before : List Effect} {c : StoreCall} {x : Except Fault c.Answer}
      (on : before ++ [⟨.inl c, x⟩] <+: run.effects)
      (calls : before.countP Effect.isStoreCall = k) :
    Interrupts w s k f run ⟨.error f, before ++ [.failed c f], w.perform before s⟩

section
variable {σ : Type} {w : World σ} {s : σ} {k : Nat} {f : Fault}

theorem Interrupts.cons {α : Type} {run run' : Run σ α} {e : Effect}
    (h : Interrupts w (w.reply e.call s).2 k f run run') :
    Interrupts w s (k + if e.isStoreCall then 1 else 0) f (run.cons e) (run'.cons e) := by
  cases h with
  | late few =>
    refine .late ?_
    change (e :: run.effects).countP _ ≤ _
    rw [List.countP_cons]
    exact Nat.add_le_add_right few _
  | @stopped before c x on calls =>
    have hon : (e :: before) ++ [⟨.inl c, x⟩] <+: (run.cons e).effects :=
      List.cons_prefix_cons.mpr ⟨rfl, on⟩
    refine .stopped hon ?_
    rw [List.countP_cons, calls]

/-- A failing call interrupts what is left of a delivery at any stage. -/
theorem Follows.interrupts {t : Task outside (Option DeliveryStatus)} (h : Follows j t stage)
    (k : Nat) (s : σ) : Interrupts w s k f (w.run t s) (w.cut k f t s) := by
  induction h generalizing k s with
  | ended result => exact .late (Nat.zero_le k)
  | @call stage m next moves then_ ih =>
    obtain ⟨c | x, after⟩ := m
    · cases k with
      | zero =>
        have hend : next (.error f) = Program.done (.error f) := by
          have hnext : Follows j (next (.error f)) (after (.error f)) := then_ _
          rw [Stage.after_error moves f] at hnext
          exact hnext.done
        have hcut : w.cut 0 f (Program.call (.inl c) next) s = ⟨.error f, [.failed c f], s⟩ := by
          let rest := w.faltering.run (next (.error f)) (s, [])
          change (⟨rest.result, .failed c f :: rest.effects, rest.state.1⟩ : Run σ _) = _
          have hrest : rest = ⟨.error f, [], (s, [])⟩ := by
            change w.faltering.run (next (.error f)) (s, []) = _
            rw [hend]
            rfl
          rw [hrest]
        have hon : [] ++ [⟨.inl c, (w.store c s).1⟩] <+:
            (w.run (Program.call (.inl c) next) s).effects := ⟨_, rfl⟩
        rw [hcut]
        exact .stopped hon rfl
      | succ k => exact Interrupts.cons (e := ⟨.inl c, (w.store c s).1⟩) (ih _ k _)
    · exact Interrupts.cons (e := ⟨.inr x, (w.target x s).1⟩) (ih _ k _)

end

/-- A store whose content does not change when something is looked up. -/
def World.Steady {σ : Type} (w : World σ) : Prop :=
  ∀ (c : StoreCall) (s : σ), c.reads → (w.store c s).2 = s

theorem World.perform_reads {σ : Type} {w : World σ} (steady : w.Steady)
    (h : ∀ e ∈ es, e.reads) (s : σ) : w.perform es s = s := by
  induction es generalizing s with
  | nil => rfl
  | cons e es ih =>
    have hstays : (w.reply e.call s).2 = s := by
      have he := h e List.mem_cons_self
      obtain ⟨c | x, y⟩ := e
      · exact steady c s he
      · cases he
    change w.perform es (w.reply e.call s).2 = s
    rw [hstays]
    exact ih (fun e he => h e (List.mem_cons_of_mem _ he)) s

/-- A delivery does what one of its courses says until a call of the store fails, and that is the
end of it. Nothing is sent before a pending attempt is stored, and if that fails, or a call before
it, the store is as it was. -/
theorem delivery_stops_at_failure {σ : Type} (w : World σ) (j : Job) (s : σ) :
    let run := w.run j.task s
    Keeps j run.effects run.result ∧
    (∀ before c f, before ++ [.failed c f] <+: run.effects →
      run.effects = before ++ [.failed c f] ∧ run.result = .error f) ∧
    (∀ before x r, before ++ [.sent x r] <+: run.effects →
      ∃ (d : Delivery) (a b : Attempt), .stored (.delivery j.deliveryId) (some d) ∈ before ∧
        .stored (.insertAttempt a) b ∈ before ∧ a.deliveryId = some d.id ∧ a.status = .pending) ∧
    ∀ k f, let cut := w.cut k f j.task s
      Interrupts w s k f run cut ∧
      (w.Steady → k < run.effects.countP Effect.isStoreCall →
        cut.effects.flatMap Effect.inserted = [] → cut.state = s) := by
  intro run
  have hkeeps : Keeps j run.effects run.result := w.keeps j s
  refine ⟨hkeeps, fun before c f on => hkeeps.stops on, fun before x r on => ?_, fun k f => ?_⟩
  · obtain ⟨d, b, hd, hb⟩ := hkeeps.writes_ahead on
    exact ⟨d, _, b, hd, hb, rfl, rfl⟩
  · have hcut : Interrupts w s k f run (w.cut k f j.task s) := (task_follows j).interrupts k s
    refine ⟨hcut, fun steady early none => ?_⟩
    generalize w.cut k f j.task s = cut at hcut none
    cases hcut with
    | late few => exact absurd early (Nat.not_lt.mpr few)
    | @stopped before c x on calls =>
      have hnone : ∀ a b, .stored (.insertAttempt a) b ∉ before := by
        intro a b hab
        have hinserted := List.flatMap_eq_nil_iff.mp none _ (List.mem_append_left _ hab)
        cases hinserted
      exact World.perform_reads steady (hkeeps.unwritten on hnone) s

/-- The world that has its store in memory, and in which all targets answer the same. -/
def Memory.world (r : SendReport) : World Memory := ⟨Memory.reply, fun _ m => (r, m)⟩

theorem Memory.world_steady (r : SendReport) : (Memory.world r).Steady := by
  intro c m h
  cases c with
  | payload | webhooksForEvent | webhook | delivery | attempts => rfl
  | _ => cases h

open Sample

theorem delivery_stops_at_failure_insert :
    let j : Job := ⟨fresh 5, .ofNat 3, none⟩
    let cut := (Memory.world (report .success)).cut 3 .saveFailed j.task memory
    cut.result = .error .saveFailed ∧ cut.state = memory := by
  intro j cut
  obtain ⟨-, -, -, hcut⟩ := delivery_stops_at_failure (Memory.world (report .success)) j memory
  exact ⟨rfl, (hcut 3 .saveFailed).2 (Memory.world_steady _) (by decide) rfl⟩

end ShopRelay.Tracker
