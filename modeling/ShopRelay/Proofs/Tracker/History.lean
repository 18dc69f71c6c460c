import ShopRelay.Proofs.Tracker.Duties

/-!
Attempts are history: whatever a crew does in whatever order, attempts stay where they are, their
reference can only be cleared, and their outcome is written once, by the worker that made them.
-/

namespace ShopRelay

/-- What is recorded of the answer to an attempt. -/
structure Outcome where
  duration : Option Number.Binary
  response : Option String
  requestHeaders : Option String
  responseHeaders : Option String
  status : DeliveryStatus

namespace Outcome

def unanswered : Outcome := ⟨none, none, none, none, .pending⟩

def ofReport (r : SendReport) : Outcome :=
  ⟨some r.duration, some (Excerpt.codec.print r.content), some (headersCodec.print r.requestHeaders),
    some (headersCodec.print r.responseHeaders), r.status⟩

end Outcome

def Attempt.outcome (a : Attempt) : Outcome :=
  ⟨a.duration, a.response, a.requestHeaders, a.responseHeaders, a.status⟩

namespace Tracker

/-- What a call can do to an attempt that is stored. -/
inductive Alters (a : Attempt) : outside.Call → Attempt → Prop where
  | kept (c : outside.Call) : Alters a c a
  | unlinked {id : Uuid} (h : a.deliveryId = some id) :
    Alters a (.inl (.deleteDelivery id)) { a with deliveryId := none }
  | recorded {b : Attempt} (h : b.id = a.id) :
    Alters a (.inl (.saveAttemptOutcome b)) (Memory.takeOutcome a b)

namespace Memory

variable {m m' : Memory} {a b : Attempt} {id : Uuid}

theorem updateFirst_getElem {as : List Attempt} {k : Nat} (ha : as[k]? = some a) :
    ∃ a', (updateFirst b as)[k]? = some a' ∧ Alters a (.inl (.saveAttemptOutcome b)) a' := by
  induction as generalizing k with
  | nil => cases ha
  | cons x xs ih =>
    unfold updateFirst
    split
    · rename_i hx
      cases k with
      | zero =>
        obtain rfl := Option.some.inj ha
        exact ⟨_, rfl, .recorded hx.symm⟩
      | succ k => exact ⟨a, ha, .kept _⟩
    · cases k with
      | zero => exact ⟨a, ha, .kept _⟩
      | succ k => exact ih ha

/-- Each attempt is where it was after any call, and is altered in one of three ways. -/
theorem alters_reply (c : StoreCall) {k : Nat} (ha : m.attempts[k]? = some a) :
    ∃ a', (reply c m).2.attempts[k]? = some a' ∧ Alters a (.inl c) a' := by
  have hlt : k < m.attempts.length := (List.getElem?_eq_some_iff.mp ha).1
  cases c with
  | insertAttempt b =>
    refine ⟨a, ?_, .kept _⟩
    exact (List.getElem?_append_left hlt).trans ha
  | deleteDelivery id =>
    refine ⟨unlink id a, ?_, ?_⟩
    · change (m.attempts.map (unlink id))[k]? = _
      rw [List.getElem?_map, ha]
      rfl
    · unfold unlink
      split
      · rename_i h
        exact .unlinked h
      · exact .kept _
  | saveAttemptOutcome b =>
    cases h : m.attempt? b.id with
    | none =>
      rw [reply_saveOutcome_lost h]
      exact ⟨a, ha, .kept _⟩
    | some c =>
      rw [reply_saveOutcome h]
      exact updateFirst_getElem ha
  | saveDeliveryStatus id status =>
    cases h : m.delivery? id with
    | none =>
      rw [reply_saveStatus_lost h]
      exact ⟨a, ha, .kept _⟩
    | some d =>
      rw [reply_saveStatus h]
      exact ⟨a, ha, .kept _⟩
  | insertEvent p ds =>
    rcases reply_insertEvent (m := m) p ds with h | h
    · rw [h]
      exact ⟨a, ha, .kept _⟩
    · rw [h]
      exact ⟨a, ha, .kept _⟩
  | _ => exact ⟨a, ha, .kept _⟩

end Memory

theorem Answers.alters {m m' : Memory} {c : outside.Call} {x : outside.Reply c} {k : Nat}
    {a : Attempt} (h : Answers m c x m') (ha : m.attempts[k]? = some a) :
    ∃ a', m'.attempts[k]? = some a' ∧ Alters a c a' := by
  cases h with
  | stored c => exact Memory.alters_reply c ha
  | sent => exact ⟨a, ha, .kept _⟩

namespace Memory

variable {m m' : Memory} {a b : Attempt} {id : Uuid}

/-- No attempt with the id has come, and none has another outcome. -/
def Spares (id : Uuid) (m m' : Memory) : Prop :=
  ∀ a ∈ m'.attempts, a.id = id → ∃ b ∈ m.attempts, b.id = id ∧ b.outcome = a.outcome

theorem spares_same (h : m'.attempts = m.attempts) : Spares id m m' := by
  intro a ha hid
  rw [h] at ha
  exact ⟨a, ha, hid, rfl⟩

theorem spares_addAttempt (h : a.id ≠ id) : Spares id m (m.addAttempt a) := by
  intro b hb hid
  rcases List.mem_append.mp hb with hb | hb
  · exact ⟨b, hb, hid, rfl⟩
  · rw [List.mem_singleton.mp hb] at hid
    exact absurd hid h

theorem spares_removeDelivery (other : Uuid) : Spares id m (m.removeDelivery other) := by
  intro a ha hid
  rw [attempts_removeDelivery] at ha
  obtain ⟨b, hb, rfl⟩ := List.mem_map.mp ha
  refine ⟨b, hb, (unlink_id b).symm.trans hid, ?_⟩
  unfold unlink
  split <;> rfl

theorem spares_saveOutcome (h : a.id ≠ id) : Spares id m (m.saveOutcome a) := by
  intro b hb hid
  rcases mem_updateFirst hb with hb | ⟨c, hc, hca, rfl⟩
  · exact ⟨b, hb, hid, rfl⟩
  · exact absurd (hca.symm.trans hid) h

theorem Spares.absent (h : Spares id m m') (hm : ∀ a ∈ m.attempts, a.id ≠ id) :
    ∀ a ∈ m'.attempts, a.id ≠ id := by
  intro a ha hid
  obtain ⟨b, hb, hbid, -⟩ := h a ha hid
  exact hm b hb hbid

/-- Nothing is known yet of the answer to the attempt. -/
def Unanswered (m : Memory) (id : Uuid) : Prop :=
  ∀ a ∈ m.attempts, a.id = id → a.outcome = .unanswered

theorem Spares.unanswered (h : Spares id m m') (hm : m.Unanswered id) : m'.Unanswered id := by
  intro a ha hid
  obtain ⟨b, hb, hbid, houtcome⟩ := h a ha hid
  rw [← houtcome]
  exact hm b hb hbid

end Memory

theorem Announces.attempts {m m' : Memory} {c : outside.Call} {x : outside.Reply c}
    (h : Announces m c x m') : m'.attempts = m.attempts := by
  cases h with
  | look => rfl
  | store p ds =>
    rcases Memory.reply_insertEvent (m := m) p ds with h | h
    · rw [h]
    · rw [h]
      rfl

/-- The attempts that were stored. -/
def Event.inserted : Event → List Attempt
  | ⟨_, .inl (.insertAttempt a), .ok _⟩ => [a]
  | _ => []

def Event.exchanged (e : Event) : List Exchange := exchange e.call e.reply

/-- What the events of one worker come to. -/
def byWorker {α : Type} (f : Event → List α) (i : Nat) (log : List Event) : List α :=
  (log.filter (·.worker = i)).flatMap f

section
variable {α : Type} (f : Event → List α) {i k : Nat} (log : List Event) (c : outside.Call)
  (x : outside.Reply c)

theorem byWorker_own : byWorker f i (log ++ [⟨i, c, x⟩]) = byWorker f i log ++ f ⟨i, c, x⟩ := by
  simp [byWorker]

theorem byWorker_other (h : k ≠ i) : byWorker f i (log ++ [⟨k, c, x⟩]) = byWorker f i log := by
  simp [byWorker, h]

end

/-- What a worker has to show for its attempt: nobody has it before the worker stores it, and until
the worker saves the answer that it got, the attempt is unanswered. -/
def authorship : Charge := fun m log i j stage =>
  let inserted := byWorker Event.inserted i log
  let exchanged := byWorker Event.exchanged i log
  match stage with
  | .attempted _ _ _ a =>
    a.id = j.fresh.attemptId ∧ m.Unanswered a.id ∧ inserted = [a] ∧ exchanged = []
  | .answered _ a r =>
    a.id = j.fresh.attemptId ∧ m.Unanswered a.id ∧ inserted = [a] ∧ ∃ s, exchanged = [(s, r)]
  | .recorded .. => True
  | .succeeded .. => True
  | .ended _ => True
  | _ => (∀ a ∈ m.attempts, a.id ≠ j.fresh.attemptId) ∧ inserted = [] ∧ exchanged = []

variable {m m' : Memory} {log : List Event} {i k : Nat} {j j' : Job} {stage stage' : Stage}
  {c : outside.Call} {x : outside.Reply c}

theorem authorship_own (h : authorship m log i j stage) (ht : Turn j m stage c x stage' m') :
    authorship m' (log ++ [⟨i, c, x⟩]) i j stage' := by
  unfold authorship at h ⊢
  rw [byWorker_own, byWorker_own]
  cases ht with
  | load | untarget | target | prepare =>
    obtain ⟨hnew, hinserted, hexchanged⟩ := h
    exact ⟨hnew, by rw [hinserted]; rfl, by rw [hexchanged]; rfl⟩
  | attempt =>
    obtain ⟨hnew, hinserted, hexchanged⟩ := h
    refine ⟨rfl, ?_, by rw [hinserted]; rfl, by rw [hexchanged]; rfl⟩
    intro a ha hid
    rcases List.mem_append.mp ha with ha | ha
    · exact absurd hid (hnew a ha)
    · rw [List.mem_singleton.mp ha]
      rfl
  | send r =>
    obtain ⟨hid, hopen, hinserted, hexchanged⟩ := h
    exact ⟨hid, hopen, by rw [hinserted]; rfl, _, by rw [hexchanged]; rfl⟩
  | _ => trivial

/-- A job alters no attempts but its own. -/
theorem authorship_spares {id : Uuid} (h : authorship m log i j stage)
    (ht : Turn j m stage c x stage' m') (hne : j.fresh.attemptId ≠ id) : Memory.Spares id m m' := by
  cases ht with
  | attempt => exact Memory.spares_addAttempt hne
  | record =>
    obtain ⟨hid, -⟩ := h
    exact Memory.spares_saveOutcome fun he => hne (hid.symm.trans he)
  | clear => exact Memory.spares_removeDelivery _
  | _ => exact Memory.spares_same rfl

/-- What others do, as long as they spare its attempt, does not concern a worker. -/
theorem authorship_mono (h : authorship m log i j stage)
    (spares : Memory.Spares j.fresh.attemptId m m') (hne : k ≠ i) :
    authorship m' (log ++ [⟨k, c, x⟩]) i j stage := by
  unfold authorship at h ⊢
  rw [byWorker_other _ _ _ _ hne, byWorker_other _ _ _ _ hne]
  cases stage with
  | attempted | answered =>
    obtain ⟨hid, hopen, hrest⟩ := h
    exact ⟨hid, (hid ▸ spares).unanswered hopen, hrest⟩
  | recorded | succeeded | ended => trivial
  | _ => exact ⟨spares.absent h.1, h.2⟩

theorem attemptIds_ne {duties : List Duty} (fresh : (duties.flatMap Duty.attemptIds).Nodup)
    (hne : k ≠ i) (hi : duties[i]? = some (.deliver j)) (hk : duties[k]? = some (.deliver j')) :
    j'.fresh.attemptId ≠ j.fresh.attemptId :=
  fun he => Duty.apart fresh hne hk hi List.mem_cons_self (he ▸ List.mem_cons_self)

theorem authorship_kept {duties : List Duty} (fresh : (duties.flatMap Duty.attemptIds).Nodup) :
    Charge.Kept authorship duties where
  own h turn := authorship_own h turn
  other hne hi hk h h' turn :=
    authorship_mono h (authorship_spares h' turn (attemptIds_ne fresh hne hi hk)) hne
  announced hne h announces := authorship_mono h (Memory.spares_same announces.attempts) hne

/-- The worker that made an attempt saves the answer that it got for it. -/
structure Authored (duties : List Duty) (log : List Event) (a : Attempt) (r : SendReport) :
    Prop where
  unanswered : a.outcome = .unanswered
  author : ∃ (i : Nat) (j : Job) (b : Attempt) (s : Sending), duties[i]? = some (.deliver j) ∧
    byWorker Event.inserted i log = [b] ∧ b.id = a.id ∧ byWorker Event.exchanged i log = [(s, r)]

/-- What a call of a crew can do to an attempt. -/
structure Amends (duties : List Duty) (crew crew' : Crew) (a a' : Attempt) : Prop where
  id : a'.id = a.id
  taskId : a'.taskId = a.taskId
  createdAt : a'.createdAt = a.createdAt
  deliveryId : a'.deliveryId = a.deliveryId ∨ ∃ id i x, a.deliveryId = some id ∧
    a'.deliveryId = none ∧ crew'.log = crew.log ++ [⟨i, .inl (.deleteDelivery id), x⟩]
  outcome : a'.outcome = a.outcome ∨ ∃ r, Authored duties crew.log a r ∧ a'.outcome = .ofReport r

variable {duties : List Duty} {crew crew' : Crew} {a a' : Attempt}

theorem Crew.Acts.authored {b : Attempt} {y : outside.Reply (.inl (.saveAttemptOutcome b))}
    (h : Crew.Acts authorship duties crew ⟨i, .inl (.saveAttemptOutcome b), y⟩ m)
    (ha : a ∈ crew.memory.attempts) (hid : b.id = a.id) :
    ∃ r, Authored duties crew.log a r ∧ (Memory.takeOutcome a b).outcome = .ofReport r := by
  cases h with
  | turn duty holds turn =>
    cases turn with
    | recordLost | record =>
      obtain ⟨-, hopen, hinserted, s, hexchanged⟩ := holds
      exact ⟨_, ⟨hopen a ha hid.symm, _, _, _, s, duty, hinserted, hid, hexchanged⟩, rfl⟩
  | announce _ announces => cases announces

theorem amends_of_step (h : crew.Manned authorship duties) (step : Crew.Step nobody crew crew')
    {k : Nat} (ha : crew.memory.attempts[k]? = some a) :
    ∃ a', crew'.memory.attempts[k]? = some a' ∧ Amends duties crew crew' a a' := by
  obtain ⟨⟨i, c, x⟩, m, rest, rfl, answers, acts⟩ := h.acts step
  obtain ⟨a', ha', halters⟩ := answers.alters ha
  refine ⟨a', ha', ?_⟩
  cases halters with
  | kept => exact ⟨rfl, rfl, rfl, .inl rfl, .inl rfl⟩
  | unlinked hid => exact ⟨rfl, rfl, rfl, .inr ⟨_, i, x, hid, rfl, rfl⟩, .inl rfl⟩
  | recorded hid =>
    exact ⟨rfl, rfl, rfl, .inl rfl, .inr (acts.authored (List.mem_of_getElem? ha) hid)⟩

/-- An outcome that is known does not change any more. -/
theorem outcome_settled (fresh : (duties.flatMap Duty.attemptIds).Nodup)
    (h : crew.Manned authorship duties) (run : Relation.ReflTransGen (Crew.Step nobody) crew crew')
    {k : Nat} (ha : crew.memory.attempts[k]? = some a) (answered : a.outcome ≠ .unanswered) :
    ∃ a', crew'.memory.attempts[k]? = some a' ∧ a'.outcome = a.outcome := by
  induction run using Relation.ReflTransGen.head_induction_on generalizing a with
  | refl => exact ⟨a, ha, rfl⟩
  | head step _ ih =>
    obtain ⟨b, hb, amends⟩ := amends_of_step h step ha
    have hsame : b.outcome = a.outcome := by
      rcases amends.outcome with hsame | ⟨r, authored, -⟩
      · exact hsame
      · exact absurd authored.unanswered answered
    obtain ⟨a', ha', houtcome⟩ :=
      ih (h.step (authorship_kept fresh) step) hb (hsame ▸ answered)
    exact ⟨a', ha', houtcome.trans hsame⟩

/-- However the calls of announcements and deliveries are mixed, each call leaves every attempt in
its place; it can clear the reference of one when its delivery is removed, and write the outcome of
one that has none, which then stays. -/
theorem attempts_are_history {m : Memory} (duties : List Duty)
    (fresh : (duties.flatMap Duty.attemptIds).Nodup)
    (unused : ∀ id ∈ duties.flatMap Duty.attemptIds, ∀ a ∈ m.attempts, a.id ≠ id)
    {crew crew' : Crew}
    (run : Relation.ReflTransGen (Crew.Step nobody) (Crew.assign m duties) crew)
    (step : Crew.Step nobody crew crew') {k : Nat} {a : Attempt}
    (ha : crew.memory.attempts[k]? = some a) :
    ∃ a', crew'.memory.attempts[k]? = some a' ∧ Amends duties crew crew' a a' ∧
      (a'.outcome ≠ .unanswered → ∀ later, Relation.ReflTransGen (Crew.Step nobody) crew' later →
        ∃ a'', later.memory.attempts[k]? = some a'' ∧ a''.outcome = a'.outcome) := by
  have start : ∀ i j, duties[i]? = some (.deliver j) → authorship m [] i j .start := by
    intro i j hduty
    refine ⟨unused _ ?_, rfl, rfl⟩
    exact List.mem_flatMap.mpr ⟨_, List.mem_of_getElem? hduty, List.mem_cons_self⟩
  have kept := authorship_kept fresh
  have hmanned := Crew.manned_reached kept start run
  obtain ⟨a', ha', amends⟩ := amends_of_step hmanned step ha
  exact ⟨a', ha', amends, fun answered later hlater =>
    outcome_settled fresh (hmanned.step kept step) hlater ha' answered⟩

namespace Sample

/-- An event is announced while a delivery is on its way. -/
def agenda : List Duty :=
  [.deliver ⟨fresh 5, .ofNat 3, none⟩, .announce (fresh 10) "order_created" .null]

/-- The crew when the target has answered. -/
def answered : Crew :=
  (Crew.assign memory agenda).play
    [(0, report .success), (1, report .success), (0, report .success), (0, report .success),
      (0, report .success), (1, report .success), (0, report .success)]

end Sample

open Sample

theorem attempts_are_history_answered :
    let recorded := answered.next (0, report .success)
    ∃ a', recorded.memory.attempts[1]? = some a' ∧
      Amends agenda answered recorded (newAttempt (fresh 5) (.ofNat 3) none) a' ∧
      a'.outcome = .ofReport (report .success) := by
  intro recorded
  have run : Relation.ReflTransGen (Crew.Step nobody) (Crew.assign memory agenda) answered :=
    Crew.play_reached nobody _ _
  have step : Crew.Step nobody answered recorded := Crew.next_step nobody ⟨_, _, rfl⟩
  have ha : answered.memory.attempts[1]? = some (newAttempt (fresh 5) (.ofNat 3) none) := rfl
  obtain ⟨a', ha', amends, -⟩ := attempts_are_history agenda (by decide) (by decide) run step ha
  refine ⟨a', ha', amends, ?_⟩
  have hstored : recorded.memory.attempts[1]? =
      some (answeredAttempt (fresh 5) (some (.ofNat 3)) none (report .success)) := rfl
  rw [Option.some.inj (ha'.symm.trans hstored)]
  rfl

end Tracker

end ShopRelay
