import ShopRelay.Proofs.Tracker.Serving

/-!
Deliveries do not depend on one another. What a sending does to the memory is a change to one
delivery and to its attempts, and changes to different deliveries commute; so it does not matter in
which order deliveries are sent.
-/

namespace ShopRelay.Tracker

/-- What becomes of a delivery. -/
inductive Fate where
  | untouched
  | marked (status : DeliveryStatus)
  | removed

/-- What is done to a memory on behalf of one delivery. The attempts that are added belong to no
other one. -/
structure Change where
  deliveryId : Uuid
  fate : Fate
  added : List Attempt
  own : ∀ a ∈ added, ∀ id, a.deliveryId = some id → id = deliveryId

namespace Change

def onDelivery (c : Change) (d : Delivery) : Option Delivery :=
  if d.id = c.deliveryId then
    match c.fate with
    | .untouched => some d
    | .marked status => some (withStatus d status)
    | .removed => none
  else some d

def onAttempt (c : Change) (a : Attempt) : Attempt :=
  match c.fate with
  | .removed => Memory.unlink c.deliveryId a
  | _ => a

def apply (c : Change) (m : Memory) : Memory :=
  { m with
    deliveries := m.deliveries.filterMap c.onDelivery
    attempts := m.attempts.map c.onAttempt ++ c.added }

end Change

namespace Memory

/-- Memories that differ in the order of their attempts at most. -/
structure Alike (m n : Memory) : Prop where
  payloads : m.payloads = n.payloads
  webhooks : m.webhooks = n.webhooks
  deliveries : m.deliveries = n.deliveries
  attempts : m.attempts.Perm n.attempts

end Memory

namespace Change

variable {c e : Change} {d : Delivery} {m : Memory}

theorem apply_untouched (h : c.fate = .untouched) :
    c.apply m = { m with attempts := m.attempts ++ c.added } := by
  have hdelivery : c.onDelivery = some := by
    funext d
    unfold onDelivery
    rw [h]
    split <;> rfl
  have hattempt : c.onAttempt = id := by
    funext a
    rw [onAttempt, h]
    rfl
  rw [apply, hdelivery, hattempt, List.filterMap_some, List.map_id]

theorem apply_marked {status : DeliveryStatus} (h : c.fate = .marked status) :
    c.apply m = { m.setStatus c.deliveryId status with attempts := m.attempts ++ c.added } := by
  have hdelivery : c.onDelivery =
      some ∘ fun d => if d.id = c.deliveryId then { d with status } else d := by
    funext d
    unfold onDelivery
    rw [h, Function.comp_apply]
    split <;> rfl
  have hattempt : c.onAttempt = id := by
    funext a
    rw [onAttempt, h]
    rfl
  rw [apply, hdelivery, hattempt, List.filterMap_eq_map, List.map_id]
  rfl

theorem apply_removed (h : c.fate = .removed) :
    c.apply m = { m.removeDelivery c.deliveryId with
      attempts := m.attempts.map (Memory.unlink c.deliveryId) ++ c.added } := by
  have hdelivery : c.onDelivery = Option.guard (·.id ≠ c.deliveryId) := by
    funext d
    unfold onDelivery
    rw [h, Option.guard]
    by_cases hd : d.id = c.deliveryId <;> simp [hd]
  have hattempt : c.onAttempt = Memory.unlink c.deliveryId := by
    funext a
    rw [onAttempt, h]
  rw [apply, hdelivery, hattempt, List.filterMap_eq_filter]
  rfl

theorem onDelivery_other (h : d.id ≠ c.deliveryId) : c.onDelivery d = some d := if_neg h

theorem onDelivery_id {d' : Delivery} (h : c.onDelivery d = some d') : d'.id = d.id := by
  unfold onDelivery at h
  split at h
  · split at h <;> cases h <;> rfl
  · cases h
    rfl

theorem onDelivery_comm (different : c.deliveryId ≠ e.deliveryId) (d : Delivery) :
    (c.onDelivery d).bind e.onDelivery = (e.onDelivery d).bind c.onDelivery := by
  -- At most one of the changes concerns this delivery, and the other leaves it as it is.
  by_cases h : d.id = c.deliveryId
  · have hd : d.id ≠ e.deliveryId := h ▸ different
    rw [onDelivery_other hd, Option.bind_some]
    cases h' : c.onDelivery d with
    | none => rfl
    | some d' =>
      rw [Option.bind_some]
      exact onDelivery_other (onDelivery_id h' ▸ hd)
  · rw [onDelivery_other h, Option.bind_some]
    cases h' : e.onDelivery d with
    | none => rfl
    | some d' =>
      rw [Option.bind_some]
      exact (onDelivery_other (onDelivery_id h' ▸ h)).symm

theorem onAttempt_id (a : Attempt) : (c.onAttempt a).id = a.id := by
  unfold onAttempt
  split
  · exact Memory.unlink_id a
  · rfl

theorem onAttempt_other {a : Attempt} (h : a.deliveryId ≠ some c.deliveryId) :
    c.onAttempt a = a := by
  unfold onAttempt
  split
  · exact if_neg h
  · rfl

theorem onAttempt_still_other {a : Attempt} {id : Uuid} (h : a.deliveryId ≠ some id) :
    (c.onAttempt a).deliveryId ≠ some id := by
  unfold onAttempt
  split
  · rw [Memory.unlink_deliveryId]
    split
    · exact nofun
    · exact h
  · exact h

theorem onAttempt_comm (different : c.deliveryId ≠ e.deliveryId) (a : Attempt) :
    c.onAttempt (e.onAttempt a) = e.onAttempt (c.onAttempt a) := by
  by_cases h : a.deliveryId = some c.deliveryId
  · have ha : a.deliveryId ≠ some e.deliveryId := fun he =>
      different (Option.some.inj (h.symm.trans he))
    rw [onAttempt_other ha, onAttempt_other (onAttempt_still_other ha)]
  · rw [onAttempt_other h, onAttempt_other (onAttempt_still_other h)]

theorem onAttempt_added (different : c.deliveryId ≠ e.deliveryId) :
    e.added.map c.onAttempt = e.added := by
  refine (List.map_congr_left fun a ha => ?_).trans (List.map_id e.added)
  exact onAttempt_other fun h => different (e.own a ha _ h)

theorem apply_comm (different : c.deliveryId ≠ e.deliveryId) (m : Memory) :
    (c.apply (e.apply m)).Alike (e.apply (c.apply m)) where
  payloads := rfl
  webhooks := rfl
  deliveries := by
    unfold apply
    dsimp only
    rw [List.filterMap_filterMap, List.filterMap_filterMap]
    exact congrArg (List.filterMap · m.deliveries) (funext (onDelivery_comm different.symm))
  attempts := by
    -- Neither change touches what the other adds: the additions change places, and nothing else.
    unfold apply
    dsimp only
    rw [List.map_append, List.map_append, onAttempt_added different, onAttempt_added different.symm,
      List.map_map, List.map_map, List.append_assoc, List.append_assoc]
    have hstored : c.onAttempt ∘ e.onAttempt = e.onAttempt ∘ c.onAttempt :=
      funext (onAttempt_comm different)
    rw [hstored]
    exact List.perm_append_comm.append_left _

/-- What the change does to a delivery does not lead to one with another id, nor away from it. -/
theorem onDelivery_any {id : Uuid} (h : id ≠ c.deliveryId) (d : Delivery) :
    (c.onDelivery d).any (·.id = id) = decide (d.id = id) := by
  by_cases hd : d.id = c.deliveryId
  · have hid : d.id ≠ id := fun he => h (he.symm.trans hd)
    rw [decide_eq_false hid]
    cases h' : c.onDelivery d with
    | none => rfl
    | some d' => simpa [onDelivery_id h'] using hid
  · rw [onDelivery_other hd, Option.any_some]

theorem delivery_apply_other {id : Uuid} (h : id ≠ c.deliveryId) :
    (c.apply m).delivery? id = m.delivery? id := by
  unfold apply Memory.delivery?
  dsimp only
  rw [List.find?_filterMap, funext (onDelivery_any h)]
  cases hfound : m.deliveries.find? (·.id = id) with
  | none => rfl
  | some d =>
    have hd : d.id = id := by simpa using List.find?_some hfound
    exact onDelivery_other (hd ▸ h)

end Change

namespace Job

variable {j : Job} {r : SendReport} {m : Memory}

/-- The job has sent nothing. -/
def leave (j : Job) (fate : Fate) : Change := ⟨j.deliveryId, fate, [], by simp⟩

/-- The job has had an answer. -/
def record (j : Job) (r : SendReport) : Change :=
  if r.status = .success then
    ⟨j.deliveryId, .removed, [answeredAttempt j.fresh none j.taskId r], by simp [answeredAttempt]⟩
  else
    ⟨j.deliveryId, .marked r.status, [answeredAttempt j.fresh (some j.deliveryId) j.taskId r], by
      simp [answeredAttempt]⟩

/-- The result of a job and what it does, as the memory has it that it finds. -/
def outcome (j : Job) (r : SendReport) (m : Memory) :
    Except Fault (Option DeliveryStatus) × Change :=
  match m.delivery? j.deliveryId with
  | none => (.ok none, j.leave .untouched)
  | some d =>
    match m.target? d, m.payload? d.payloadId with
    | none, _ => (.ok (some .failed), j.leave (.marked .failed))
    | some _, none => (.error (.payloadMissing d.payloadId j.deliveryId), j.leave .untouched)
    | some _, some _ => (.ok (some r.status), j.record r)

theorem apply_leave_untouched : (j.leave .untouched).apply m = m := by
  rw [Change.apply_untouched rfl, leave]
  dsimp only
  rw [List.append_nil]

theorem apply_leave_marked (status : DeliveryStatus) :
    (j.leave (.marked status)).apply m = m.setStatus j.deliveryId status := by
  rw [Change.apply_marked rfl, leave]
  dsimp only
  rw [List.append_nil]
  rfl

theorem apply_record (unused : ∀ a ∈ m.attempts, a.id ≠ j.fresh.attemptId) :
    (j.record r).apply m = m.settled j r := by
  unfold record
  split
  · next hr =>
    have hattempts := Memory.attempts_settled_success unused hr
    rw [Memory.settled, if_pos hr, Memory.recorded, Memory.removeDelivery_setStatus] at hattempts ⊢
    rw [Change.apply_removed rfl]
    dsimp only
    rw [← hattempts]
    rfl
  · next hr =>
    rw [Memory.settled, if_neg hr, Change.apply_marked rfl]
    dsimp only
    rw [← Memory.attempts_recorded unused]
    rfl

theorem record_deliveryId : (j.record r).deliveryId = j.deliveryId := by
  unfold record
  split <;> rfl

theorem outcome_deliveryId : (j.outcome r m).2.deliveryId = j.deliveryId := by
  unfold outcome
  split
  · rfl
  · split
    · rfl
    · rfl
    · exact record_deliveryId

theorem attempt_of_added {a : Attempt} (h : a ∈ (j.outcome r m).2.added) :
    a.id = j.fresh.attemptId := by
  have hrecord (h : a ∈ (j.record r).added) : a.id = j.fresh.attemptId := by
    unfold record at h
    split at h <;> rw [List.mem_singleton.mp h] <;> rfl
  unfold outcome at h
  split at h
  · cases h
  · split at h
    · cases h
    · cases h
    · exact hrecord h

/-- What other deliveries have come to does not matter to a job. -/
theorem outcome_apply {c : Change} (different : c.deliveryId ≠ j.deliveryId) :
    j.outcome r (c.apply m) = j.outcome r m := by
  unfold outcome
  rw [Change.delivery_apply_other different.symm]
  rfl

end Job

theorem Delivers.eq_outcome {m m' : Memory} {j : Job} {r : SendReport}
    {result : Except Fault (Option DeliveryStatus)} {es : List Exchange}
    (h : Delivers m j result es m') (answers : ∀ e ∈ es, e.2 = r)
    (unused : ∀ a ∈ m.attempts, a.id ≠ j.fresh.attemptId) :
    (result, m') = ((j.outcome r m).1, (j.outcome r m).2.apply m) := by
  unfold Job.outcome
  cases h with
  | absent h => rw [h, Job.apply_leave_untouched]
  | givenUp h ht =>
    rw [h]
    dsimp only
    rw [ht, Job.apply_leave_marked]
  | payloadLost h ht hp =>
    rw [h]
    dsimp only
    rw [ht, hp, Job.apply_leave_untouched]
  | sent h ht hp r' =>
    obtain rfl : r' = r := answers _ List.mem_cons_self
    rw [h]
    dsimp only
    rw [ht, hp, Job.apply_record unused]

/-- A job that runs alone on a memory that does not fail, with the answer of its target. -/
def Memory.deliver (m : Memory) (j : Job) (r : SendReport) :
    Except Fault (Option DeliveryStatus) × Memory :=
  let (result, t) := (Trial.mk m [] r [] []).run j.task
  (result, t.memory)

theorem Memory.deliver_eq {m : Memory} {j : Job} {r : SendReport}
    (unused : ∀ a ∈ m.attempts, a.id ≠ j.fresh.attemptId) :
    m.deliver j r = ((j.outcome r m).1, (j.outcome r m).2.apply m) := by
  obtain ⟨es, h, after⟩ := Trial.run_delivers (t := ⟨m, [], r, [], []⟩) rfl j
  exact h.eq_outcome after.reports unused

theorem Change.unused_apply {m : Memory} {c : Change} {id : Uuid}
    (unused : ∀ a ∈ m.attempts, a.id ≠ id) (added : ∀ a ∈ c.added, a.id ≠ id) :
    ∀ a ∈ (c.apply m).attempts, a.id ≠ id := by
  intro a ha
  rcases List.mem_append.mp ha with ha | ha
  · obtain ⟨b, hb, rfl⟩ := List.mem_map.mp ha
    rw [Change.onAttempt_id]
    exact unused b hb
  · exact added a ha

/-- A job does the same whether another one, for another delivery, ran before it or not. -/
theorem Memory.deliver_after {m : Memory} {j k : Job} {r s : SendReport}
    (different : j.deliveryId ≠ k.deliveryId) (apart : j.fresh.attemptId ≠ k.fresh.attemptId)
    (unused : ∀ a ∈ m.attempts, a.id ≠ k.fresh.attemptId) :
    ((j.outcome r m).2.apply m).deliver k s =
      ((k.outcome s m).1, (k.outcome s m).2.apply ((j.outcome r m).2.apply m)) := by
  have hunused := Change.unused_apply (c := (j.outcome r m).2) unused fun a ha =>
    Job.attempt_of_added ha ▸ apart
  have hother : (j.outcome r m).2.deliveryId ≠ k.deliveryId := by rwa [Job.outcome_deliveryId]
  rw [Memory.deliver_eq hunused, Job.outcome_apply hother]

/-- Two deliveries can be sent in either order: the results are the same, and so is the memory but
for the order of its attempts. -/
theorem deliveries_commute (m : Memory) (j k : Job) (r s : SendReport)
    (different : j.deliveryId ≠ k.deliveryId) (apart : j.fresh.attemptId ≠ k.fresh.attemptId)
    (unused : ∀ a ∈ m.attempts, a.id ≠ j.fresh.attemptId ∧ a.id ≠ k.fresh.attemptId) :
    ∃ x y m₁ m₂ n₁ n₂,
      m.deliver j r = (x, m₁) ∧ m₁.deliver k s = (y, m₂) ∧
      m.deliver k s = (y, n₁) ∧ n₁.deliver j r = (x, n₂) ∧
      m₂.payloads = n₂.payloads ∧ m₂.webhooks = n₂.webhooks ∧ m₂.deliveries = n₂.deliveries ∧
      m₂.attempts.Perm n₂.attempts := by
  have hj : ∀ a ∈ m.attempts, a.id ≠ j.fresh.attemptId := fun a ha => (unused a ha).1
  have hk : ∀ a ∈ m.attempts, a.id ≠ k.fresh.attemptId := fun a ha => (unused a ha).2
  have halike : ((k.outcome s m).2.apply ((j.outcome r m).2.apply m)).Alike
      ((j.outcome r m).2.apply ((k.outcome s m).2.apply m)) := by
    apply Change.apply_comm
    rw [Job.outcome_deliveryId, Job.outcome_deliveryId]
    exact different.symm
  exact ⟨_, _, _, _, _, _, Memory.deliver_eq hj, Memory.deliver_after different apart hk,
    Memory.deliver_eq hk, Memory.deliver_after different.symm apart.symm hj,
    halike.payloads, halike.webhooks, halike.deliveries, halike.attempts⟩

namespace Sample

/-- Two deliveries of one payload to one webhook; the first was sent in vain before. -/
def twice : Memory :=
  { memory with deliveries := [delivery .failed, { delivery .pending with id := .ofNat 6 }] }

def firstJob : Job := ⟨fresh 5, .ofNat 3, none⟩

def secondJob : Job := ⟨fresh 7, .ofNat 6, none⟩

end Sample

open Sample in
theorem deliveries_commute_shared :
    ∃ m₁ m₂ n₁ n₂,
      twice.deliver firstJob (report .success) = (.ok (some .success), m₁) ∧
      m₁.deliver secondJob (report .failed) = (.ok (some .failed), m₂) ∧
      twice.deliver secondJob (report .failed) = (.ok (some .failed), n₁) ∧
      n₁.deliver firstJob (report .success) = (.ok (some .success), n₂) ∧
      m₂.deliveries = n₂.deliveries ∧ m₂.attempts.Perm n₂.attempts := by
  obtain ⟨x, y, m₁, m₂, n₁, n₂, hfirst, hsecond, hfirst', hsecond', -, -, hdeliveries, hattempts⟩ :=
    deliveries_commute twice firstJob secondJob (report .success) (report .failed) (by decide)
      (by decide) (by decide)
  have hx : (twice.deliver firstJob (report .success)).1 = .ok (some .success) := rfl
  have hy : (twice.deliver secondJob (report .failed)).1 = .ok (some .failed) := rfl
  rw [hfirst] at hx
  rw [hfirst'] at hy
  subst hx hy
  exact ⟨m₁, m₂, n₁, n₂, hfirst, hsecond, hfirst', hsecond', hdeliveries, hattempts⟩

end ShopRelay.Tracker
