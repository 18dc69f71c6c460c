import ShopRelay.Tracker.Memory

/-!
What each change of the memory does to what is found in it.
-/

namespace ShopRelay.Tracker.Memory

/-- The webhook to which a delivery can be sent. -/
def target? (m : Memory) (d : Delivery) : Option Webhook :=
  (m.webhook? d.webhookId).filter (·.isActive)

def addAttempt (m : Memory) (a : Attempt) : Memory := { m with attempts := m.attempts ++ [a] }

def saveOutcome (m : Memory) (a : Attempt) : Memory :=
  { m with attempts := updateFirst a m.attempts }

section
variable {α : Type} (key : α → Uuid) (x : α) (k : Uuid)

theorem find_put (xs : List α) :
    (put key x xs).find? (key · = k) =
      if key x = k then some x else xs.find? (key · = k) := by
  induction xs with
  | nil => by_cases h : key x = k <;> simp [put, h]
  | cons y ys ih =>
    by_cases hy : key y = key x
    · by_cases h : key x = k
      · simp [put, hy, h]
      · simp [put, hy, h]
    · by_cases h : key y = k
      · have hx : key x ≠ k := fun he => hy (h.trans he.symm)
        rw [put, if_neg hy]
        simp [h, hx]
      · simp [put, hy, h, ih]

theorem mem_put {xs : List α} {y : α} (h : y ∈ put key x xs) : y = x ∨ y ∈ xs := by
  induction xs with
  | nil => exact .inl (by simpa [put] using h)
  | cons z zs ih =>
    unfold put at h
    split at h
    · rcases List.mem_cons.mp h with h | h
      · exact .inl h
      · exact .inr (List.mem_cons_of_mem _ h)
    · rcases List.mem_cons.mp h with h | h
      · exact .inr (h ▸ List.mem_cons_self)
      · exact (ih h).imp_right (List.mem_cons_of_mem _)

theorem mem_puts {xs ys : List α} {y : α} (h : y ∈ xs.foldl (fun s x => put key x s) ys) :
    y ∈ xs ∨ y ∈ ys := by
  induction xs generalizing ys with
  | nil => exact .inr h
  | cons x xs ih =>
    rcases ih h with h | h
    · exact .inl (List.mem_cons_of_mem _ h)
    · rcases mem_put key x h with rfl | h
      · exact .inl List.mem_cons_self
      · exact .inr h

/-- Of the entries that are put with one key the last is found. -/
theorem find_puts (xs ys : List α) :
    (xs.foldl (fun s x => put key x s) ys).find? (key · = k) =
      (xs.reverse.find? (key · = k)).or (ys.find? (key · = k)) := by
  induction xs generalizing ys with
  | nil => rfl
  | cons x xs ih =>
    rw [List.foldl_cons, ih, find_put, List.reverse_cons, List.find?_append, Option.or_assoc]
    congr 1
    by_cases h : key x = k
    · simp [h]
    · simp [h]

/-- An entry with a new key comes last. -/
theorem put_new {ys : List α} (h : ∀ y ∈ ys, key y ≠ key x) : put key x ys = ys ++ [x] := by
  induction ys with
  | nil => rfl
  | cons y ys ih =>
    rw [put, if_neg (h y List.mem_cons_self), ih fun z hz => h z (List.mem_cons_of_mem _ hz),
      List.cons_append]

theorem puts_new {xs ys : List α} (h : ∀ x ∈ xs, ∀ y ∈ ys, key y ≠ key x)
    (distinct : (xs.map key).Nodup) : xs.foldl (fun s x => put key x s) ys = ys ++ xs := by
  induction xs generalizing ys with
  | nil => rw [List.foldl_nil, List.append_nil]
  | cons x xs ih =>
    rw [List.map_cons, List.nodup_cons] at distinct
    obtain ⟨hx, hxs⟩ := distinct
    rw [List.foldl_cons, put_new key x (h x List.mem_cons_self), ih ?_ hxs, List.append_assoc,
      List.singleton_append]
    intro z hz y hy
    rcases List.mem_append.mp hy with hy | hy
    · exact h z (List.mem_cons_of_mem _ hz) y hy
    · rw [List.mem_singleton.mp hy]
      exact fun he => hx (he ▸ List.mem_map_of_mem hz)

theorem find_puts_other {xs ys : List α} (h : ∀ x ∈ xs, key x ≠ k) :
    (xs.foldl (fun s x => put key x s) ys).find? (key · = k) = ys.find? (key · = k) := by
  have hnone : xs.reverse.find? (key · = k) = none := by simpa using h
  rw [find_puts, hnone, Option.none_or]

/-- What is found stays found, though it may be replaced. -/
theorem find_puts_isSome {xs ys : List α} (h : (ys.find? (key · = k)).isSome) :
    ((xs.foldl (fun s x => put key x s) ys).find? (key · = k)).isSome := by
  rw [find_puts, Option.isSome_or, h, Bool.or_true]

end

variable (m : Memory)

theorem payload_putPayload_isSome (p : Payload) (id : Uuid)
    (h : id = p.id ∨ (m.payload? id).isSome) : ((m.putPayload p).payload? id).isSome := by
  unfold payload? putPayload
  rw [find_put]
  split
  · rfl
  · rename_i hne
    exact h.resolve_left fun he => hne he.symm

variable {m} {id other : Uuid} {d : Delivery}

theorem id_of_delivery (h : m.delivery? id = some d) : d.id = id := by
  simpa using List.find?_some h

theorem mem_of_delivery (h : m.delivery? id = some d) : d ∈ m.deliveries :=
  List.mem_of_find?_eq_some h

variable (m)

theorem delivery_setStatus (id other : Uuid) (status : DeliveryStatus) :
    (m.setStatus id status).delivery? other =
      (m.delivery? other).map fun d => if d.id = id then { d with status } else d := by
  unfold setStatus delivery?
  rw [List.find?_map]
  congr 2
  funext d
  simp only [Function.comp_apply]
  split <;> rfl

theorem delivery_setStatus_map {status : DeliveryStatus} :
    (m.setStatus id status).delivery? id = (m.delivery? id).map fun d => { d with status } := by
  rw [delivery_setStatus]
  cases h : m.delivery? id with
  | none => rfl
  | some d => simp [id_of_delivery h]

theorem delivery_setStatus_self {status : DeliveryStatus} (h : m.delivery? id = some d) :
    (m.setStatus id status).delivery? id = some { d with status } := by
  rw [delivery_setStatus_map, h]
  rfl

theorem delivery_setStatus_other {status : DeliveryStatus} (hne : other ≠ id) :
    (m.setStatus id status).delivery? other = m.delivery? other := by
  rw [delivery_setStatus]
  cases h : m.delivery? other with
  | none => rfl
  | some d => simp [id_of_delivery h, hne]

theorem delivery_removeDelivery (id other : Uuid) :
    (m.removeDelivery id).delivery? other = if other = id then none else m.delivery? other := by
  unfold removeDelivery delivery?
  rw [List.find?_filter]
  split
  · rename_i he
    subst he
    rw [List.find?_eq_none]
    intro d _
    simp
  · rename_i hne
    congr 1
    funext d
    by_cases hd : d.id = other
    · simp [hd, hne]
    · simp [hd]

/-- The status of a delivery that is removed does not matter. -/
theorem removeDelivery_setStatus (id : Uuid) (status : DeliveryStatus) :
    (m.setStatus id status).removeDelivery id = m.removeDelivery id := by
  unfold removeDelivery setStatus
  congr 1
  dsimp only
  induction m.deliveries with
  | nil => rfl
  | cons d ds ih =>
    by_cases hd : d.id = id
    · simpa [hd] using ih
    · simpa [hd] using ih

/-- The attempt without its reference, if that is to a delivery. -/
def unlink (id : Uuid) (a : Attempt) : Attempt :=
  if a.deliveryId = some id then { a with deliveryId := none } else a

theorem attempts_removeDelivery (id : Uuid) :
    (m.removeDelivery id).attempts = m.attempts.map (unlink id) := rfl

@[simp] theorem unlink_id (a : Attempt) : (unlink id a).id = a.id := by
  unfold unlink
  split <;> rfl

theorem unlink_deliveryId (a : Attempt) :
    (unlink id a).deliveryId = if a.deliveryId = some id then none else a.deliveryId := by
  unfold unlink
  split <;> rfl

theorem updateFirst_ids (a : Attempt) (as : List Attempt) :
    (updateFirst a as).map Attempt.id = as.map Attempt.id := by
  induction as with
  | nil => rfl
  | cons b bs ih =>
    unfold updateFirst
    split
    · rfl
    · simp [ih]

theorem mem_updateFirst {a b : Attempt} {as : List Attempt} (h : b ∈ updateFirst a as) :
    b ∈ as ∨ ∃ c ∈ as, c.id = a.id ∧ b = takeOutcome c a := by
  induction as with
  | nil => cases h
  | cons x xs ih =>
    unfold updateFirst at h
    split at h
    · rename_i hx
      rcases List.mem_cons.mp h with rfl | h
      · exact .inr ⟨x, List.mem_cons_self, hx, rfl⟩
      · exact .inl (List.mem_cons_of_mem _ h)
    · rcases List.mem_cons.mp h with rfl | h
      · exact .inl List.mem_cons_self
      · rcases ih h with h | ⟨c, hc, hid⟩
        · exact .inl (List.mem_cons_of_mem _ h)
        · exact .inr ⟨c, List.mem_cons_of_mem _ hc, hid⟩

/-- The first attempt that has the id takes over the outcome. -/
theorem updateFirst_append {a b : Attempt} {as after : List Attempt} (hb : b.id = a.id)
    (h : ∀ x ∈ as, x.id ≠ a.id) :
    updateFirst a (as ++ b :: after) = as ++ takeOutcome b a :: after := by
  induction as with
  | nil => simp [updateFirst, hb]
  | cons x xs ih =>
    have hx : x.id ≠ a.id := h x List.mem_cons_self
    simp [updateFirst, hx, ih fun y hy => h y (List.mem_cons_of_mem _ hy)]

theorem attempt_isSome {id : Uuid} :
    (m.attempt? id).isSome ↔ id ∈ m.attempts.map Attempt.id := by
  unfold attempt?
  rw [List.find?_isSome, List.mem_map]
  simp

theorem attempt_addAttempt (a : Attempt) : ((m.addAttempt a).attempt? a.id).isSome := by
  rw [attempt_isSome]
  simp [addAttempt]

@[simp] theorem delivery_addAttempt (a : Attempt) :
    (m.addAttempt a).delivery? id = m.delivery? id := rfl

@[simp] theorem delivery_saveOutcome (a : Attempt) :
    (m.saveOutcome a).delivery? id = m.delivery? id := rfl

/-- No attempt has come to refer to a delivery, and none has lost the one it refers to. -/
def Retains (m m' : Memory) : Prop :=
  ∀ a ∈ m'.attempts, ∀ id, a.deliveryId = some id →
    ∃ b ∈ m.attempts, b.id = a.id ∧ b.deliveryId = some id ∧
      ((m.delivery? id).isSome → (m'.delivery? id).isSome)

theorem Retains.of_attempts {m' : Memory} (attempts : m'.attempts = m.attempts)
    (stored : ∀ id, (m.delivery? id).isSome → (m'.delivery? id).isSome) : m.Retains m' := by
  intro a ha id hid
  rw [attempts] at ha
  exact ⟨a, ha, rfl, hid, stored id⟩

theorem Retains.refl : m.Retains m := .of_attempts m rfl fun _ => id

theorem retains_setStatus (id : Uuid) (status : DeliveryStatus) : m.Retains (m.setStatus id status) :=
  .of_attempts m rfl fun other h => by rwa [delivery_setStatus, Option.isSome_map]

theorem retains_saveOutcome (a : Attempt) : m.Retains (m.saveOutcome a) := by
  intro b hb id hid
  rcases mem_updateFirst hb with hb | ⟨c, hc, -, rfl⟩
  · exact ⟨b, hb, rfl, hid, fun h => h⟩
  · exact ⟨c, hc, rfl, hid, fun h => h⟩

theorem retains_removeDelivery (id : Uuid) : m.Retains (m.removeDelivery id) := by
  intro a ha other hother
  rw [attempts_removeDelivery] at ha
  obtain ⟨b, hb, rfl⟩ := List.mem_map.mp ha
  rw [unlink_deliveryId] at hother
  split at hother
  · cases hother
  · rename_i hne
    have hid : other ≠ id := fun he => hne (he ▸ hother)
    refine ⟨b, hb, (unlink_id b).symm, hother, fun h => ?_⟩
    rwa [delivery_removeDelivery, if_neg hid]

theorem Retains.stored {m' : Memory} (h : m.Retains m')
    (stored : ∀ a ∈ m.attempts, ∀ id, a.deliveryId = some id → (m.delivery? id).isSome) :
    ∀ a ∈ m'.attempts, ∀ id, a.deliveryId = some id → (m'.delivery? id).isSome := by
  intro a ha id hid
  obtain ⟨b, hb, -, hbid, still⟩ := h a ha id hid
  exact still (stored b hb id hbid)

section
variable {m} {status : DeliveryStatus} {a b : Attempt}

theorem reply_saveStatus_lost (h : m.delivery? id = none) :
    reply (.saveDeliveryStatus id status) m = (.error (.deliveryMissing id), m) := by
  simp [reply, h]

theorem reply_saveStatus (h : m.delivery? id = some d) :
    reply (.saveDeliveryStatus id status) m = (.ok (), m.setStatus id status) := by
  simp [reply, h]

theorem reply_saveOutcome_lost (h : m.attempt? a.id = none) :
    reply (.saveAttemptOutcome a) m = (.error (.attemptMissing a.id), m) := by
  simp [reply, h]

theorem reply_saveOutcome (h : m.attempt? a.id = some b) :
    reply (.saveAttemptOutcome a) m = (.ok (), m.saveOutcome a) := by
  simp [reply, h, saveOutcome]

/-- Events are stored as a whole or not at all. -/
theorem reply_insertEvent (p : Payload) (ds : List Delivery) :
    (reply (.insertEvent p ds) m).2 = m ∨
      (reply (.insertEvent p ds) m).2 = (m.putPayload p).putDeliveries ds := by
  simp only [reply]
  split
  · exact .inl rfl
  · exact .inr rfl

end

end ShopRelay.Tracker.Memory
