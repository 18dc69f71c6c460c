import ShopRelay.Proofs.Tracker.Duties

/-!
The references of attempts to deliveries. Removing a delivery clears those that are stored by then,
but storing an attempt does not look whether its delivery is still there: a worker that has loaded
a delivery, and is overtaken by one that removes it, stores a reference to nothing. Nothing else
does, so as long as no two workers have the same delivery, all references are to what is stored.
-/

namespace ShopRelay.Tracker

/-- Attempts refer to deliveries that are stored. -/
def Memory.Linked (m : Memory) : Prop :=
  ∀ a ∈ m.attempts, ∀ id, a.deliveryId = some id → (m.delivery? id).isSome

namespace Duty

/-- The deliveries that are to be sent. -/
def deliveryIds : Duty → List Uuid
  | .announce .. => []
  | .deliver j => [j.deliveryId]

end Duty

namespace Event

def loading (i : Nat) (d : Delivery) : Event := ⟨i, .inl (.delivery d.id), .ok (some d)⟩

def removal (i : Nat) (id : Uuid) : Event := ⟨i, .inl (.deleteDelivery id), .ok ()⟩

def insertion (i : Nat) (a : Attempt) : Event := ⟨i, .inl (.insertAttempt a), .ok a⟩

end Event

/-- Since a worker loaded a delivery, another one that had the same has removed it. -/
def Bereft (duties : List Duty) (log : List Event) (i : Nat) (d : Delivery) : Prop :=
  ∃ k j, k ≠ i ∧ duties[k]? = some (.deliver j) ∧ j.deliveryId = d.id ∧
    [Event.loading i d, Event.removal k d.id].Sublist log

/-- A worker stored an attempt for a delivery that another one had removed from under it. -/
def Overtaken (duties : List Duty) (log : List Event) (a : Attempt) (id : Uuid) : Prop :=
  ∃ i j d before, duties[i]? = some (.deliver j) ∧ j.deliveryId = id ∧ d.id = id ∧
    a.id = j.fresh.attemptId ∧ Bereft duties before i d ∧
    before ++ [Event.insertion i (newAttempt j.fresh id j.taskId)] <+: log

variable {duties : List Duty} {log more : List Event} {m m' : Memory} {i k : Nat} {j j' : Job}
  {stage stage' : Stage} {d : Delivery} {c : outside.Call} {x : outside.Reply c}

theorem Bereft.mono (h : Bereft duties log i d) : Bereft duties (log ++ more) i d := by
  obtain ⟨k, j, hne, hduty, hid, hlog⟩ := h
  exact ⟨k, j, hne, hduty, hid, hlog.trans (List.sublist_append_left _ _)⟩

theorem Overtaken.mono {a : Attempt} {id : Uuid} (h : Overtaken duties log a id) :
    Overtaken duties (log ++ more) a id := by
  obtain ⟨i, j, d, before, hduty, hid, hd, ha, hbereft, hlog⟩ := h
  exact ⟨i, j, d, before, hduty, hid, hd, ha, hbereft, hlog.trans (List.prefix_append _ _)⟩

/-- What a worker has to show for the delivery in its hands: until it stores its attempt, the
delivery is stored, or another worker has removed it since. -/
def custody (duties : List Duty) : Charge := fun m log i j stage =>
  match stage with
  | .start | .ended _ => True
  | .loaded d | .targeted d _ | .ready d _ _ =>
    d.id = j.deliveryId ∧ Event.loading i d ∈ log ∧
      ((m.delivery? d.id).isSome ∨ Bereft duties log i d)
  | .untargeted d | .attempted d _ _ _ | .answered d _ _ | .recorded d _ | .succeeded d _ =>
    d.id = j.deliveryId

theorem custody_own (h : custody duties m log i j stage) (turn : Turn j m stage c x stage' m') :
    custody duties m' (log ++ [⟨i, c, x⟩]) i j stage' := by
  cases turn with
  | load hd =>
    obtain hid := Memory.id_of_delivery hd
    refine ⟨hid, List.mem_append_right _ ?_, .inl ?_⟩
    · rw [← hid]
      exact List.mem_cons_self
    · rw [hid, hd]
      rfl
  | target | prepare =>
    obtain ⟨hid, hloaded, hstored⟩ := h
    exact ⟨hid, List.mem_append_left _ hloaded, hstored.imp_right Bereft.mono⟩
  | untarget | attempt => exact h.1
  | send | record | saveSuccess => exact h
  | _ => trivial

/-- A turn takes a delivery away only where a worker clears its own. -/
theorem Turn.stored {id : Uuid} (turn : Turn j m stage c x stage' m')
    (h : (m.delivery? id).isSome) :
    (m'.delivery? id).isSome ∨
      ∃ d r, stage = .succeeded d r ∧ d.id = id ∧
        (⟨k, c, x⟩ : Event) = Event.removal k id := by
  cases turn with
  | giveUp | saveSuccess | save =>
    refine .inl ?_
    rwa [Memory.delivery_setStatus, Option.isSome_map]
  | @clear d r =>
    by_cases hid : id = d.id
    · exact .inr ⟨d, r, rfl, hid.symm, by rw [hid]; rfl⟩
    · refine .inl ?_
      rwa [Memory.delivery_removeDelivery, if_neg hid]
  | _ => exact .inl h

theorem Announces.stored {id : Uuid} (h : Announces m c x m') (hd : (m.delivery? id).isSome) :
    (m'.delivery? id).isSome := by
  cases h with
  | look => exact hd
  | store p ds =>
    rcases Memory.reply_insertEvent (m := m) p ds with h | h
    · rwa [h]
    · rw [h]
      exact Memory.find_puts_isSome Delivery.id id hd

/-- A worker keeps what it has to show if its delivery stays, or is removed by another. -/
theorem custody_mono (h : custody duties m log i j stage)
    (stays : ∀ d : Delivery, d.id = j.deliveryId → Event.loading i d ∈ log →
      (m.delivery? d.id).isSome → (m'.delivery? d.id).isSome ∨ Bereft duties (log ++ more) i d) :
    custody duties m' (log ++ more) i j stage := by
  cases stage with
  | loaded | targeted | ready =>
    obtain ⟨hid, hloaded, hstored | hbereft⟩ := h
    · exact ⟨hid, List.mem_append_left _ hloaded, stays _ hid hloaded hstored⟩
    · exact ⟨hid, List.mem_append_left _ hloaded, .inr hbereft.mono⟩
  | start | ended => trivial
  | _ => exact h

theorem custody_kept (duties : List Duty) : Charge.Kept (custody duties) duties where
  own := custody_own
  other {m m' log i j stage k j' s s' c x} hne hi hk h h' turn := by
    refine custody_mono h fun d hid hloaded hstored => ?_
    rcases turn.stored (k := k) hstored with hstored | ⟨d', r, rfl, hd', he⟩
    · exact .inl hstored
    · rw [he]
      refine .inr ⟨k, j', hne, hk, (show d'.id = j'.deliveryId from h').symm.trans hd', ?_⟩
      exact (List.singleton_sublist.mpr hloaded).append (List.Sublist.refl _)
  announced hne h announces :=
    custody_mono h fun _ _ _ hstored => .inl (announces.stored hstored)

/-- Each attempt refers to a delivery that is stored, or was stored too late. -/
def Crew.Linked (duties : List Duty) (crew : Crew) : Prop :=
  ∀ a ∈ crew.memory.attempts, ∀ id, a.deliveryId = some id →
    (crew.memory.delivery? id).isSome ∨ Overtaken duties crew.log a id

/-- Storing an attempt is the only call that brings a new reference. -/
theorem Turn.retains (turn : Turn j m stage c x stage' m') :
    m.Retains m' ∨ ∃ d w p, stage = .ready d w p ∧
      m' = m.addAttempt (newAttempt j.fresh d.id j.taskId) ∧
      (⟨i, c, x⟩ : Event) = Event.insertion i (newAttempt j.fresh d.id j.taskId) := by
  cases turn with
  | @attempt d w p => exact .inr ⟨d, w, p, rfl, rfl, rfl⟩
  | giveUp | saveSuccess | save => exact .inl (Memory.retains_setStatus m _ _)
  | record => exact .inl (Memory.retains_saveOutcome m _)
  | clear => exact .inl (Memory.retains_removeDelivery m _)
  | _ => exact .inl (.refl m)

theorem Announces.retains (h : Announces m c x m') : m.Retains m' := by
  refine .of_attempts m ?_ fun _ => h.stored
  cases h with
  | look => rfl
  | store p ds =>
    rcases Memory.reply_insertEvent (m := m) p ds with h | h
    · rw [h]
    · rw [h]
      rfl

variable {crew crew' : Crew}

theorem Crew.Linked.retained {e : Event} {rest : Task outside (Option DeliveryStatus)}
    (h : crew.Linked duties) (retains : crew.memory.Retains m) :
    (crew.worked m e rest).Linked duties := by
  intro a ha id hid
  obtain ⟨b, hb, hab, hbid, still⟩ := retains a ha id hid
  refine (h b hb id hbid).imp still fun hover => ?_
  have hlater : Overtaken duties (crew.log ++ [e]) b id := hover.mono
  obtain ⟨i, j, d, before, hduty, hj, hd, hbj, hrest⟩ := hlater
  exact ⟨i, j, d, before, hduty, hj, hd, hab.symm.trans hbj, hrest⟩

theorem Crew.Linked.step (h : crew.Linked duties) (manned : crew.Manned (custody duties) duties)
    (step : Crew.Step nobody crew crew') : crew'.Linked duties := by
  obtain ⟨e, m, rest, rfl, -, acts⟩ := manned.acts step
  cases acts with
  | announce i announces => exact h.retained announces.retains
  | @turn i j stage stage' c x m hduty holds turn =>
    rcases turn.retains (i := i) with retains | ⟨d, w, p, rfl, rfl, he⟩
    · exact h.retained retains
    · obtain ⟨hid, hloaded, hstored⟩ := holds
      intro a ha id haid
      rcases List.mem_append.mp ha with ha | ha
      · exact (h a ha id haid).imp_right Overtaken.mono
      · obtain rfl := List.mem_singleton.mp ha
        obtain rfl : d.id = id := Option.some.inj haid
        refine hstored.imp_right fun hbereft => ?_
        refine ⟨i, j, d, crew.log, hduty, hid.symm, rfl, rfl, hbereft, ?_⟩
        rw [← he]
        exact List.prefix_rfl

theorem Crew.linked_reached (linked : m.Linked)
    (run : Relation.ReflTransGen (Crew.Step nobody) (Crew.assign m duties) crew) :
    crew.Linked duties := by
  induction run with
  | refl => exact fun a ha id hid => .inl (linked a ha id hid)
  | tail run step ih =>
    exact ih.step (Crew.manned_reached (custody_kept duties) (fun _ _ _ => trivial) run) step

/-- Two workers with the same delivery are needed for one to be overtaken. -/
theorem Overtaken.not_apart {a : Attempt} {id : Uuid} (h : Overtaken duties log a id) :
    ¬ (duties.flatMap Duty.deliveryIds).Nodup := by
  intro apart
  obtain ⟨i, j, d, before, hi, hj, hd, -, ⟨k, j', hne, hk, hj', -⟩, -⟩ := h
  refine Duty.apart apart hne hk hi (a := id) ?_ ?_
  · rw [← hd, ← hj']
    exact List.mem_cons_self
  · rw [← hj]
    exact List.mem_cons_self

/-- However the calls of announcements and deliveries are mixed, a reference is to a stored delivery
unless its worker was overtaken, which does not happen where each delivery has one worker. -/
theorem references_stored_unless_overtaken {m : Memory} (linked : m.Linked) (duties : List Duty)
    {crew : Crew} (run : Relation.ReflTransGen (Crew.Step nobody) (Crew.assign m duties) crew) :
    (∀ a ∈ crew.memory.attempts, ∀ id, a.deliveryId = some id →
      (crew.memory.delivery? id).isSome ∨ Overtaken duties crew.log a id) ∧
    ((duties.flatMap Duty.deliveryIds).Nodup → crew.memory.Linked) := by
  have h : crew.Linked duties := Crew.linked_reached linked run
  refine ⟨h, fun apart a ha id hid => ?_⟩
  exact (h a ha id hid).resolve_right fun hover => hover.not_apart apart

namespace Sample

def rivals : List Job := [⟨fresh 5, .ofNat 3, none⟩, ⟨fresh 6, .ofNat 3, none⟩]

/-- The first job has its delivery, webhook and payload when the second one gets through. -/
def overtaking : List (Nat × SendReport) :=
  List.replicate 3 (0, report .success) ++ List.replicate 8 (1, report .success) ++
    [(0, report .success)]

theorem memory_sound : memory.Sound where
  payloads := by decide
  unfinished := by decide
  references a ha id hid := by
    rw [List.mem_singleton.mp ha] at hid
    rw [← Option.some.inj hid]
    rfl

end Sample

open Sample

theorem references_stored_unless_overtaken_rivals :
    Overtaken (rivals.map .deliver)
        ((Crew.assign memory (rivals.map .deliver)).play overtaking).log
        (newAttempt (fresh 5) (.ofNat 3) none) (.ofNat 3) ∧
      ((Crew.assign memory [.deliver ⟨fresh 5, .ofNat 3, none⟩]).play overtaking).memory.Linked := by
  have rivals_run := Crew.play_reached nobody (Crew.assign memory (rivals.map .deliver)) overtaking
  have single_run := Crew.play_reached nobody
    (Crew.assign memory [.deliver ⟨fresh 5, .ofNat 3, none⟩]) overtaking
  constructor
  · have h := (references_stored_unless_overtaken memory_sound.references _ rivals_run).1
    refine (h (newAttempt (fresh 5) (.ofNat 3) none) ?_ _ rfl).resolve_left ?_
    · decide
    · decide
  · exact (references_stored_unless_overtaken memory_sound.references _ single_run).2 (by decide)

/-- A reference can be to a delivery that is gone, also where all that is made up is new. -/
theorem overtaken_reference_dangles :
    ¬ ∀ (m : Memory) (jobs : List Job) (crew : Crew), m.Sound →
      (jobs.map (·.fresh.attemptId)).Nodup →
      (∀ j ∈ jobs, ∀ a ∈ m.attempts, a.id ≠ j.fresh.attemptId) →
      Relation.ReflTransGen (Crew.Step nobody) (Crew.start m jobs) crew → crew.memory.Linked := by
  intro h
  have hstored := h memory rivals ((Crew.start memory rivals).play overtaking) memory_sound
    (by decide) (by decide) (Crew.play_reached _ _ _) (newAttempt (fresh 5) (.ofNat 3) none)
    (by decide) (.ofNat 3) rfl
  revert hstored
  decide

end ShopRelay.Tracker
