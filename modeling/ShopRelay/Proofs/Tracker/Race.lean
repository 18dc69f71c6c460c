import ShopRelay.Proofs.Tracker.Crew
import ShopRelay.Proofs.Tracker.Serving

/-!
Jobs that race for one delivery. Each decides by its own copy of it, yet whatever the order of their
calls, the delivery is gone in the end exactly if some target answered success.
-/

namespace ShopRelay.Tracker

/-- Calls that neither store nor remove a delivery, nor save its status. -/
def StoreCall.Spares (id : Uuid) : StoreCall → Prop
  | .insertDeliveries ds => ∀ d ∈ ds, d.id ≠ id
  | .insertEvent _ ds => ∀ d ∈ ds, d.id ≠ id
  | .saveDeliveryStatus other _ => other ≠ id
  | .deleteDelivery other => other ≠ id
  | _ => True

/-- What others may do to a memory while some jobs race for a delivery. -/
inductive Memory.Aside (id : Uuid) (m : Memory) : Memory → Prop where
  | call (c : StoreCall) (h : c.Spares id) : Aside id m (Memory.reply c m).2
  | addWebhook (w : Webhook) : Aside id m (m.addWebhook w)

namespace Memory

variable {m m' : Memory} {id k : Uuid}

theorem delivery_putDeliveries_other {ds : List Delivery} (h : ∀ d ∈ ds, d.id ≠ id) :
    (m.putDeliveries ds).delivery? id = m.delivery? id :=
  find_puts_other Delivery.id id h

theorem delivery_reply_other {c : StoreCall} (h : c.Spares id) :
    (reply c m).2.delivery? id = m.delivery? id := by
  cases c with
  | insertDeliveries ds => exact delivery_putDeliveries_other h
  | insertEvent p ds =>
    rcases reply_insertEvent (m := m) p ds with he | he
    · rw [he]
    · rw [he]
      exact delivery_putDeliveries_other h
  | saveDeliveryStatus other status =>
    cases hd : m.delivery? other with
    | none => rw [reply_saveStatus_lost hd]
    | some d =>
      rw [reply_saveStatus hd]
      exact delivery_setStatus_other m h.symm
  | deleteDelivery other =>
    refine (delivery_removeDelivery m other id).trans ?_
    rw [if_neg h.symm]
  | saveAttemptOutcome a =>
    cases ha : m.attempt? a.id with
    | none => rw [reply_saveOutcome_lost ha]
    | some b =>
      rw [reply_saveOutcome ha]
      rfl
  | _ => rfl

theorem Aside.delivery (h : m.Aside id m') : m'.delivery? id = m.delivery? id := by
  cases h with
  | call c hc => exact delivery_reply_other hc
  | addWebhook w => rfl

theorem Aside.attempt (h : m.Aside id m') (ha : (m.attempt? k).isSome) :
    (m'.attempt? k).isSome := by
  cases h with
  | call c => exact attempt_reply c ha
  | addWebhook w => exact ha

end Memory

namespace Stage

/-- What a job knows of a delivery at each stage, whatever others have done since. -/
def Fits (id : Uuid) (m : Memory) (heard : List SendReport) : Stage → Prop
  | .start => True
  | .loaded d => d.id = id
  | .untargeted d => d.id = id
  | .targeted d _ => d.id = id
  | .ready d _ _ => d.id = id
  | .attempted d _ _ a => d.id = id ∧ (m.attempt? a.id).isSome
  | .answered d a r => d.id = id ∧ (m.attempt? a.id).isSome ∧ r ∈ heard
  | .recorded d r => d.id = id ∧ r ∈ heard
  | .succeeded d r => d.id = id ∧ r ∈ heard ∧ r.status = .success
  | .ended _ => True

/-- A job that was answered success and has not removed the delivery yet. -/
def Owes : Stage → Prop
  | .answered _ _ r => r.status = .success
  | .recorded _ r => r.status = .success
  | .succeeded _ r => r.status = .success
  | _ => False

variable {id : Uuid} {m m' : Memory} {heard heard' : List SendReport} {stage stage' : Stage}
  {j : Job} {c : outside.Call} {x : outside.Reply c}

theorem Fits.mono (h : stage.Fits id m heard)
    (attempts : ∀ k, (m.attempt? k).isSome → (m'.attempt? k).isSome) (more : heard ⊆ heard') :
    stage.Fits id m' heard' := by
  cases stage with
  | start => trivial
  | loaded => exact h
  | untargeted => exact h
  | targeted => exact h
  | ready => exact h
  | attempted => exact ⟨h.1, attempts _ h.2⟩
  | answered => exact ⟨h.1, attempts _ h.2.1, more h.2.2⟩
  | recorded => exact ⟨h.1, more h.2⟩
  | succeeded => exact ⟨h.1, more h.2.1, h.2.2⟩
  | ended => trivial

/-- A turn leads from a stage that fits to one that fits. -/
theorem Fits.turn {i : Nat} (hid : j.deliveryId = id) (h : stage.Fits id m heard)
    (ht : Turn j m stage c x stage' m') : stage'.Fits id m' (heard ++ Event.heard ⟨i, c, x⟩) := by
  cases ht with
  | absent => trivial
  | load hd => exact (Memory.id_of_delivery hd).trans hid
  | untarget => exact h
  | target => exact h
  | giveUpLost => trivial
  | giveUp => trivial
  | payloadLost => trivial
  | prepare => exact h
  | attempt => exact ⟨h, Memory.attempt_addAttempt m _⟩
  | send r => exact ⟨h.1, h.2, List.mem_append_right _ List.mem_cons_self⟩
  | recordLost => trivial
  | record => exact ⟨h.1, List.mem_append_left _ h.2.2⟩
  | saveLost => trivial
  | saveSuccess _ hr => exact ⟨h.1, List.mem_append_left _ h.2, hr⟩
  | save => trivial
  | clear => trivial

/-- A job that owes the removal still does after its turn, or the delivery is gone. -/
theorem Owes.turn (h : stage.Fits id m heard) (ho : stage.Owes)
    (ht : Turn j m stage c x stage' m') : stage'.Owes ∨ m'.delivery? id = none := by
  cases ht with
  | recordLost ha =>
    have hstored := h.2.1
    rw [ha] at hstored
    cases hstored
  | record => exact .inl ho
  | saveLost hd =>
    rw [h.1] at hd
    exact .inr hd
  | saveSuccess _ hr => exact .inl hr
  | save _ hr => exact absurd ho hr
  | clear =>
    refine .inr ?_
    rw [h.1, Memory.delivery_removeDelivery, if_pos rfl]
  | _ => exact ho.elim

/-- Who hears of success owes the removal. -/
theorem owes_of_heard {i : Nat} {r : SendReport} (ht : Turn j m stage c x stage' m')
    (hr : r ∈ Event.heard ⟨i, c, x⟩) (success : r.status = .success) : stage'.Owes := by
  cases ht with
  | send r' =>
    rw [List.mem_singleton.mp hr] at success
    exact success
  | _ => cases hr

/-- What a turn of a job does to its delivery. -/
inductive Writes (id : Uuid) (m : Memory) (heard : List SendReport) :
    List DeliveryStatus → Memory → Prop where
  | nothing {m' : Memory} (same : m'.delivery? id = m.delivery? id) : Writes id m heard [] m'
  | status {m' : Memory} (s : DeliveryStatus) (known : s = .failed ∨ ∃ r ∈ heard, s = r.status)
      (now : m'.delivery? id = (m.delivery? id).map fun d => { d with status := s }) :
    Writes id m heard [s] m'
  | removal {m' : Memory} (r : SendReport) (known : r ∈ heard) (success : r.status = .success)
      (now : m'.delivery? id = none) : Writes id m heard [] m'

namespace Writes

variable {ss : List DeliveryStatus} {d : Delivery}

theorem absent (h : Writes id m heard ss m') (hd : m.delivery? id = none) :
    m'.delivery? id = none := by
  cases h with
  | nothing same => exact same.trans hd
  | status s _ now =>
    rw [now, hd]
    rfl
  | removal _ _ _ now => exact now

theorem gone (h : Writes id m heard ss m') (hd : m'.delivery? id = none) :
    m.delivery? id = none ∨ ∃ r ∈ heard, r.status = .success := by
  cases h with
  | nothing same => exact .inl (same.symm.trans hd)
  | status s _ now =>
    rw [now, Option.map_eq_none_iff] at hd
    exact .inl hd
  | removal r known success => exact .inr ⟨r, known, success⟩

theorem known (h : Writes id m heard ss m') :
    ∀ s ∈ ss, s = .failed ∨ ∃ r ∈ heard, s = r.status := by
  intro s hs
  cases h with
  | nothing => cases hs
  | status s' known =>
    rw [List.mem_singleton.mp hs]
    exact known
  | removal => cases hs

/-- If the status is the last one written, it still is. -/
theorem last (h : Writes id m heard ss m') (before : List DeliveryStatus)
    (hm : ∀ e, m.delivery? id = some e → e = { d with status := before.getLastD d.status }) :
    ∀ e, m'.delivery? id = some e →
      e = { d with status := (before ++ ss).getLastD d.status } := by
  intro e he
  cases h with
  | nothing same =>
    rw [List.append_nil]
    exact hm e (same.symm.trans he)
  | status s _ now =>
    rw [now] at he
    obtain ⟨e', he', rfl⟩ := Option.map_eq_some_iff.mp he
    rw [hm e' he', List.getLastD_concat]
  | removal _ _ _ now =>
    rw [now] at he
    cases he

end Writes

theorem Writes.save {i : Nat} {s : DeliveryStatus}
    (known : s = .failed ∨ ∃ r ∈ heard, s = r.status) :
    Writes id m heard (Event.written id ⟨i, .inl (.saveDeliveryStatus id s), .ok ()⟩)
      (m.setStatus id s) := by
  rw [Event.written, if_pos rfl]
  exact .status s known (Memory.delivery_setStatus_map m)

theorem Fits.writes {i : Nat} (h : stage.Fits id m heard) (ht : Turn j m stage c x stage' m') :
    Writes id m heard (Event.written id ⟨i, c, x⟩) m' := by
  cases ht with
  | giveUp =>
    obtain rfl := h
    exact .save (.inl rfl)
  | saveSuccess =>
    obtain ⟨rfl, hr⟩ := h
    exact .save (.inr ⟨_, hr, rfl⟩)
  | save =>
    obtain ⟨rfl, hr⟩ := h
    exact .save (.inr ⟨_, hr, rfl⟩)
  | clear =>
    obtain ⟨rfl, hr, success⟩ := h
    refine .removal _ hr success ?_
    rw [Memory.delivery_removeDelivery, if_pos rfl]
  | _ => exact .nothing rfl

end Stage

namespace Crew

variable {id : Uuid} {d : Delivery} {crew crew' : Crew} {stage : Stage}
  {w : Task outside (Option DeliveryStatus)}

/-- A worker that is at a stage of a job on the delivery. -/
structure Post (crew : Crew) (id : Uuid) (w : Task outside (Option DeliveryStatus))
    (stage : Stage) : Prop where
  follows : ∃ j : Job, j.deliveryId = id ∧ Follows j w stage
  fits : stage.Fits id crew.memory crew.heard

/-- What holds of a race for a delivery after any number of calls. A success that was heard is owed
to the delivery by someone until it is gone. -/
structure Race (id : Uuid) (d : Delivery) (crew : Crew) : Prop where
  posts : ∀ (i : Nat) w, crew.workers[i]? = some w → ∃ stage, crew.Post id w stage
  gone : crew.memory.delivery? id = none → ∃ r ∈ crew.heard, r.status = .success
  owed : (∃ r ∈ crew.heard, r.status = .success) → crew.memory.delivery? id = none ∨
    ∃ (i : Nat) (w : _) (stage : Stage), crew.workers[i]? = some w ∧ crew.Post id w stage ∧
      stage.Owes
  last : ∀ e, crew.memory.delivery? id = some e →
    e = { d with status := (crew.written id).getLastD d.status }
  known : ∀ s ∈ crew.written id, s = .failed ∨ ∃ r ∈ crew.heard, s = r.status

theorem Post.mono (h : crew.Post id w stage)
    (attempts : ∀ k, (crew.memory.attempt? k).isSome → (crew'.memory.attempt? k).isSome)
    (more : crew.heard ⊆ crew'.heard) : crew'.Post id w stage :=
  ⟨h.follows, h.fits.mono attempts more⟩

theorem race_start {m : Memory} (stored : m.delivery? id = some d) (jobs : List Job)
    (same : ∀ j ∈ jobs, j.deliveryId = id) : Race id d (start m jobs) where
  posts i w hw := by
    obtain ⟨j, hj, rfl⟩ := List.mem_map.mp (List.mem_of_getElem? hw)
    exact ⟨.start, ⟨j, same j hj, task_follows j⟩, trivial⟩
  gone hd := by
    rw [show (start m jobs).memory = m from rfl, stored] at hd
    cases hd
  owed h := by
    obtain ⟨r, hr, -⟩ := h
    cases hr
  last e he := Option.some.inj (he.symm.trans stored)
  known s hs := by cases hs

theorem Race.other {m : Memory} (h : Race id d crew) (ha : crew.memory.Aside id m) :
    Race id d { crew with memory := m } where
  posts i w hw := by
    obtain ⟨stage, hpost⟩ := h.posts i w hw
    exact ⟨stage, hpost.mono (fun _ => ha.attempt) (List.Subset.refl _)⟩
  gone hd := h.gone (ha.delivery.symm.trans hd)
  owed hs := by
    rcases h.owed hs with hd | ⟨i, w, stage, hw, hpost, howes⟩
    · exact .inl (ha.delivery.trans hd)
    · exact .inr ⟨i, w, stage, hw, hpost.mono (fun _ => ha.attempt) (List.Subset.refl _), howes⟩
  last e he := h.last e (ha.delivery.symm.trans he)
  known := h.known

section Work

variable {i : Nat} {c : outside.Call} {next : outside.Reply c → Task outside (Option DeliveryStatus)}
  {x : outside.Reply c} {m : Memory}

theorem Post.turn (h : crew.Post id (Program.call c next) stage)
    (answers : Answers crew.memory c x m) :
    ∃ j stage', Turn j crew.memory stage c x stage' m ∧
      (crew.worked m ⟨i, c, x⟩ (next x)).Post id (next x) stage' := by
  obtain ⟨⟨j, hj, hfollows⟩, hfits⟩ := h
  obtain ⟨after, moves, hafter⟩ := hfollows.moves
  have hturn := turn_of_answer moves answers
  refine ⟨j, after x, hturn, ⟨j, hj, hafter x⟩, ?_⟩
  rw [heard_worked]
  exact hfits.turn hj hturn

theorem Post.worked (h : crew.Post id w stage) (answers : Answers crew.memory c x m)
    (rest : Task outside (Option DeliveryStatus)) :
    (crew.worked m ⟨i, c, x⟩ rest).Post id w stage := by
  refine h.mono (fun _ => answers.attempt) ?_
  rw [heard_worked]
  exact List.subset_append_left _ _

theorem Race.work (h : Race id d crew) (hi : crew.workers[i]? = some (Program.call c next))
    (answers : Answers crew.memory c x m) :
    Race id d (crew.worked m ⟨i, c, x⟩ (next x)) := by
  obtain ⟨stage, hpost⟩ := h.posts i _ hi
  obtain ⟨j, stage', hturn, hpost'⟩ := hpost.turn (i := i) answers
  have hwrites : Stage.Writes id crew.memory crew.heard (Event.written id ⟨i, c, x⟩) m :=
    hpost.fits.writes hturn
  refine ⟨?_, ?_, ?_, ?_, ?_⟩
  -- The worker goes on to its next stage; for the others there is only more that was heard.
  · intro k w hw
    rcases worker_worked hw with ⟨rfl, rfl⟩ | ⟨-, hw⟩
    · exact ⟨stage', hpost'⟩
    · obtain ⟨stage, hpost⟩ := h.posts k w hw
      exact ⟨stage, hpost.worked answers _⟩
  · intro hd
    obtain ⟨r, hr, success⟩ : ∃ r ∈ crew.heard, r.status = .success := by
      rcases hwrites.gone hd with hd | hheard
      · exact h.gone hd
      · exact hheard
    rw [heard_worked]
    exact ⟨r, List.mem_append_left _ hr, success⟩
  · rw [heard_worked]
    rintro ⟨r, hr, success⟩
    rcases List.mem_append.mp hr with hr | hr
    · rcases h.owed ⟨r, hr, success⟩ with hd | ⟨k, w, stage, hw, hpost, howes⟩
      · exact .inl (hwrites.absent hd)
      -- The debtor keeps its debt, unless it has just paid it.
      · by_cases hk : k = i
        · subst hk
          obtain rfl := Option.some.inj (hw.symm.trans hi)
          obtain ⟨j, stage', hturn, hpost'⟩ := hpost.turn (i := k) answers
          rcases howes.turn hpost.fits hturn with howes' | hd
          · exact .inr ⟨k, _, stage', worked_self hi, hpost', howes'⟩
          · exact .inl hd
        · exact .inr ⟨k, w, stage, (worked_other hk).trans hw, hpost.worked answers _, howes⟩
    · exact .inr ⟨i, _, stage', worked_self hi, hpost', Stage.owes_of_heard hturn hr success⟩
  · rw [written_worked]
    exact hwrites.last _ h.last
  · rw [written_worked, heard_worked]
    intro s hs
    have hknown : s = .failed ∨ ∃ r ∈ crew.heard, s = r.status := by
      rcases List.mem_append.mp hs with hs | hs
      · exact h.known s hs
      · exact hwrites.known s hs
    refine hknown.imp_right fun ⟨r, hr, heq⟩ => ?_
    exact ⟨r, List.mem_append_left _ hr, heq⟩

end Work

theorem Race.step (h : Race id d crew) (hs : Step (Memory.Aside id) crew crew') :
    Race id d crew' := by
  cases hs with
  | work hi answers => exact h.work hi answers
  | other ha => exact h.other ha

theorem Race.steps (h : Race id d crew)
    (hs : Relation.ReflTransGen (Step (Memory.Aside id)) crew crew') : Race id d crew' := by
  induction hs with
  | refl => exact h
  | tail _ hstep ih => exact ih.step hstep

/-- Once all have returned, nobody owes anything. -/
theorem Race.settled (h : Race id d crew)
    (returned : ∀ w ∈ crew.workers, ∃ result, w = Program.done result) :
    crew.memory.delivery? id = none ↔ ∃ r ∈ crew.heard, r.status = .success := by
  refine ⟨h.gone, fun hs => ?_⟩
  rcases h.owed hs with hd | ⟨i, w, stage, hw, hpost, howes⟩
  · exact hd
  · obtain ⟨result, rfl⟩ := returned w (List.mem_of_getElem? hw)
    obtain ⟨j, -, hfollows⟩ := hpost.follows
    rw [hfollows.ended_eq] at howes
    exact howes.elim

end Crew

/-- Any number of jobs on one delivery, in any order of their calls: when all have returned, the
delivery is gone exactly if some target answered success. If it is there, nothing but its status has
changed, and that only to failed or to what a target answered. -/
theorem race_outcome {m : Memory} {id : Uuid} {d : Delivery} (stored : m.delivery? id = some d)
    (jobs : List Job) (same : ∀ j ∈ jobs, j.deliveryId = id) {crew : Crew}
    (run : Relation.ReflTransGen (Crew.Step (Memory.Aside id)) (Crew.start m jobs) crew)
    (returned : ∀ w ∈ crew.workers, ∃ result, w = Program.done result) :
    (crew.memory.delivery? id = none ↔ ∃ r ∈ crew.heard, r.status = .success) ∧
      ∀ e, crew.memory.delivery? id = some e →
        e = { d with status := e.status } ∧
        (crew.written id = [] → e.status = d.status) ∧
        (crew.written id ≠ [] → e.status = .failed ∨ ∃ r ∈ crew.heard, e.status = r.status) := by
  have h := (Crew.race_start stored jobs same).steps run
  refine ⟨h.settled returned, fun e he => ?_⟩
  have hlast := h.last e he
  refine ⟨?_, fun hnone => ?_, fun hsome => ?_⟩
  · rw [hlast]
  · rw [hlast, hnone]
    rfl
  · have hstatus : e.status = (crew.written id).getLast hsome := by
      rw [hlast]
      exact List.getLastD_eq_getLast?.trans (by rw [List.getLast?_eq_some_getLast hsome]; rfl)
    rw [hstatus]
    exact h.known _ (List.getLast_mem hsome)

namespace Sample

def racers : List Job := [⟨fresh 5, .ofNat 3, none⟩, ⟨fresh 6, .ofNat 3, none⟩]

/-- Two jobs take turns, and the target answers the first one success. -/
def turns : List (Nat × SendReport) :=
  (List.replicate 8 [(0, report .success), (1, report .failed)]).flatten

end Sample

open Sample

theorem race_outcome_success :
    ((Crew.start memory racers).play turns).memory.delivery? (.ofNat 3) = none := by
  have returned : ∀ w ∈ ((Crew.start memory racers).play turns).workers,
      ∃ result, w = Program.done result := by
    have hworkers : ((Crew.start memory racers).play turns).workers =
        [Program.done (.ok (some .success)), Program.done (.ok (some .failed))] :=
      rfl
    intro w hw
    rw [hworkers] at hw
    rcases List.mem_cons.mp hw with rfl | hw
    · exact ⟨_, rfl⟩
    · exact ⟨_, List.mem_singleton.mp hw⟩
  exact (race_outcome (d := delivery .failed) rfl racers (by decide) (Crew.play_reached _ _ turns)
    returned).1.mpr ⟨report .success, by decide, rfl⟩

end ShopRelay.Tracker
