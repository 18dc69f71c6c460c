import Mathlib.Logic.Relation
import ShopRelay.Proofs.Tracker.Delivering

/-!
Jobs that run side by side on one memory. Each call of a job is answered at once, and between two of
its calls any other job may make one.
-/

namespace ShopRelay.Tracker

/-- A call that was answered, and the worker that made it. -/
structure Event where
  worker : Nat
  call : outside.Call
  reply : outside.Reply call

/-- The reports that came back. -/
def Event.heard (e : Event) : List SendReport := (exchange e.call e.reply).map Prod.snd

/-- The statuses that were saved for a delivery. -/
def Event.written (id : Uuid) : Event → List DeliveryStatus
  | ⟨_, .inl (.saveDeliveryStatus other status), .ok _⟩ => if other = id then [status] else []
  | _ => []

/-- What is left of each job, over the memory they share. -/
structure Crew where
  memory : Memory
  workers : List (Task outside (Option DeliveryStatus))
  log : List Event

namespace Crew

def start (m : Memory) (jobs : List Job) : Crew := ⟨m, jobs.map Job.task, []⟩

def heard (crew : Crew) : List SendReport := crew.log.flatMap Event.heard

def written (crew : Crew) (id : Uuid) : List DeliveryStatus := crew.log.flatMap (Event.written id)

/-- The crew after a worker's call. -/
def worked (crew : Crew) (m : Memory) (e : Event)
    (rest : Task outside (Option DeliveryStatus)) : Crew where
  memory := m
  workers := crew.workers.set e.worker rest
  log := crew.log ++ [e]

/-- One call of one worker, or a change of the memory by others. -/
inductive Step (others : Memory → Memory → Prop) (crew : Crew) : Crew → Prop where
  | work {i : Nat} {c : outside.Call}
      {next : outside.Reply c → Task outside (Option DeliveryStatus)} {x : outside.Reply c}
      {m : Memory} (turn : crew.workers[i]? = some (Program.call c next))
      (answers : Answers crew.memory c x m) :
    Step others crew (crew.worked m ⟨i, c, x⟩ (next x))
  | other {m : Memory} (h : others crew.memory m) : Step others crew { crew with memory := m }

theorem heard_worked (crew : Crew) (m : Memory) (e : Event)
    (rest : Task outside (Option DeliveryStatus)) :
    (crew.worked m e rest).heard = crew.heard ++ e.heard := by
  simp [heard, worked]

theorem written_worked (crew : Crew) (m : Memory) (e : Event)
    (rest : Task outside (Option DeliveryStatus)) (id : Uuid) :
    (crew.worked m e rest).written id = crew.written id ++ e.written id := by
  simp [written, worked]

/-- After a call the worker has moved on and the others are where they were. -/
theorem worker_worked {crew : Crew} {m : Memory} {e : Event}
    {rest w : Task outside (Option DeliveryStatus)} {i : Nat}
    (h : (crew.worked m e rest).workers[i]? = some w) :
    i = e.worker ∧ w = rest ∨ i ≠ e.worker ∧ crew.workers[i]? = some w := by
  change (crew.workers.set e.worker rest)[i]? = some w at h
  rw [List.getElem?_set] at h
  split at h
  · rename_i he
    split at h
    · exact .inl ⟨he.symm, (Option.some.inj h).symm⟩
    · cases h
  · rename_i hne
    exact .inr ⟨fun he => hne he.symm, h⟩

theorem worked_self {crew : Crew} {m : Memory} {e : Event}
    {rest w : Task outside (Option DeliveryStatus)} (h : crew.workers[e.worker]? = some w) :
    (crew.worked m e rest).workers[e.worker]? = some rest := by
  obtain ⟨hlt, -⟩ := List.getElem?_eq_some_iff.mp h
  exact List.getElem?_set_self hlt

theorem worked_other {crew : Crew} {m : Memory} {e : Event}
    {rest : Task outside (Option DeliveryStatus)} {i : Nat} (h : i ≠ e.worker) :
    (crew.worked m e rest).workers[i]? = crew.workers[i]? :=
  List.getElem?_set_ne (fun he => h he.symm)

/-- The crew after the next call of a worker; should it be a sending, the target answers so. -/
def next (crew : Crew) (turn : Nat × SendReport) : Crew :=
  match crew.workers[turn.1]? with
  | some (.call (.inl c) next) =>
    crew.worked (Memory.reply c crew.memory).2 ⟨turn.1, .inl c, (Memory.reply c crew.memory).1⟩
      (next (Memory.reply c crew.memory).1)
  | some (.call (.inr x) next) =>
    crew.worked crew.memory ⟨turn.1, .inr x, turn.2⟩ (next turn.2)
  | _ => crew

def play (crew : Crew) (turns : List (Nat × SendReport)) : Crew := turns.foldl next crew

/-- Who has a call to make can make it next. -/
theorem next_step (others : Memory → Memory → Prop) {crew : Crew} {turn : Nat × SendReport}
    (h : ∃ c next, crew.workers[turn.1]? = some (Program.call c next)) :
    Step others crew (crew.next turn) := by
  obtain ⟨c, rest, hw⟩ := h
  unfold next
  rw [hw]
  cases c with
  | inl c => exact .work hw (.stored _)
  | inr x => exact .work hw (.sent _ _)

theorem next_reached (others : Memory → Memory → Prop) (crew : Crew) (turn : Nat × SendReport) :
    Relation.ReflTransGen (Step others) crew (crew.next turn) := by
  cases hw : crew.workers[turn.1]? with
  | none =>
    unfold next
    rw [hw]
  | some w =>
    cases w with
    | done result =>
      unfold next
      rw [hw]
    | call c rest => exact .single (next_step others ⟨c, rest, hw⟩)

/-- Every schedule can happen. -/
theorem play_reached (others : Memory → Memory → Prop) (crew : Crew)
    (turns : List (Nat × SendReport)) :
    Relation.ReflTransGen (Step others) crew (crew.play turns) := by
  induction turns generalizing crew with
  | nil => exact .refl
  | cons turn turns ih => exact (next_reached others crew turn).trans (ih _)

end Crew

namespace Memory

variable {m : Memory}

/-- No call takes an attempt away, or moves it. -/
theorem attempt_ids_reply (c : StoreCall) :
    ∃ ids, (reply c m).2.attempts.map Attempt.id = m.attempts.map Attempt.id ++ ids := by
  cases c with
  | insertAttempt a => exact ⟨[a.id], List.map_append⟩
  | deleteDelivery id =>
    refine ⟨[], ?_⟩
    change (m.attempts.map (unlink id)).map Attempt.id = _
    rw [List.map_map, List.append_nil]
    exact List.map_congr_left fun a _ => unlink_id a
  | saveAttemptOutcome a =>
    refine ⟨[], ?_⟩
    rw [List.append_nil]
    cases h : m.attempt? a.id with
    | none => rw [reply_saveOutcome_lost h]
    | some b =>
      rw [reply_saveOutcome h]
      exact updateFirst_ids a m.attempts
  | saveDeliveryStatus id status =>
    refine ⟨[], ?_⟩
    rw [List.append_nil]
    cases h : m.delivery? id with
    | none => rw [reply_saveStatus_lost h]
    | some d =>
      rw [reply_saveStatus h]
      rfl
  | insertEvent p ds =>
    refine ⟨[], ?_⟩
    rw [List.append_nil]
    rcases reply_insertEvent (m := m) p ds with h | h
    · rw [h]
    · rw [h]
      rfl
  | _ => exact ⟨[], (List.append_nil _).symm⟩

theorem attempt_reply {id : Uuid} (c : StoreCall) (h : (m.attempt? id).isSome) :
    ((reply c m).2.attempt? id).isSome := by
  rw [attempt_isSome] at h ⊢
  obtain ⟨ids, hids⟩ := attempt_ids_reply (m := m) c
  rw [hids]
  exact List.mem_append_left _ h

end Memory

theorem Answers.attempt {m m' : Memory} {c : outside.Call} {x : outside.Reply c} {id : Uuid}
    (h : Answers m c x m') (ha : (m.attempt? id).isSome) : (m'.attempt? id).isSome := by
  cases h with
  | stored c => exact Memory.attempt_reply c ha
  | sent => exact ha

end ShopRelay.Tracker
