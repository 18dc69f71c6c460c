import Mathlib.Data.List.Nodup
import ShopRelay.Proofs.Tracker.Crew
import ShopRelay.Proofs.Tracker.Session

/-!
Crews in which some workers announce events while others deliver. What is said of a worker at its
stage, and is kept by its own turns and by whatever the others do meanwhile, holds in every state
that the crew reaches.
-/

namespace ShopRelay.Tracker

/-- What a worker is to do. -/
inductive Duty where
  | announce (fresh : Fresh) (eventType : String) (payload : Json.Value)
  | deliver (job : Job)

namespace Duty

def task : Duty → Task outside (Option DeliveryStatus)
  | .announce fresh eventType payload =>
    Task.left (triggerEvent fresh eventType payload) >>= fun _ => pure none
  | .deliver j => j.task

/-- The ids that are made up for attempts. -/
def attemptIds : Duty → List Uuid
  | .announce .. => []
  | .deliver j => [j.fresh.attemptId]

/-- Where no id occurs twice, different workers have different ids. -/
theorem apart {duties : List Duty} {ids : Duty → List Uuid} (h : (duties.flatMap ids).Nodup)
    {i k : Nat} {x y : Duty} (hne : i ≠ k) (hx : duties[i]? = some x) (hy : duties[k]? = some y) :
    (ids x).Disjoint (ids y) := by
  obtain ⟨hi, rfl⟩ := List.getElem?_eq_some_iff.mp hx
  obtain ⟨hk, rfl⟩ := List.getElem?_eq_some_iff.mp hy
  have hapart := List.pairwise_iff_getElem.mp (List.nodup_flatMap.mp h).2
  rcases Nat.lt_or_gt_of_ne hne with hlt | hlt
  · exact hapart i k hi hk hlt
  · exact fun _ hx hy => hapart k i hk hi hlt hy hx

end Duty

def Crew.assign (m : Memory) (duties : List Duty) : Crew := ⟨m, duties.map Duty.task, []⟩

/-- Nobody but the crew changes the memory. -/
def nobody (_ _ : Memory) : Prop := False

/-- The calls by which an event is announced. -/
inductive Announces (m : Memory) : (c : outside.Call) → outside.Reply c → Memory → Prop where
  | look (eventType : String) :
    Announces m (.inl (.webhooksForEvent eventType))
      (.ok (m.webhooks.filter (·.subscribesTo eventType))) m
  | store (p : Payload) (ds : List Delivery) :
    Announces m (.inl (.insertEvent p ds)) (Memory.reply (.insertEvent p ds) m).1
      (Memory.reply (.insertEvent p ds) m).2

/-- What is left of an announcement. -/
inductive Announcing : Task outside (Option DeliveryStatus) → Prop where
  | ended (result : Except Fault (Option DeliveryStatus)) : Announcing (Program.done result)
  | look {eventType : String}
      {next : outside.Reply (.inl (.webhooksForEvent eventType)) →
        Task outside (Option DeliveryStatus)}
      (then_ : ∀ r, Announcing (next r)) : Announcing (Program.call _ next)
  | store {p : Payload} {ds : List Delivery}
      {next : outside.Reply (.inl (.insertEvent p ds)) → Task outside (Option DeliveryStatus)}
      (then_ : ∀ r, Announcing (next r)) : Announcing (Program.call _ next)

theorem announcing (fresh : Fresh) (eventType : String) (payload : Json.Value) :
    Announcing (Duty.announce fresh eventType payload).task := by
  refine Announcing.look fun r => ?_
  rcases r with e | ws
  · exact .ended (.error e)
  refine .store fun r => ?_
  rcases r with e | stored
  · exact .ended (.error e)
  · exact .ended (.ok none)

theorem Announcing.turn {m m' : Memory} {c : outside.Call} {x : outside.Reply c}
    {next : outside.Reply c → Task outside (Option DeliveryStatus)}
    (h : Announcing (Program.call c next)) (answers : Answers m c x m') :
    Announces m c x m' ∧ Announcing (next x) := by
  cases h with
  | look then_ =>
    cases answers
    exact ⟨.look _, then_ _⟩
  | store then_ =>
    cases answers
    exact ⟨.store _ _, then_ _⟩

/-- What is said of a worker at a stage of its job, given the memory and what was called so far. -/
abbrev Charge : Type := Memory → List Event → Nat → Job → Stage → Prop

/-- A charge that is kept by the turns of its worker, those of the others and announcements. -/
structure Charge.Kept (P : Charge) (duties : List Duty) : Prop where
  own : ∀ {m m' log i j stage stage' c x}, P m log i j stage → Turn j m stage c x stage' m' →
    P m' (log ++ [⟨i, c, x⟩]) i j stage'
  other : ∀ {m m' log i j stage k j' s s' c x}, k ≠ i → duties[i]? = some (.deliver j) →
    duties[k]? = some (.deliver j') → P m log i j stage → P m log k j' s → Turn j' m s c x s' m' →
    P m' (log ++ [⟨k, c, x⟩]) i j stage
  announced : ∀ {m m' log i j stage k c x}, k ≠ i → P m log i j stage → Announces m c x m' →
    P m' (log ++ [⟨k, c, x⟩]) i j stage

namespace Crew

variable {P : Charge} {duties : List Duty} {crew crew' : Crew}

/-- Every worker is at a stage of its delivery, where the charge holds, or is announcing. -/
def Manned (P : Charge) (duties : List Duty) (crew : Crew) : Prop :=
  ∀ (i : Nat) w, crew.workers[i]? = some w → Announcing w ∨
    ∃ j stage, duties[i]? = some (.deliver j) ∧ Follows j w stage ∧ P crew.memory crew.log i j stage

/-- The calls that can come next in a crew. -/
inductive Acts (P : Charge) (duties : List Duty) (crew : Crew) : Event → Memory → Prop where
  | turn {i : Nat} {j : Job} {stage stage' : Stage} {c : outside.Call} {x : outside.Reply c}
      {m : Memory} (duty : duties[i]? = some (.deliver j))
      (holds : P crew.memory crew.log i j stage) (turn : Turn j crew.memory stage c x stage' m) :
    Acts P duties crew ⟨i, c, x⟩ m
  | announce (i : Nat) {c : outside.Call} {x : outside.Reply c} {m : Memory}
      (announces : Announces crew.memory c x m) : Acts P duties crew ⟨i, c, x⟩ m

theorem Manned.acts (h : Manned P duties crew) (step : Step nobody crew crew') :
    ∃ e m rest, crew' = crew.worked m e rest ∧ Answers crew.memory e.call e.reply m ∧
      Acts P duties crew e m := by
  cases step with
  | @work i c next x m turn answers =>
    rcases h i _ turn with hannounces | ⟨j, stage, hduty, hfollows, hP⟩
    · exact ⟨_, m, _, rfl, answers, .announce i (hannounces.turn answers).1⟩
    · obtain ⟨after, moves, -⟩ := hfollows.moves
      exact ⟨_, m, _, rfl, answers, .turn hduty hP (turn_of_answer moves answers)⟩
  | other h => exact h.elim

theorem manned_assign (m : Memory) (start : ∀ i j, duties[i]? = some (.deliver j) →
    P m [] i j .start) : Manned P duties (assign m duties) := by
  intro i w hw
  change (duties.map Duty.task)[i]? = some w at hw
  rw [List.getElem?_map] at hw
  obtain ⟨duty, hduty, rfl⟩ := Option.map_eq_some_iff.mp hw
  cases duty with
  | announce fresh eventType payload => exact .inl (announcing fresh eventType payload)
  | deliver j => exact .inr ⟨j, .start, hduty, task_follows j, start i j hduty⟩

theorem Manned.step (kept : P.Kept duties) (h : Manned P duties crew)
    (step : Step nobody crew crew') : Manned P duties crew' := by
  cases step with
  | @work i c next x m turn answers =>
    intro k w hw
    rcases worker_worked hw with ⟨rfl, rfl⟩ | ⟨hne, hw⟩
    · rcases h k _ turn with hannounces | ⟨j, stage, hduty, hfollows, hP⟩
      · exact .inl (hannounces.turn answers).2
      · obtain ⟨after, moves, hafter⟩ := hfollows.moves
        exact .inr ⟨j, after x, hduty, hafter x, kept.own hP (turn_of_answer moves answers)⟩
    · rcases h k w hw with hannounces | ⟨j, stage, hduty, hfollows, hP⟩
      · exact .inl hannounces
      · refine .inr ⟨j, stage, hduty, hfollows, ?_⟩
        rcases h i _ turn with hannounces | ⟨j', s, hduty', hfollows', hP'⟩
        · exact kept.announced hne.symm hP (hannounces.turn answers).1
        · obtain ⟨after, moves, -⟩ := hfollows'.moves
          exact kept.other hne.symm hduty hduty' hP hP' (turn_of_answer moves answers)
  | other h => exact h.elim

/-- A charge that is kept holds in every state that the crew reaches. -/
theorem manned_reached {m : Memory} (kept : P.Kept duties)
    (start : ∀ i j, duties[i]? = some (.deliver j) → P m [] i j .start)
    (run : Relation.ReflTransGen (Step nobody) (assign m duties) crew) : Manned P duties crew := by
  induction run with
  | refl => exact manned_assign m start
  | tail _ step ih => exact ih.step kept step

end Crew

end ShopRelay.Tracker
