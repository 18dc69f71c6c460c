import ShopRelay.Proofs.Tracker.Serving

/-!
What a task does to the outside world: its calls with the replies they got, in order. The world is
any store and any targets; one of the store's calls can be made to fail.
-/

namespace ShopRelay.Tracker

/-- A call with the reply it got. -/
structure Effect where
  call : outside.Call
  reply : outside.Reply call

namespace Effect

def stored (c : StoreCall) (x : c.Answer) : Effect := ⟨.inl c, .ok x⟩

def failed (c : StoreCall) (f : Fault) : Effect := ⟨.inl c, .error f⟩

def sent (x : Sending) (r : SendReport) : Effect := ⟨.inr x, r⟩

def isStoreCall : Effect → Bool
  | ⟨.inl _, _⟩ => true
  | ⟨.inr _, _⟩ => false

def fault? : Effect → Option Fault
  | ⟨.inl _, .error f⟩ => some f
  | _ => none

/-- The attempts that were stored. -/
def inserted : Effect → List Attempt
  | ⟨.inl (.insertAttempt a), .ok _⟩ => [a]
  | _ => []

def exchanged (e : Effect) : List Exchange := exchange e.call e.reply

end Effect

/-- How the store and the targets reply, and what that makes of the state of both. -/
structure World (σ : Type) where
  store : (c : StoreCall) → σ → Except Fault c.Answer × σ
  target : Sending → σ → SendReport × σ

/-- A task that was run: its result, what it did, and what is the state then. -/
structure Run (σ α : Type) where
  result : Except Fault α
  effects : List Effect
  state : σ

def Run.cons {σ α : Type} (e : Effect) (run : Run σ α) : Run σ α :=
  { run with effects := e :: run.effects }

namespace World

variable {σ α : Type}

def reply (w : World σ) : (c : outside.Call) → σ → outside.Reply c × σ :=
  Interface.sumReply w.store w.target

/-- The world in which calls of the store fail as a schedule says. -/
def faltering (w : World σ) : World (σ × List (Option Fault)) where
  store := Tracker.faltering w.store
  target x s := ((w.target x s.1).1, ((w.target x s.1).2, s.2))

def effects (w : World σ) : Program outside α → σ → List Effect
  | .done _, _ => []
  | .call c next, s => ⟨c, (w.reply c s).1⟩ :: w.effects (next (w.reply c s).1) (w.reply c s).2

def run (w : World σ) (t : Task outside α) (s : σ) : Run σ α :=
  ⟨(t.run w.reply s).1, w.effects t s, (t.run w.reply s).2⟩

/-- The run in which a call of the store fails, after as many others as are given. -/
def cut (w : World σ) (k : Nat) (f : Fault) (t : Task outside α) (s : σ) : Run σ α :=
  let run := w.faltering.run t (s, List.replicate k none ++ [some f])
  ⟨run.result, run.effects, run.state.1⟩

/-- What a list of effects makes of a state. -/
def perform (w : World σ) (es : List Effect) (s : σ) : σ :=
  es.foldl (fun s e => (w.reply e.call s).2) s

end World

/-- A trial is a world. -/
def Trial.world : World Trial := ⟨Trial.replyStore, Trial.replySending⟩

variable {σ : Type} {w : World σ} {j : Job} {t : Task outside (Option DeliveryStatus)}
  {stage : Stage}

/-- What holds at the first stage of what was done so far, and is kept by each call, holds of a whole
run. -/
theorem Follows.accounts (holds : Stage → List Effect → σ → Prop)
    (kept : ∀ stage es s m, holds stage es s → stage.move? j = some m →
      holds (m.after (w.reply m.call s).1) (es ++ [⟨m.call, (w.reply m.call s).1⟩])
        (w.reply m.call s).2)
    (h : Follows j t stage) {es : List Effect} {s : σ} (hs : holds stage es s) :
    holds (.ended (w.run t s).result) (es ++ (w.run t s).effects) (w.run t s).state := by
  induction h generalizing es s with
  | ended result =>
    change holds (.ended result) (es ++ []) s
    rwa [List.append_nil]
  | @call stage m next moves then_ ih =>
    have hnext := ih _ (kept _ _ _ _ hs moves)
    rw [List.append_assoc] at hnext
    exact hnext

/-- A program that is at its end is done. -/
theorem Follows.done {result : Except Fault (Option DeliveryStatus)}
    (h : Follows j t (.ended result)) : t = Program.done result := by
  cases h with
  | ended => rfl
  | call moves => cases moves

end ShopRelay.Tracker
