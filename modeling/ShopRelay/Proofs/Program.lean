import ShopRelay.Task

/-!
What programs ask and are replied. A program passes through a list of exchanges to its result when
it makes these calls in this order and the outside world, whatever it is, gives these replies.
-/

namespace ShopRelay

variable {I J : Interface} {α β : Type}

namespace Interface

/-- A call with the reply it got. -/
structure Exchange (I : Interface) where
  call : I.Call
  reply : I.Reply call

namespace Exchange

def left (e : I.Exchange) : (I.sum J).Exchange := ⟨.inl e.call, e.reply⟩

def right (e : J.Exchange) : (I.sum J).Exchange := ⟨.inr e.call, e.reply⟩

end Exchange

end Interface

open Interface (Exchange)

namespace Program

/-- The exchanges of a run. -/
def log {σ : Type} (reply : (c : I.Call) → σ → I.Reply c × σ) :
    Program I α → σ → List I.Exchange
  | .done _, _ => []
  | .call c next, s => ⟨c, (reply c s).1⟩ :: log reply (next (reply c s).1) (reply c s).2

inductive Passes : Program I α → List I.Exchange → α → Prop where
  | done (x : α) : Passes (.done x) [] x
  | call {c : I.Call} {next : I.Reply c → Program I α} {es : List I.Exchange} {x : α}
      (r : I.Reply c) (rest : Passes (next r) es x) : Passes (.call c next) (⟨c, r⟩ :: es) x

variable {p : Program I α} {es : List I.Exchange}

theorem passes_run {σ : Type} (reply : (c : I.Call) → σ → I.Reply c × σ) (p : Program I α) (s : σ) :
    p.Passes (p.log reply s) (p.run reply s).1 := by
  induction p generalizing s with
  | done x => exact .done x
  | call c next ih => exact .call _ (ih _ _)

theorem passes_done {x y : α} (h : (Program.done x : Program I α).Passes es y) :
    es = [] ∧ y = x := by
  cases h
  exact ⟨rfl, rfl⟩

theorem passes_ask {c : I.Call} {r : I.Reply c} (h : (ask I c).Passes es r) : es = [⟨c, r⟩] := by
  cases h with
  | call r rest =>
    obtain ⟨rfl, rfl⟩ := passes_done rest
    rfl

theorem passes_bind {f : α → Program I β} {y : β} (h : (p.bind f).Passes es y) :
    ∃ first rest x, es = first ++ rest ∧ p.Passes first x ∧ (f x).Passes rest y := by
  induction p generalizing es with
  | done x => exact ⟨[], es, x, rfl, .done x, h⟩
  | call c next ih =>
    cases h with
    | call r h =>
      obtain ⟨first, rest, x, rfl, hfirst, hrest⟩ := ih r h
      exact ⟨⟨c, r⟩ :: first, rest, x, rfl, .call r hfirst, hrest⟩

theorem Passes.bind {f : α → Program I β} {first rest : List I.Exchange} {x : α} {y : β}
    (h : p.Passes first x) (hrest : (f x).Passes rest y) : (p.bind f).Passes (first ++ rest) y := by
  induction h with
  | done x => exact hrest
  | call r _ ih => exact .call r (ih hrest)

/-- A program whose result is only turned into another one. -/
theorem passes_map {f : α → Program I β} {g : α → β} (ends : ∀ x, f x = .done (g x)) {y : β}
    (h : (p.bind f).Passes es y) : ∃ x, p.Passes es x ∧ y = g x := by
  obtain ⟨first, rest, x, rfl, hfirst, hrest⟩ := passes_bind h
  rw [ends x] at hrest
  obtain ⟨rfl, rfl⟩ := passes_done hrest
  rw [List.append_nil]
  exact ⟨x, hfirst, rfl⟩

/-- A program whose calls are each made by one call over another interface. -/
theorem passes_translate {f : (c : I.Call) → Program J (I.Reply c)}
    {lift : I.Exchange → J.Exchange}
    (single : ∀ c r es, (f c).Passes es r → es = [lift ⟨c, r⟩]) {x : α} {es : List J.Exchange}
    (h : (p.translate f).Passes es x) : ∃ asked, es = asked.map lift ∧ p.Passes asked x := by
  induction p generalizing es with
  | done y =>
    obtain ⟨rfl, rfl⟩ := passes_done h
    exact ⟨[], rfl, .done x⟩
  | call c next ih =>
    obtain ⟨first, rest, r, rfl, hfirst, hrest⟩ := passes_bind h
    obtain rfl := single c r first hfirst
    obtain ⟨asked, rfl, hasked⟩ := ih r hrest
    exact ⟨⟨c, r⟩ :: asked, rfl, .call r hasked⟩

theorem passes_left {x : α} {es : List (I.sum J).Exchange}
    (h : (left p : Program (I.sum J) α).Passes es x) :
    ∃ asked, es = asked.map .left ∧ p.Passes asked x :=
  passes_translate (fun _ _ _ => passes_ask) h

theorem passes_right {p : Program J α} {x : α} {es : List (I.sum J).Exchange}
    (h : (right p : Program (I.sum J) α).Passes es x) :
    ∃ asked, es = asked.map .right ∧ p.Passes asked x :=
  passes_translate (fun _ _ _ => passes_ask) h

end Program

namespace Task

variable {es : List I.Exchange} {t : Task I α}

/-- What a task asks, and the result or the fault with which it ends. -/
abbrev Passes (t : Task I α) (es : List I.Exchange) (y : Except Fault α) : Prop :=
  Program.Passes t.attempt es y

theorem passes_done {x : α} {y : Except Fault α} (h : (done x : Task I α).Passes es y) :
    es = [] ∧ y = .ok x :=
  Program.passes_done h

/-- A task goes on with the result of its first part, or ends with that part's fault. -/
theorem passes_bind {f : α → Task I β} {y : Except Fault β} (h : (t >>= f).Passes es y) :
    ∃ first rest r, es = first ++ rest ∧ t.Passes first r ∧
      match r with
      | .error e => rest = [] ∧ y = .error e
      | .ok x => (f x).Passes rest y := by
  obtain ⟨first, rest, e | x, rfl, hfirst, hrest⟩ := Program.passes_bind h
  · exact ⟨first, rest, .error e, rfl, hfirst, Program.passes_done hrest⟩
  · exact ⟨first, rest, .ok x, rfl, hfirst, hrest⟩

theorem Passes.bind {f : α → Task I β} {first rest : List I.Exchange} {x : α} {y : Except Fault β}
    (h : t.Passes first (.ok x)) (hrest : (f x).Passes rest y) :
    (t >>= f).Passes (first ++ rest) y :=
  Program.Passes.bind h hrest

/-- A task goes on from the state in which its first part succeeded. -/
theorem run_bind {σ : Type} {reply : (c : I.Call) → σ → I.Reply c × σ} {f : α → Task I β} {x : α}
    {s s' : σ} (h : t.run reply s = (.ok x, s')) : (t >>= f).run reply s = (f x).run reply s' := by
  have ht : Program.run reply t s = (.ok x, s') := h
  refine (Program.run_bind reply t _ s).trans ?_
  rw [ht]
  rfl

theorem passes_map {g : α → β} {y : Except Fault β}
    (h : (t >>= fun x => done (g x)).Passes es y) : ∃ r, t.Passes es r ∧ y = r.map g :=
  Program.passes_map (fun
    | .ok _ => rfl
    | .error _ => rfl) h

theorem passes_context {doing : String} {y : Except Fault α} (h : (t.context doing).Passes es y) :
    ∃ r, t.Passes es r ∧ y = r.mapError (.context doing) :=
  Program.passes_map (fun
    | .ok _ => rfl
    | .error _ => rfl) h

end Task

end ShopRelay
