/-!
Programs that ask the outside world: a program is done with a result, or makes a call and goes on
with the reply. Whoever runs it answers the calls, all at once or one by one between those of other
programs.
-/

namespace ShopRelay

/-- The calls that a program can make, and what each of them is replied. -/
structure Interface where
  Call : Type
  Reply : Call → Type

/-- The interface that has the calls of two. -/
abbrev Interface.sum (I J : Interface) : Interface where
  Call := I.Call ⊕ J.Call
  Reply
    | .inl c => I.Reply c
    | .inr c => J.Reply c

/-- Answers the calls of two interfaces over one state. -/
def Interface.sumReply {I J : Interface} {σ : Type} (f : (c : I.Call) → σ → I.Reply c × σ)
    (g : (c : J.Call) → σ → J.Reply c × σ) : (c : (I.sum J).Call) → σ → (I.sum J).Reply c × σ
  | .inl c, s => f c s
  | .inr c, s => g c s

inductive Program (I : Interface) (α : Type) where
  | done (result : α)
  | call (c : I.Call) (next : I.Reply c → Program I α)

namespace Program

variable {I J K L : Interface} {α β : Type}

def bind : Program I α → (α → Program I β) → Program I β
  | .done x, f => f x
  | .call c next, f => .call c fun r => (next r).bind f

instance : Monad (Program I) where
  pure := .done
  bind := bind

/-- The program that makes one call. -/
def ask (I : Interface) (c : I.Call) : Program I (I.Reply c) := .call c .done

/-- Runs a program to its end; the replies may depend on a state and change it. -/
def run {σ : Type} (reply : (c : I.Call) → σ → I.Reply c × σ) : Program I α → σ → α × σ
  | .done x, s => (x, s)
  | .call c next, s =>
    let (r, s) := reply c s
    run reply (next r) s

/-- The program in which each call is made by a program over other calls. -/
def translate (f : (c : I.Call) → Program J (I.Reply c)) : Program I α → Program J α
  | .done x => .done x
  | .call c next => (f c).bind fun r => (next r).translate f

def left (p : Program I α) : Program (I.sum J) α :=
  p.translate fun c => ask (I.sum J) (Sum.inl c)

def right (p : Program J α) : Program (I.sum J) α :=
  p.translate fun c => ask (I.sum J) (Sum.inr c)

/-- Translates the calls of either interface into those of another one. -/
def translateSum (f : (c : I.Call) → Program K (I.Reply c))
    (g : (c : J.Call) → Program L (J.Reply c)) (p : Program (I.sum J) α) : Program (K.sum L) α :=
  translate (I := I.sum J) (fun
    | .inl c => (f c).left
    | .inr c => (g c).right) p

@[simp] theorem bind_call (c : I.Call) (next : I.Reply c → Program I α) (f : α → Program I β) :
    (Program.call c next).bind f = .call c fun r => (next r).bind f := rfl

theorem bind_pure (p : Program I α) : p.bind .done = p := by
  induction p with
  | done => rfl
  | call c next ih => simp [ih]

theorem bind_assoc {γ : Type} (p : Program I α) (f : α → Program I β) (g : β → Program I γ) :
    (p.bind f).bind g = p.bind fun x => (f x).bind g := by
  induction p with
  | done => rfl
  | call c next ih => simp [ih]

theorem run_bind {σ : Type} (reply : (c : I.Call) → σ → I.Reply c × σ) (p : Program I α)
    (f : α → Program I β) (s : σ) :
    (p.bind f).run reply s = (f (p.run reply s).1).run reply (p.run reply s).2 := by
  induction p generalizing s with
  | done => rfl
  | call c next ih => exact ih _ _

theorem translate_bind (g : (c : I.Call) → Program J (I.Reply c)) (p : Program I α)
    (f : α → Program I β) :
    (p.bind f).translate g = (p.translate g).bind fun x => (f x).translate g := by
  induction p with
  | done => rfl
  | call c next ih => simp [translate, bind_assoc, ih]

end Program

end ShopRelay
