import ShopRelay.Fault
import ShopRelay.Program

/-!
Tasks: programs that may end with a fault. The first fault ends a task, and nothing is asked of the
outside world after it.
-/

namespace ShopRelay

/-- The interface of calls that are replied with a result or a fault. -/
abbrev faultyCalls (Call : Type) (Answer : Call → Type) : Interface where
  Call := Call
  Reply c := Except Fault (Answer c)

def Task (I : Interface) (α : Type) : Type := Program I (Except Fault α)

namespace Task

variable {I J : Interface} {α β : Type}

def done (x : α) : Task I α := Program.done (.ok x)

def fail (f : Fault) : Task I α := Program.done (.error f)

def ofExcept (r : Except Fault α) : Task I α := Program.done r

/-- A program as a task that does not fail. -/
def ofProgram (p : Program I α) : Task I α := Program.bind p done

def bind (t : Task I α) (f : α → Task I β) : Task I β :=
  Program.bind t fun
    | .ok x => f x
    | .error e => fail e

instance : Monad (Task I) where
  pure := done
  bind := bind

/-- The task whose fault, if it ends with one, says what was being done. -/
def context (doing : String) (t : Task I α) : Task I α :=
  Program.bind t fun
    | .ok x => done x
    | .error e => fail (.context doing e)

/-- The program that ends with the result or the fault. -/
def attempt (t : Task I α) : Program I (Except Fault α) := t

def left (t : Task I α) : Task (I.sum J) α := Program.left t

def right (t : Task J α) : Task (I.sum J) α := Program.right t

def run {σ : Type} (reply : (c : I.Call) → σ → I.Reply c × σ) (t : Task I α) (s : σ) :
    Except Fault α × σ :=
  Program.run reply t s

end Task

end ShopRelay
